import Countinghouse.Policy.Grants

/-! # Conflicts

What the grants of a tenant violate: every role that holds both permissions of
an active rule, and every user whose roles together hold both.  Conflicts stand
in the order of roles and users, and within one of these in the order of the
rules.  A conflict is known by its role or user and its rule. -/

set_option autoImplicit false

namespace Countinghouse

structure RoleConflict where
  role : RoleId
  rule : RuleId
  first : Permission
  second : Permission
  description : String
  deriving DecidableEq

structure UserConflict where
  user : UserId
  rule : RuleId
  /-- The user's roles that hold the first permission of the rule. -/
  firstRoles : List RoleId
  /-- The user's roles that hold the second. -/
  secondRoles : List RoleId
  description : String
  deriving DecidableEq

structure Conflicts where
  roles : List RoleConflict
  users : List UserConflict
  deriving DecidableEq

namespace Conflicts

def none : Conflicts := ⟨[], []⟩

def isEmpty (c : Conflicts) : Bool := c.roles.isEmpty && c.users.isEmpty

def size (c : Conflicts) : Nat := c.roles.length + c.users.length

def triggered (c : Conflicts) : List RuleId :=
  Id.sorted (c.roles.map (·.rule) ++ c.users.map (·.rule))

def without (c earlier : Conflicts) : Conflicts where
  roles := c.roles.filter fun x =>
    decide ((x.role, x.rule) ∉ earlier.roles.map fun y => (y.role, y.rule))
  users := c.users.filter fun x =>
    decide ((x.user, x.rule) ∉ earlier.users.map fun y => (y.user, y.rule))

end Conflicts

namespace Grants

def roleConflicts (g : Grants) (rules : List Rule) (role : RoleId) : List RoleConflict :=
  (rules.filter fun rule => decide (rule.ViolatedBy (g.rolePermissions role))).map fun rule =>
    ⟨role, rule.id, rule.first, rule.second, rule.description⟩

def userConflicts (g : Grants) (rules : List Rule) (user : UserId) : List UserConflict :=
  (rules.filter fun rule => decide (rule.ViolatedBy (g.effective user))).map fun rule =>
    ⟨user, rule.id, g.rolesGranting user rule.first, g.rolesGranting user rule.second,
      rule.description⟩

def conflicts (g : Grants) (rules : List Rule) : Conflicts where
  roles := g.roles.flatMap (g.roleConflicts rules)
  users := g.users.flatMap (g.userConflicts rules)

end Grants

end Countinghouse
