import Countinghouse.Policy.Rule

/-! # Grants

Which role holds which permissions, and which user holds which roles.  The
grants of a tenant are the two lists of what was given, in the order of giving;
what they amount to does not depend on order or repetition.  A role is known as
soon as it is given a permission or given to a user. -/

set_option autoImplicit false

namespace Countinghouse

structure Grants where
  permissions : List (RoleId × Permission)
  assignments : List (UserId × RoleId)

inductive GrantChange where
  | permission (role : RoleId) (permission : Permission)
  | role (user : UserId) (role : RoleId)

namespace Grants

def empty : Grants := ⟨[], []⟩

def grant (g : Grants) (role : RoleId) (p : Permission) : Grants :=
  { g with permissions := g.permissions ++ [(role, p)] }

def assign (g : Grants) (user : UserId) (role : RoleId) : Grants :=
  { g with assignments := g.assignments ++ [(user, role)] }

def apply (g : Grants) : GrantChange → Grants
  | .permission role p => g.grant role p
  | .role user role => g.assign user role

def rolePermissions (g : Grants) (role : RoleId) : PermissionSet :=
  PermissionSet.ofHolds fun p => decide ((role, p) ∈ g.permissions)

def userRoles (g : Grants) (user : UserId) : List RoleId :=
  Id.sorted ((g.assignments.filter (·.1 = user)).map (·.2))

def effective (g : Grants) (user : UserId) : PermissionSet :=
  PermissionSet.ofHolds fun p =>
    (g.userRoles user).any fun role => decide ((role, p) ∈ g.permissions)

def rolesGranting (g : Grants) (user : UserId) (p : Permission) : List RoleId :=
  (g.userRoles user).filter fun role => decide ((role, p) ∈ g.permissions)

def roles (g : Grants) : List RoleId :=
  Id.sorted (g.permissions.map (·.1) ++ g.assignments.map (·.2))

def users (g : Grants) : List UserId := Id.sorted (g.assignments.map (·.1))

end Grants

end Countinghouse
