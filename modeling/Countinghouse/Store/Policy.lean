import Countinghouse.Store.Basic

/-! # Roles and grants in the store

What a user may do, which rules a tenant has, and the changes to roles.  Every
operation looks up the permissions of its actor itself. -/

set_option autoImplicit false

namespace Countinghouse

/-- The rule that a row stands for, unless one of its codes names no permission. -/
def StoredRule.rule? (row : StoredRule) : Option Rule :=
  match Permission.ofCode? row.first, Permission.ofCode? row.second with
  | some first, some second => some ⟨row.id, first, second, row.description, row.active⟩
  | _, _ => none

structure RoleView where
  role : Role
  permissions : PermissionSet

namespace Store

variable (store : Store) (ctx : Context)

def permissions (user : UserId) : Except StoreFault PermissionSet := do
  ctx.use .userRoles
  let roles := (store.userRoles.filter fun row => row.tenant = ctx.tenant && row.user = user).map
    (·.role)
  if roles.isEmpty then return []
  ctx.use .rolePermissions
  let grants := store.rolePermissions.filter fun row =>
    row.tenant = ctx.tenant && roles.contains row.role
  return PermissionSet.ofList (grants.filterMap fun row => Permission.ofCode? row.code)

/-- The rules of the tenant and those of all. -/
def tenantRules : Except StoreFault (List Rule) := do
  ctx.use .rules
  let rows := store.rules.filter fun row => row.tenant = some ctx.tenant || row.tenant = none
  return rows.filterMap StoredRule.rule?

def grants : Except StoreFault Grants := do
  ctx.use .rolePermissions
  let permissions := (store.rolePermissions.filter (·.tenant = ctx.tenant)).filterMap fun row =>
    (Permission.ofCode? row.code).map fun p => (row.role, p)
  ctx.use .userRoles
  let assignments := (store.userRoles.filter (·.tenant = ctx.tenant)).map fun row =>
    (row.user, row.role)
  return ⟨permissions, assignments⟩

def listRoles : Except PolicyError (List RoleView) := do
  ctx.use .roles
  let rows := (store.roles.filter (·.tenant = ctx.tenant)).mergeSort fun a b =>
    decide (a.name ≤ b.name)
  let grants ← store.grants ctx
  return rows.map fun role => ⟨role, grants.rolePermissions role.id⟩

/-- A new role without permissions.  Names have at most a hundred characters and
are not used twice in a tenant. -/
def createRole (name : String) (description : Option String) :
    Except PolicyError (Store × Role) := do
  let held ← store.permissions ctx ctx.user
  held.require .sodManage
  let role : Role := ⟨ctx.newId 1, ctx.tenant, name, description⟩
  ctx.use .roles
  Store.require (name.length ≤ 100 && !store.roles.any fun row =>
    row.id = role.id || (row.tenant = ctx.tenant && row.name = name))
  return ({ store with roles := store.roles ++ [role] }, role)

/-- Only one who manages the grants may change them, and only for roles of the
tenant. -/
def checkGrantor (role : RoleId) : Except PolicyError Unit := do
  let held ← store.permissions ctx ctx.user
  held.require .sodManage
  ctx.use .roles
  if !store.roles.any fun row => row.id = role && row.tenant = ctx.tenant then
    throw (.roleNotFound role)

/-- Gives a permission to a role, unless it holds it already. -/
def grantPermission (role : RoleId) (p : Permission) :
    Except PolicyError (Store × GrantOutcome) := do
  store.checkGrantor ctx role
  let grants ← store.grants ctx
  if p ∈ grants.rolePermissions role then return (store, .clean)
  let rules ← store.tenantRules ctx
  let outcome ← grants.check rules (.permission role p) ctx.ledger.enforcement
  ctx.use .rolePermissions
  Store.require (!store.rolePermissions.any fun row => row.role = role && row.code = p.code)
  let row : StoredGrant := ⟨ctx.tenant, role, p.code⟩
  return ({ store with rolePermissions := store.rolePermissions ++ [row] }, outcome)

/-- Gives a role to a user, unless they have it already. -/
def assignRole (user : UserId) (role : RoleId) : Except PolicyError (Store × GrantOutcome) := do
  store.checkGrantor ctx role
  let grants ← store.grants ctx
  if role ∈ grants.userRoles user then return (store, .clean)
  let rules ← store.tenantRules ctx
  let outcome ← grants.check rules (.role user role) ctx.ledger.enforcement
  ctx.use .userRoles
  Store.require (!store.userRoles.any fun row => row.user = user && row.role = role)
  let row : StoredAssignment := ⟨ctx.tenant, user, role⟩
  return ({ store with userRoles := store.userRoles ++ [row] }, outcome)

def conflicts : Except PolicyError Conflicts := do
  let grants ← store.grants ctx
  let rules ← store.tenantRules ctx
  return grants.conflicts rules

def userPermissions (user : UserId) : Except PolicyError PermissionSet :=
  store.permissions ctx user

end Store

end Countinghouse
