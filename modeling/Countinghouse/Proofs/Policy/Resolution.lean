import Countinghouse.Proofs.Policy.Conflicts
import Countinghouse.Store.Policy

/-! # What a user may do

Permissions are resolved twice.  An action looks up the roles of its actor and then what these
roles were given; the conflicts of a tenant are found in the graph of all its grants.  Both come
to the same, whatever codes are stored, for roles that were given nothing and for users who hold
no role. -/

set_option autoImplicit false

namespace Countinghouse

theorem Context.use_ok_iff {ctx : Context} {table : Table} {u : Unit} :
    ctx.use table = .ok u ↔ ¬ ctx.outage.Covers table := by
  unfold Context.use
  by_cases covered : ctx.outage.Covers table <;> simp [covered]

/-- Sets that were computed are in the order of the catalog, so that they are equal as soon as
they have the same members. -/
theorem PermissionSet.ofHolds_ext {holds holds' : Permission → Bool}
    (same : ∀ p, p ∈ ofHolds holds ↔ p ∈ ofHolds holds') : ofHolds holds = ofHolds holds' := by
  have pointwise : holds = holds' := by
    funext p
    have member := same p
    rw [mem_ofHolds, mem_ofHolds] at member
    exact Bool.eq_iff_iff.mpr member
  rw [pointwise]

namespace Store

variable {store : Store} {ctx : Context} {user : UserId} {held : PermissionSet} {grants : Grants}

/-- Some role of the user in the tenant was given the permission there. -/
def Allows (store : Store) (tenant : TenantId) (user : UserId) (p : Permission) : Prop :=
  ∃ assignment ∈ store.userRoles, assignment.tenant = tenant ∧ assignment.user = user ∧
    ∃ grant ∈ store.rolePermissions, grant.tenant = tenant ∧ grant.role = assignment.role ∧
      Permission.ofCode? grant.code = some p

/-! ## The look-up of an action -/

theorem permissions_catalog (read : store.permissions ctx user = .ok held) :
    ∃ holds, held = PermissionSet.ofHolds holds := by
  simp only [permissions, bind_ok_iff, ite_ok_iff, pure_ok_iff] at read
  obtain ⟨_, _, ⟨_, rfl⟩ | ⟨_, _, _, rfl⟩⟩ := read
  · exact ⟨fun _ => false, by simp [PermissionSet.ofHolds]⟩
  · exact ⟨_, rfl⟩

theorem mem_permissions_iff (read : store.permissions ctx user = .ok held) (p : Permission) :
    p ∈ held ↔ store.Allows ctx.tenant user p := by
  simp only [permissions, bind_ok_iff, ite_ok_iff, pure_ok_iff] at read
  obtain ⟨_, _, ⟨without, rfl⟩ | ⟨_, _, _, rfl⟩⟩ := read
  · -- Whoever holds no role is not asked for what roles were given.
    simp only [List.not_mem_nil, false_iff]
    rintro ⟨assignment, stored, ofTenant, ofUser, _⟩
    have listed : assignment.role ∈ (store.userRoles.filter fun row =>
        row.tenant = ctx.tenant && row.user = user).map (·.role) :=
      List.mem_map_of_mem (List.mem_filter.mpr ⟨stored, by simp [ofTenant, ofUser]⟩)
    rw [List.isEmpty_iff.mp without] at listed
    cases listed
  · simp only [PermissionSet.mem_ofList, List.mem_filterMap, List.mem_filter, Bool.and_eq_true,
      decide_eq_true_eq, List.contains_iff_mem, List.mem_map]
    constructor
    · rintro ⟨grant, ⟨given, inTenant, assignment, ⟨stored, ofTenant, ofUser⟩, sameRole⟩, named⟩
      exact ⟨assignment, stored, ofTenant, ofUser, grant, given, inTenant, sameRole.symm, named⟩
    · rintro ⟨assignment, stored, ofTenant, ofUser, grant, given, inTenant, sameRole, named⟩
      exact ⟨grant, ⟨given, inTenant, assignment, ⟨stored, ofTenant, ofUser⟩, sameRole.symm⟩,
        named⟩

/-! ## The graph of all grants -/

theorem mem_grants_permissions (loaded : store.grants ctx = .ok grants) {role : RoleId}
    {p : Permission} :
    (role, p) ∈ grants.permissions ↔ ∃ grant ∈ store.rolePermissions,
      grant.tenant = ctx.tenant ∧ grant.role = role ∧ Permission.ofCode? grant.code = some p := by
  simp only [Store.grants, bind_ok_iff, pure_ok_iff] at loaded
  obtain ⟨_, _, _, _, rfl⟩ := loaded
  simp only [List.mem_filterMap, List.mem_filter, decide_eq_true_eq, Option.map_eq_some_iff,
    Prod.mk.injEq]
  constructor
  · rintro ⟨grant, ⟨given, inTenant⟩, _, named, rfl, rfl⟩
    exact ⟨grant, given, inTenant, rfl, named⟩
  · rintro ⟨grant, given, inTenant, rfl, named⟩
    exact ⟨grant, ⟨given, inTenant⟩, p, named, rfl, rfl⟩

theorem mem_grants_assignments (loaded : store.grants ctx = .ok grants) {role : RoleId} :
    (user, role) ∈ grants.assignments ↔ ∃ assignment ∈ store.userRoles,
      assignment.tenant = ctx.tenant ∧ assignment.user = user ∧ assignment.role = role := by
  simp only [Store.grants, bind_ok_iff, pure_ok_iff] at loaded
  obtain ⟨_, _, _, _, rfl⟩ := loaded
  simp only [List.mem_map, List.mem_filter, decide_eq_true_eq, Prod.mk.injEq, and_assoc]

theorem mem_effective_iff (loaded : store.grants ctx = .ok grants) (p : Permission) :
    p ∈ grants.effective user ↔ store.Allows ctx.tenant user p := by
  simp only [Grants.mem_effective, mem_grants_assignments loaded, mem_grants_permissions loaded]
  constructor
  · rintro ⟨role, ⟨assignment, stored, ofTenant, ofUser, rfl⟩, given⟩
    exact ⟨assignment, stored, ofTenant, ofUser, given⟩
  · rintro ⟨assignment, stored, ofTenant, ofUser, given⟩
    exact ⟨assignment.role, ⟨assignment, stored, ofTenant, ofUser, rfl⟩, given⟩

/-! ## Both come to the same -/

theorem permissions_eq_effective (read : store.permissions ctx user = .ok held)
    (loaded : store.grants ctx = .ok grants) : held = grants.effective user := by
  have same : ∀ p, p ∈ held ↔ p ∈ grants.effective user := by
    intro p
    rw [mem_permissions_iff read, mem_effective_iff loaded]
  obtain ⟨holds, rfl⟩ := permissions_catalog read
  exact PermissionSet.ofHolds_ext same

/-- The conflicts name a user with a rule when some active rule of that identifier has both its
permissions among those of the user. -/
theorem flagged_iff {rules : List Rule} (id : RuleId) :
    (∃ conflict ∈ (grants.conflicts rules).users, conflict.user = user ∧ conflict.rule = id) ↔
      ∃ rule ∈ rules, rule.id = id ∧ rule.ViolatedBy (grants.effective user) := by
  have known : .user user id ∈ (grants.conflicts rules).keys ↔
      grants.InConflict rules (.user user id) := Grants.mem_conflicts_iff _
  rw [Conflicts.user_mem_keys, List.mem_map] at known
  simpa only [Prod.mk.injEq, Grants.InConflict, Rule.AnyViolated] using known

/-- What was read of the store agrees: the permissions of a user, the graph of grants, the roles
as they are listed, and the conflicts. -/
structure Resolved (store : Store) (ctx : Context) (user : UserId) (held : PermissionSet)
    (grants : Grants) (rules : List Rule) (views : List RoleView) (report : Conflicts) : Prop where
  effective : held = grants.effective user
  allowed : ∀ p, p ∈ held ↔ store.Allows ctx.tenant user p
  roles : (views.map (·.role)).Perm (store.roles.filter (·.tenant = ctx.tenant))
  listed : ∀ view ∈ views, view.permissions = grants.rolePermissions view.role.id
  flagged : ∀ id, (∃ conflict ∈ report.users, conflict.user = user ∧ conflict.rule = id) ↔
    ∃ rule ∈ rules, rule.id = id ∧ rule.active = true ∧ rule.first ∈ held ∧ rule.second ∈ held
  /-- Where rules are told apart, a user is flagged for the very rule. -/
  flaggedFor : (rules.map (·.id)).Nodup → ∀ rule ∈ rules, rule.active = true →
    ((∃ conflict ∈ report.users, conflict.user = user ∧ conflict.rule = rule.id) ↔
      rule.first ∈ held ∧ rule.second ∈ held)

theorem listRoles_ok {views : List RoleView} (listed : store.listRoles ctx = .ok views)
    (loaded : store.grants ctx = .ok grants) :
    (views.map (·.role)).Perm (store.roles.filter (·.tenant = ctx.tenant)) ∧
      ∀ view ∈ views, view.permissions = grants.rolePermissions view.role.id := by
  simp only [listRoles, liftM, monadLift, MonadLift.monadLift, bind_ok_iff, mapError_ok_iff,
    pure_ok_iff, loaded] at listed
  obtain ⟨_, _, _, ⟨⟩, rfl⟩ := listed
  constructor
  · rw [List.map_map, Function.comp_def, List.map_id']
    exact List.mergeSort_perm ..
  · simp only [List.forall_mem_map, implies_true]

theorem resolved_of_reads {rules : List Rule} {views : List RoleView}
    (read : store.permissions ctx user = .ok held) (loaded : store.grants ctx = .ok grants)
    (listed : store.listRoles ctx = .ok views) :
    store.Resolved ctx user held grants rules views (grants.conflicts rules) := by
  have same := permissions_eq_effective read loaded
  obtain ⟨roles, withGrants⟩ := listRoles_ok listed loaded
  have flagged : ∀ id, (∃ conflict ∈ (grants.conflicts rules).users, conflict.user = user ∧
      conflict.rule = id) ↔ ∃ rule ∈ rules, rule.id = id ∧ rule.active = true ∧
        rule.first ∈ held ∧ rule.second ∈ held := by
    intro id
    rw [flagged_iff, same]
    rfl
  refine ⟨same, mem_permissions_iff read, roles, withGrants, flagged, ?_⟩
  intro distinct rule stored active
  rw [flagged]
  constructor
  · rintro ⟨other, stored', sameId, _, holdsBoth⟩
    obtain rfl := List.inj_on_of_nodup_map distinct stored' stored sameId
    exact holdsBoth
  · rintro holdsBoth
    exact ⟨rule, stored, rfl, active, holdsBoth⟩

/-- What an action is checked against is what the graph of grants gives the user, the roles are
listed with what the graph gives them, and the conflicts flag a user for a rule exactly when it is
active and the user may exercise both of its permissions. -/
theorem permissions_resolved (store : Store) (ctx : Context) (user : UserId)
    (reachable : ∀ table ∈ [Table.roles, .rolePermissions, .userRoles, .rules],
      ¬ ctx.outage.Covers table) :
    ∃ held grants rules views report,
      store.permissions ctx user = .ok held ∧ store.grants ctx = .ok grants ∧
        store.tenantRules ctx = .ok rules ∧ store.listRoles ctx = .ok views ∧
        store.conflicts ctx = .ok report ∧
        store.Resolved ctx user held grants rules views report := by
  have used : ∀ table ∈ [Table.roles, .rolePermissions, .userRoles, .rules],
      ctx.use table = .ok () :=
    fun table needed => Context.use_ok_iff.mpr (reachable table needed)
  simp only [List.forall_mem_cons, List.not_mem_nil, false_implies, implies_true,
    and_true] at used
  obtain ⟨useRoles, useGrants, useAssignments, useRules⟩ := used
  obtain ⟨held, read⟩ : ∃ held, store.permissions ctx user = .ok held := by
    simp only [permissions, useAssignments, useGrants, bind, Except.bind]
    split
    · exact ⟨_, rfl⟩
    · exact ⟨_, rfl⟩
  obtain ⟨grants, loaded⟩ : ∃ grants, store.grants ctx = .ok grants := by
    simp only [Store.grants, useGrants, useAssignments]
    exact ⟨_, rfl⟩
  obtain ⟨rules, ruled⟩ : ∃ rules, store.tenantRules ctx = .ok rules := by
    simp only [tenantRules, useRules]
    exact ⟨_, rfl⟩
  obtain ⟨views, listed⟩ : ∃ views, store.listRoles ctx = .ok views := by
    simp only [listRoles, useRoles, loaded]
    exact ⟨_, rfl⟩
  have reported : store.conflicts ctx = .ok (grants.conflicts rules) := by
    simp only [Store.conflicts, loaded, ruled]
    rfl
  exact ⟨held, grants, rules, views, _, read, loaded, ruled, listed, reported,
    resolved_of_reads read loaded listed⟩

/-- A user holds a role that submits, one that approves and one that was given nothing.  A code
that no permission has and a grant of another tenant count for nothing. -/
def mixedGrants : Store :=
  let tenant : TenantId := Id.ofNat 1
  let other : TenantId := Id.ofNat 2
  let role (id : Nat) (name : String) : Role := ⟨Id.ofNat id, tenant, name, none⟩
  { Store.empty with
    roles := [role 1 "clerk", role 2 "visitor", role 3 "manager"]
    rolePermissions :=
      [⟨tenant, Id.ofNat 1, Permission.code .journalSubmit⟩, ⟨tenant, Id.ofNat 1, "journal.shred"⟩,
        ⟨tenant, Id.ofNat 3, Permission.code .journalApprove⟩,
        ⟨other, Id.ofNat 1, Permission.code .periodLock⟩]
    userRoles := [⟨tenant, Id.ofNat 1, Id.ofNat 1⟩, ⟨tenant, Id.ofNat 1, Id.ofNat 2⟩,
      ⟨tenant, Id.ofNat 1, Id.ofNat 3⟩, ⟨other, Id.ofNat 1, Id.ofNat 1⟩]
    rules := [⟨Id.ofNat 9, none, Permission.code .journalSubmit, Permission.code .journalApprove,
      "", true⟩] }

theorem mixedGrants_resolved :
    ∃ ctx : Context, ∃ grants rules views report,
      mixedGrants.conflicts ctx = .ok report ∧
        (report.users.map fun conflict => (conflict.user, conflict.rule)) =
          [(Id.ofNat 1, Id.ofNat 9)] ∧
        mixedGrants.Resolved ctx (Id.ofNat 1) [.journalSubmit, .journalApprove] grants rules views
          report := by
  let ctx : Context := ⟨Id.ofNat 1, Id.ofNat 1, ⟨1728000000⟩, 100, .default, .none⟩
  obtain ⟨held, grants, rules, views, report, read, _, _, _, reported, resolved⟩ :=
    permissions_resolved mixedGrants ctx (Id.ofNat 1) fun _ _ => id
  have holds : mixedGrants.permissions ctx (Id.ofNat 1) =
      .ok [.journalSubmit, .journalApprove] := by rfl
  obtain rfl := Except.ok.inj (holds.symm.trans read)
  have flags : (mixedGrants.conflicts ctx).map
      (fun report => report.users.map fun conflict => (conflict.user, conflict.rule)) =
        .ok [(Id.ofNat 1, Id.ofNat 9)] := by decide +kernel
  rw [reported] at flags
  exact ⟨ctx, grants, rules, views, report, reported, Except.ok.inj flags, resolved⟩

end Store

end Countinghouse
