import Countinghouse.Policy.Check
import Countinghouse.Proofs.Sorted
import Countinghouse.Proofs.Success
import Mathlib.Data.List.Nodup
import Mathlib.Data.List.Perm.Basic

/-! # Conflicts over a run of grants

A grant to a role reaches every user of the role, so one change may introduce many conflicts.
The check of a change compares what the grants violate before and after it.  As grants are only
ever added, nothing that is violated ceases to be, and over a run of changes each conflict that
is new has been warned of once, by the change that introduced it. -/

set_option autoImplicit false

namespace Countinghouse

/-! ## What a conflict is known by -/

/-- The role or the user of a conflict, and the rule. -/
inductive ConflictKey where
  | role (role : RoleId) (rule : RuleId)
  | user (user : UserId) (rule : RuleId)
  deriving DecidableEq

def RoleConflict.key (c : RoleConflict) : ConflictKey := .role c.role c.rule

def UserConflict.key (c : UserConflict) : ConflictKey := .user c.user c.rule

namespace Conflicts

def keys (c : Conflicts) : List ConflictKey :=
  c.roles.map RoleConflict.key ++ c.users.map UserConflict.key

theorem role_mem_keys {c : Conflicts} {role : RoleId} {rule : RuleId} :
    .role role rule ∈ c.keys ↔ (role, rule) ∈ c.roles.map fun x => (x.role, x.rule) := by
  simp [keys, RoleConflict.key, UserConflict.key]

theorem user_mem_keys {c : Conflicts} {user : UserId} {rule : RuleId} :
    .user user rule ∈ c.keys ↔ (user, rule) ∈ c.users.map fun x => (x.user, x.rule) := by
  simp [keys, RoleConflict.key, UserConflict.key]

theorem keys_without (c earlier : Conflicts) :
    (c.without earlier).keys = c.keys.filter fun key => decide (key ∉ earlier.keys) := by
  have of_roles : ∀ x : RoleConflict,
      RoleConflict.key x ∈ earlier.keys ↔
        (x.role, x.rule) ∈ earlier.roles.map fun y => (y.role, y.rule) :=
    fun x => role_mem_keys
  have of_users : ∀ x : UserConflict,
      UserConflict.key x ∈ earlier.keys ↔
        (x.user, x.rule) ∈ earlier.users.map fun y => (y.user, y.rule) :=
    fun x => user_mem_keys
  rw [keys.eq_def c, keys.eq_def (c.without earlier)]
  simp only [List.filter_append, List.filter_map, without, Function.comp_def, of_roles, of_users]

theorem keys_of_isEmpty {c : Conflicts} (empty : c.isEmpty = true) : c.keys = [] := by
  obtain ⟨roles, users⟩ := Bool.and_eq_true_iff.mp empty
  simp [keys, List.isEmpty_iff.mp roles, List.isEmpty_iff.mp users]

end Conflicts

def Rule.AnyViolated (rules : List Rule) (id : RuleId) (held : PermissionSet) : Prop :=
  ∃ rule ∈ rules, rule.id = id ∧ rule.ViolatedBy held

theorem Rule.AnyViolated.mono {rules : List Rule} {id : RuleId} {held more : PermissionSet}
    (violated : AnyViolated rules id held) (included : held ⊆ more) :
    AnyViolated rules id more := by
  obtain ⟨rule, present, same, active, first, second⟩ := violated
  exact ⟨rule, present, same, active, included first, included second⟩

theorem Rule.anyViolated_iff {rules : List Rule} (distinct : (rules.map (·.id)).Nodup)
    {rule : Rule} (present : rule ∈ rules) {held : PermissionSet} :
    AnyViolated rules rule.id held ↔ rule.ViolatedBy held := by
  constructor
  · rintro ⟨other, listed, same, violated⟩
    rwa [List.inj_on_of_nodup_map distinct listed present same] at violated
  · intro violated
    exact ⟨rule, present, rfl, violated⟩

namespace Grants

variable {g more : Grants} {rules : List Rule}

/-- What a key says of the grants: the permissions of its role, or of its user, violate its
rule. -/
def InConflict (g : Grants) (rules : List Rule) : ConflictKey → Prop
  | .role role rule => Rule.AnyViolated rules rule (g.rolePermissions role)
  | .user user rule => Rule.AnyViolated rules rule (g.effective user)

theorem mem_rolePermissions {role : RoleId} {p : Permission} :
    p ∈ g.rolePermissions role ↔ (role, p) ∈ g.permissions := by
  rw [rolePermissions, PermissionSet.mem_ofHolds, decide_eq_true_eq]

theorem mem_userRoles {user : UserId} {role : RoleId} :
    role ∈ g.userRoles user ↔ (user, role) ∈ g.assignments := by
  rw [userRoles, Id.mem_sorted]
  simp

theorem mem_effective {user : UserId} {p : Permission} :
    p ∈ g.effective user ↔
      ∃ role, (user, role) ∈ g.assignments ∧ (role, p) ∈ g.permissions := by
  simp only [effective, PermissionSet.mem_ofHolds, List.any_eq_true, mem_userRoles,
    decide_eq_true_eq]

theorem mem_roles_of_holds {role : RoleId} {p : Permission} (holds : p ∈ g.rolePermissions role) :
    role ∈ g.roles := by
  rw [roles, Id.mem_sorted, List.mem_append]
  exact Or.inl (List.mem_map_of_mem (f := Prod.fst) (mem_rolePermissions.mp holds))

theorem mem_users_of_holds {user : UserId} {p : Permission} (holds : p ∈ g.effective user) :
    user ∈ g.users := by
  obtain ⟨role, assigned, _⟩ := mem_effective.mp holds
  rw [users, Id.mem_sorted]
  exact List.mem_map_of_mem (f := Prod.fst) assigned

def violations {α β : Type} (rules : List Rule) (holders : List α) (key : α → RuleId → β)
    (held : α → PermissionSet) : List β :=
  holders.flatMap fun holder =>
    (rules.filter fun rule => decide (rule.ViolatedBy (held holder))).map fun rule =>
      key holder rule.id

theorem keys_conflicts (g : Grants) :
    (g.conflicts rules).keys =
      violations rules g.roles .role g.rolePermissions ++
        violations rules g.users .user g.effective := by
  simp only [Conflicts.keys, conflicts, roleConflicts, userConflicts, violations, List.map_flatMap,
    List.map_map]
  rfl

section Violations

variable {α β : Type} {holders : List α} {key : α → RuleId → β} {held : α → PermissionSet}

theorem mem_violations_iff (injective : ∀ a b r s, key a r = key b s → a = b ∧ r = s)
    (known : ∀ holder p, p ∈ held holder → holder ∈ holders) {holder : α} {rule : RuleId} :
    key holder rule ∈ violations rules holders key held ↔
      Rule.AnyViolated rules rule (held holder) := by
  simp only [violations, List.mem_flatMap, List.mem_map, List.mem_filter, decide_eq_true_eq]
  constructor
  · rintro ⟨other, _, violated, ⟨present, violates⟩, same⟩
    obtain ⟨rfl, rfl⟩ := injective _ _ _ _ same
    exact ⟨violated, present, rfl, violates⟩
  · rintro ⟨violated, present, rfl, violates⟩
    exact ⟨holder, known _ _ violates.2.1, violated, ⟨present, violates⟩, rfl⟩

/-- Holders and rules each come once, and so does what they are found together in. -/
theorem violations_nodup (injective : ∀ a b r s, key a r = key b s → a = b ∧ r = s)
    (apart : holders.Nodup) (distinct : (rules.map (·.id)).Nodup) :
    (violations rules holders key held).Nodup := by
  rw [violations, List.nodup_flatMap]
  constructor
  · intro holder _
    have kept : ((rules.filter fun rule =>
        decide (rule.ViolatedBy (held holder))).map (·.id)).Nodup :=
      distinct.sublist (List.filter_sublist.map _)
    have mapped := kept.map fun r s same => (injective holder holder r s same).2
    rwa [List.map_map] at mapped
  · refine apart.imp ?_
    intro holder other differ
    simp only [Function.onFun, List.disjoint_left, List.mem_map]
    rintro _ ⟨rule, _, rfl⟩ ⟨rule', _, same⟩
    exact differ (injective _ _ _ _ same).1.symm

end Violations

theorem mem_conflicts_iff (key : ConflictKey) :
    key ∈ (g.conflicts rules).keys ↔ g.InConflict rules key := by
  rw [keys_conflicts, List.mem_append]
  -- A key of a role is no key of a user, so only one of the two parts can have it.
  cases key with
  | role role rule =>
    have of_user : ConflictKey.role role rule ∉ violations rules g.users .user g.effective := by
      simp [violations]
    rw [or_iff_left of_user, InConflict]
    exact mem_violations_iff (fun _ _ _ _ => ConflictKey.role.inj) fun _ _ => mem_roles_of_holds
  | user user rule =>
    have of_role : ConflictKey.user user rule ∉
        violations rules g.roles .role g.rolePermissions := by
      simp [violations]
    rw [or_iff_right of_role, InConflict]
    exact mem_violations_iff (fun _ _ _ _ => ConflictKey.user.inj) fun _ _ => mem_users_of_holds

theorem conflicts_keys_nodup (g : Grants) (distinct : (rules.map (·.id)).Nodup) :
    (g.conflicts rules).keys.Nodup := by
  have of_roles : (violations rules g.roles ConflictKey.role g.rolePermissions).Nodup :=
    violations_nodup (fun _ _ _ _ => ConflictKey.role.inj) (Id.sorted_nodup _) distinct
  have of_users : (violations rules g.users ConflictKey.user g.effective).Nodup :=
    violations_nodup (fun _ _ _ _ => ConflictKey.user.inj) (Id.sorted_nodup _) distinct
  rw [keys_conflicts, List.nodup_append]
  refine ⟨of_roles, of_users, ?_⟩
  intro key of_role other of_user same
  simp only [violations, List.mem_flatMap, List.mem_map] at of_role of_user
  obtain ⟨_, _, _, _, rfl⟩ := of_role
  obtain ⟨_, _, _, _, rfl⟩ := of_user
  cases same

/-! ## A change -/

theorem inConflict_mono (permissions : g.permissions ⊆ more.permissions)
    (assignments : g.assignments ⊆ more.assignments) {key : ConflictKey}
    (violated : g.InConflict rules key) : more.InConflict rules key := by
  cases key with
  | role role rule =>
    refine Rule.AnyViolated.mono violated ?_
    intro p holds
    exact mem_rolePermissions.mpr (permissions (mem_rolePermissions.mp holds))
  | user user rule =>
    refine Rule.AnyViolated.mono violated ?_
    intro p holds
    obtain ⟨role, assigned, granted⟩ := mem_effective.mp holds
    exact mem_effective.mpr ⟨role, assignments assigned, permissions granted⟩

theorem inConflict_apply {change : GrantChange} {key : ConflictKey}
    (violated : g.InConflict rules key) : (g.apply change).InConflict rules key := by
  refine inConflict_mono ?_ ?_ violated
  · cases change with
    | permission role p => exact List.subset_append_left _ _
    | role user role => exact List.Subset.refl _
  · cases change with
    | permission role p => exact List.Subset.refl _
    | role user role => exact List.subset_append_left _ _

theorem mem_introduced_iff {change : GrantChange} {key : ConflictKey} :
    key ∈ (g.introduced rules change).keys ↔
      (g.apply change).InConflict rules key ∧ ¬ g.InConflict rules key := by
  rw [introduced, Conflicts.keys_without, List.mem_filter, decide_eq_true_eq, mem_conflicts_iff,
    mem_conflicts_iff]

theorem conflicts_apply (g : Grants) (distinct : (rules.map (·.id)).Nodup)
    (change : GrantChange) :
    ((g.apply change).conflicts rules).keys.Perm
      ((g.conflicts rules).keys ++ (g.introduced rules change).keys) := by
  have introduced_nodup : (g.introduced rules change).keys.Nodup := by
    rw [introduced, Conflicts.keys_without]
    exact (conflicts_keys_nodup _ distinct).filter _
  have apart : ∀ key ∈ (g.conflicts rules).keys, ∀ other ∈ (g.introduced rules change).keys,
      key ≠ other := by
    rintro key old _ new rfl
    exact (mem_introduced_iff.mp new).2 ((mem_conflicts_iff key).mp old)
  -- Neither side repeats a key, so it is enough that both have the same ones.
  refine (List.perm_ext_iff_of_nodup (conflicts_keys_nodup _ distinct)
    (List.nodup_append.mpr ⟨conflicts_keys_nodup _ distinct, introduced_nodup, apart⟩)).mpr ?_
  intro key
  rw [List.mem_append, mem_introduced_iff, mem_conflicts_iff, mem_conflicts_iff]
  by_cases old : g.InConflict rules key
  · simp [old, inConflict_apply old]
  · simp [old]

end Grants

/-! ## Runs -/

/-- A change that is asked for, and what is to be done about the conflicts it introduces. -/
structure GrantRequest where
  change : GrantChange
  enforcement : Enforcement

def GrantOutcome.reported : GrantOutcome → List ConflictKey
  | .clean => []
  | .warned conflicts => conflicts.keys

namespace Grants

variable {g : Grants} {rules : List Rule}

def after (g : Grants) (rules : List Rule) (request : GrantRequest) : Grants :=
  match g.check rules request.change request.enforcement with
  | .ok _ => g.apply request.change
  | .error _ => g

def warned (g : Grants) (rules : List Rule) (request : GrantRequest) : List ConflictKey :=
  match g.check rules request.change request.enforcement with
  | .ok outcome => outcome.reported
  | .error _ => []

def run (rules : List Rule) : Grants → List GrantRequest → Grants
  | g, [] => g
  | g, request :: rest => run rules (g.after rules request) rest

def warnings (rules : List Rule) : Grants → List GrantRequest → List ConflictKey
  | _, [] => []
  | g, request :: rest => g.warned rules request ++ warnings rules (g.after rules request) rest

theorem check_ok {change : GrantChange} {enforcement : Enforcement} {outcome : GrantOutcome}
    (allowed : g.check rules change enforcement = .ok outcome) :
    outcome.reported = (g.introduced rules change).keys ∧
      (enforcement = .block → outcome.reported = []) := by
  unfold check at allowed
  by_cases empty : (g.introduced rules change).isEmpty
  · rw [if_pos empty] at allowed
    cases allowed
    exact ⟨(Conflicts.keys_of_isEmpty empty).symm, fun _ => rfl⟩
  · rw [if_neg empty] at allowed
    cases enforcement with
    | block => cases allowed
    | warn =>
      cases allowed
      exact ⟨rfl, fun block => by cases block⟩

/-- One request adds the conflicts that it is warned of, and nothing else. -/
theorem conflicts_after (g : Grants) (distinct : (rules.map (·.id)).Nodup)
    (request : GrantRequest) :
    ((g.after rules request).conflicts rules).keys.Perm
      ((g.conflicts rules).keys ++ g.warned rules request) := by
  unfold after warned
  cases allowed : g.check rules request.change request.enforcement with
  | ok outcome =>
    have reported := (check_ok allowed).1
    dsimp only
    rw [reported]
    exact conflicts_apply g distinct request.change
  | error refusal =>
    dsimp only
    rw [List.append_nil]

theorem warned_of_block {request : GrantRequest} (block : request.enforcement = .block) :
    g.warned rules request = [] := by
  unfold warned
  cases allowed : g.check rules request.change request.enforcement with
  | ok outcome => exact (check_ok allowed).2 block
  | error refusal => rfl

theorem conflicts_run (g : Grants) (distinct : (rules.map (·.id)).Nodup)
    (requests : List GrantRequest) :
    ((g.run rules requests).conflicts rules).keys.Perm
      ((g.conflicts rules).keys ++ g.warnings rules requests) := by
  induction requests generalizing g with
  | nil => rw [run, warnings, List.append_nil]
  | cons request rest ih =>
    have step := (conflicts_after g distinct request).append_right
      (warnings rules (g.after rules request) rest)
    rw [List.append_assoc] at step
    exact (ih (g.after rules request)).trans step

theorem warnings_of_block {requests : List GrantRequest}
    (block : ∀ request ∈ requests, request.enforcement = .block) :
    g.warnings rules requests = [] := by
  induction requests generalizing g with
  | nil => rfl
  | cons request rest ih =>
    rw [warnings, warned_of_block (block request List.mem_cons_self),
      ih fun later present => block later (List.mem_cons_of_mem _ present)]
    rfl

/-- The conflicts at the end of a run are those at its beginning and those that were warned of:
a conflict that is new was warned of exactly once, one that is not is still there and was not
warned of, and a run that blocks every conflict ends with the ones that it began with. -/
theorem run_conflicts (g : Grants) (distinct : (rules.map (·.id)).Nodup)
    (requests : List GrantRequest) :
    let before := (g.conflicts rules).keys
    let after := ((g.run rules requests).conflicts rules).keys
    let warned := g.warnings rules requests
    (∀ key, key ∈ after ↔ key ∈ before ∨ key ∈ warned) ∧
      (∀ key ∈ after, key ∉ before → warned.count key = 1) ∧
      (∀ key ∈ before, key ∈ after ∧ warned.count key = 0) ∧
      ((∀ request ∈ requests, request.enforcement = .block) → after.Perm before) := by
  intro before after warned
  have sum : after.Perm (before ++ warned) := conflicts_run g distinct requests
  -- Nothing is found twice at the end, so nothing stands twice in what the end is the sum of.
  have once : (before ++ warned).Nodup := sum.nodup_iff.mp (conflicts_keys_nodup _ distinct)
  obtain ⟨_, warned_once, apart⟩ := List.nodup_append.mp once
  have found : ∀ key, key ∈ after ↔ key ∈ before ∨ key ∈ warned := by
    intro key
    rw [sum.mem_iff, List.mem_append]
  refine ⟨found, ?_, ?_, ?_⟩
  · intro key present new
    have reported : key ∈ warned := ((found key).mp present).resolve_left new
    exact List.count_eq_one_of_mem warned_once reported
  · intro key old
    refine ⟨(found key).mpr (Or.inl old), List.count_eq_zero.mpr ?_⟩
    intro reported
    exact apart key old key reported rfl
  · intro block
    have silent : warned = [] := warnings_of_block block
    rwa [silent, List.append_nil] at sum

def clerks : Grants where
  permissions := [(Id.ofNat 7, .journalSubmit)]
  assignments := [(Id.ofNat 1, Id.ofNat 7), (Id.ofNat 2, Id.ofNat 7)]

/-- The role is to be allowed to approve them as well, which is at first refused. -/
def promotion : List GrantRequest :=
  [⟨.permission (Id.ofNat 7) .journalApprove, .block⟩,
    ⟨.permission (Id.ofNat 7) .journalApprove, .warn⟩,
    ⟨.role (Id.ofNat 3) (Id.ofNat 7), .warn⟩,
    ⟨.permission (Id.ofNat 7) .journalApprove, .block⟩]

theorem promotion_conflicts :
    (Rule.baseline.map (·.id)).Nodup ∧
      clerks.warnings Rule.baseline promotion =
        [.role (Id.ofNat 7) (Id.ofNat 0x70008000000000000001),
          .user (Id.ofNat 1) (Id.ofNat 0x70008000000000000001),
          .user (Id.ofNat 2) (Id.ofNat 0x70008000000000000001),
          .user (Id.ofNat 3) (Id.ofNat 0x70008000000000000001)] ∧
      ∀ key, key ∈ ((clerks.run Rule.baseline promotion).conflicts Rule.baseline).keys ↔
        key ∈ (clerks.conflicts Rule.baseline).keys ∨
          key ∈ clerks.warnings Rule.baseline promotion :=
  have distinct : (Rule.baseline.map (·.id)).Nodup := by decide
  ⟨distinct, by decide +kernel, (run_conflicts clerks distinct promotion).1⟩

end Grants

end Countinghouse
