import Countinghouse.Proofs.Policy.Reporting
import Countinghouse.Store.Policy

/-! # Whom a change affects

The check of a change goes through all roles and all users of the tenant twice and reports what
it finds the second time only.  A permission for a role adds to what that role holds and to what
its users hold; a role for a user adds to what that user holds.  So no one else is reported, and
every rule that is reported is about something that was added.  A change that adds nothing is not
reported on at all, so that it need not be checked. -/

set_option autoImplicit false

namespace Countinghouse

variable {g : Grants} {rules : List Rule} {change : GrantChange} {rule : Rule}

/-! ## What a change adds -/

/-- A rule that is violated once there are more permissions is active and about one that was
added. -/
theorem Rule.ViolatedBy.added {held more : PermissionSet} (violated : rule.ViolatedBy more)
    (kept : ¬ rule.ViolatedBy held) :
    rule.active = true ∧
      ((rule.first ∈ more ∧ rule.first ∉ held) ∨ (rule.second ∈ more ∧ rule.second ∉ held)) := by
  obtain ⟨active, first, second⟩ := violated
  refine ⟨active, ?_⟩
  by_cases had : rule.first ∈ held
  · exact Or.inr ⟨second, fun both => kept ⟨active, had, both⟩⟩
  · exact Or.inl ⟨first, had⟩

namespace Grants

theorem mem_rolePermissions_grant {role other : RoleId} {p q : Permission} :
    q ∈ (g.grant role p).rolePermissions other ↔
      q ∈ g.rolePermissions other ∨ other = role ∧ q = p := by
  simp only [mem_rolePermissions, grant, List.mem_append, List.mem_singleton, Prod.mk.injEq]

theorem mem_effective_grant {role : RoleId} {user : UserId} {p q : Permission} :
    q ∈ (g.grant role p).effective user ↔
      q ∈ g.effective user ∨ (user, role) ∈ g.assignments ∧ q = p := by
  simp only [mem_effective, grant, List.mem_append, List.mem_singleton, Prod.mk.injEq]
  constructor
  · rintro ⟨through, assigned, granted | ⟨rfl, rfl⟩⟩
    · exact Or.inl ⟨through, assigned, granted⟩
    · exact Or.inr ⟨assigned, rfl⟩
  · rintro (⟨through, assigned, granted⟩ | ⟨assigned, rfl⟩)
    · exact ⟨through, assigned, Or.inl granted⟩
    · exact ⟨role, assigned, Or.inr ⟨rfl, rfl⟩⟩

theorem mem_effective_assign {role : RoleId} {user other : UserId} {q : Permission} :
    q ∈ (g.assign user role).effective other ↔
      q ∈ g.effective other ∨ other = user ∧ (role, q) ∈ g.permissions := by
  simp only [mem_effective, assign, List.mem_append, List.mem_singleton, Prod.mk.injEq]
  constructor
  · rintro ⟨through, assigned | ⟨rfl, rfl⟩, granted⟩
    · exact Or.inl ⟨through, assigned, granted⟩
    · exact Or.inr ⟨rfl, granted⟩
  · rintro (⟨through, assigned, granted⟩ | ⟨rfl, granted⟩)
    · exact ⟨through, Or.inl assigned, granted⟩
    · exact ⟨role, Or.inr ⟨rfl, rfl⟩, granted⟩

end Grants

/-! ## What is introduced -/

def ConflictKey.ruleId : ConflictKey → RuleId
  | .role _ rule | .user _ rule => rule

namespace Grants

/-- The permissions that a conflict is about: those of its role, or of its user. -/
def heldBy (g : Grants) : ConflictKey → PermissionSet
  | .role role _ => g.rolePermissions role
  | .user user _ => g.effective user

theorem inConflict_iff {key : ConflictKey} :
    g.InConflict rules key ↔ Rule.AnyViolated rules key.ruleId (g.heldBy key) := by
  cases key <;> rfl

theorem violated_of_introduced {key : ConflictKey}
    (introduced : key ∈ (g.introduced rules change).keys) :
    ∃ rule ∈ rules, rule.id = key.ruleId ∧ rule.ViolatedBy ((g.apply change).heldBy key) ∧
      ¬ rule.ViolatedBy (g.heldBy key) := by
  rw [mem_introduced_iff, inConflict_iff, inConflict_iff] at introduced
  obtain ⟨⟨rule, present, same, violated⟩, new⟩ := introduced
  exact ⟨rule, present, same, violated, fun before => new ⟨rule, present, same, before⟩⟩

theorem introduced_of_violated (distinct : (rules.map (·.id)).Nodup) (present : rule ∈ rules)
    {key : ConflictKey} (same : key.ruleId = rule.id)
    (violated : rule.ViolatedBy ((g.apply change).heldBy key))
    (kept : ¬ rule.ViolatedBy (g.heldBy key)) : key ∈ (g.introduced rules change).keys := by
  rw [mem_introduced_iff, inConflict_iff, inConflict_iff, same,
    Rule.anyViolated_iff distinct present, Rule.anyViolated_iff distinct present]
  exact ⟨violated, kept⟩

theorem heldBy_apply_present (given : g.Gave change) (key : ConflictKey) {p : Permission} :
    p ∈ (g.apply change).heldBy key ↔ p ∈ g.heldBy key := by
  cases change with
  | permission role q =>
    cases key with
    | role other rule =>
      refine mem_rolePermissions_grant.trans (or_iff_left_of_imp ?_)
      rintro ⟨rfl, rfl⟩
      exact mem_rolePermissions.mpr given
    | user user rule =>
      refine mem_effective_grant.trans (or_iff_left_of_imp ?_)
      rintro ⟨assigned, rfl⟩
      exact mem_effective.mpr ⟨role, assigned, given⟩
  | role user role =>
    cases key with
    | role other rule => exact Iff.rfl
    | user other rule =>
      refine mem_effective_assign.trans (or_iff_left_of_imp ?_)
      rintro ⟨rfl, granted⟩
      exact mem_effective.mpr ⟨role, given, granted⟩

theorem introduced_present (given : g.Gave change) :
    (g.introduced rules change).keys = [] := by
  rw [List.eq_nil_iff_forall_not_mem]
  intro key introduced
  obtain ⟨rule, _, _, ⟨active, first, second⟩, kept⟩ := violated_of_introduced introduced
  rw [heldBy_apply_present given] at first second
  exact kept ⟨active, first, second⟩

end Grants

/-! ## Whom it concerns -/

def Rule.Names (rule : Rule) (p : Permission) : Prop := rule.first = p ∨ rule.second = p

/-- Conflicts that a permission for a role may cause: of that role and of its users, on active
rules that name the permission. -/
structure Conflicts.FromPermission (g : Grants) (rules : List Rule) (role : RoleId)
    (p : Permission) (c : Conflicts) : Prop where
  roles : ∀ x ∈ c.roles, x.role = role ∧
    ∃ rule ∈ rules, rule.id = x.rule ∧ rule.active = true ∧ rule.Names p
  users : ∀ x ∈ c.users, (x.user, role) ∈ g.assignments ∧
    ∃ rule ∈ rules, rule.id = x.rule ∧ rule.active = true ∧ rule.Names p

/-- Conflicts that a role for a user may cause: of that user, on active rules that name a
permission of the role. -/
structure Conflicts.FromRole (g : Grants) (rules : List Rule) (user : UserId) (role : RoleId)
    (c : Conflicts) : Prop where
  roles : c.roles = []
  users : ∀ x ∈ c.users, x.user = user ∧
    ∃ rule ∈ rules, rule.id = x.rule ∧ rule.active = true ∧
      ∃ p, rule.Names p ∧ (role, p) ∈ g.permissions

theorem Conflicts.isEmpty_of_keys {c : Conflicts} (none : c.keys = []) : c.isEmpty = true := by
  obtain ⟨roles, users⟩ := List.append_eq_nil_iff.mp none
  simp [Conflicts.isEmpty, List.map_eq_nil_iff.mp roles, List.map_eq_nil_iff.mp users]

theorem Conflicts.role_key_mem {c : Conflicts} {x : RoleConflict} (listed : x ∈ c.roles) :
    x.key ∈ c.keys :=
  List.mem_append_left _ (List.mem_map_of_mem listed)

theorem Conflicts.user_key_mem {c : Conflicts} {x : UserConflict} (listed : x ∈ c.users) :
    x.key ∈ c.keys :=
  List.mem_append_right _ (List.mem_map_of_mem listed)

namespace Grants

/-- Where a change can only add permissions of one kind, a rule that is violated through it names
one of these. -/
theorem names_added {held more : PermissionSet} {added : Permission → Prop}
    (adds : ∀ p, p ∈ more ↔ p ∈ held ∨ added p) (violated : rule.ViolatedBy more)
    (kept : ¬ rule.ViolatedBy held) : rule.active = true ∧ ∃ p, rule.Names p ∧ added p := by
  obtain ⟨active, ⟨now, before⟩ | ⟨now, before⟩⟩ := violated.added kept
  · exact ⟨active, rule.first, Or.inl rfl, ((adds _).mp now).resolve_left before⟩
  · exact ⟨active, rule.second, Or.inr rfl, ((adds _).mp now).resolve_left before⟩

theorem introduced_permission (g : Grants) (rules : List Rule) (role : RoleId) (p : Permission) :
    (g.introduced rules (.permission role p)).FromPermission g rules role p where
  roles x listed := by
    obtain ⟨rule, present, same, violated, kept⟩ :=
      violated_of_introduced (Conflicts.role_key_mem listed)
    obtain ⟨active, q, names, rfl, rfl⟩ :=
      names_added (fun _ => mem_rolePermissions_grant) violated kept
    exact ⟨rfl, rule, present, same, active, names⟩
  users x listed := by
    obtain ⟨rule, present, same, violated, kept⟩ :=
      violated_of_introduced (Conflicts.user_key_mem listed)
    obtain ⟨active, q, names, assigned, rfl⟩ :=
      names_added (fun _ => mem_effective_grant) violated kept
    exact ⟨assigned, rule, present, same, active, names⟩

theorem introduced_assignment (g : Grants) (rules : List Rule) (user : UserId) (role : RoleId) :
    (g.introduced rules (.role user role)).FromRole g rules user role where
  roles := by
    rw [List.eq_nil_iff_forall_not_mem]
    intro x listed
    obtain ⟨rule, _, _, violated, kept⟩ :=
      violated_of_introduced (Conflicts.role_key_mem listed)
    -- An assignment leaves what a role holds as it is.
    exact kept violated
  users x listed := by
    obtain ⟨rule, present, same, violated, kept⟩ :=
      violated_of_introduced (Conflicts.user_key_mem listed)
    obtain ⟨active, p, names, rfl, granted⟩ :=
      names_added (fun _ => mem_effective_assign) violated kept
    exact ⟨rfl, rule, present, same, active, p, names, granted⟩

/-! ## The check -/

/-- A change is clean under either enforcement, or it is warned of or refused with the conflicts
that it introduces. -/
theorem check_cases (g : Grants) (rules : List Rule) (change : GrantChange) :
    ((g.introduced rules change).keys = [] ∧
        ∀ enforcement, g.check rules change enforcement = .ok .clean) ∨
      (g.check rules change .warn = .ok (.warned (g.introduced rules change)) ∧
        g.check rules change .block = .error (.grantConflicts (g.introduced rules change))) := by
  unfold check
  by_cases empty : (g.introduced rules change).isEmpty
  · exact Or.inl ⟨Conflicts.keys_of_isEmpty empty, fun _ => if_pos empty⟩
  · exact Or.inr ⟨if_neg empty, if_neg empty⟩

/-- How changes of the grants are checked: whom a report names, that it leaves no one out, that
both enforcements judge alike, and that a change which adds nothing is clean. -/
structure CheckedFor (g : Grants) (rules : List Rule) : Prop where
  permission : ∀ role p c, g.check rules (.permission role p) .warn = .ok (.warned c) →
    c.FromPermission g rules role p
  assignment : ∀ user role c, g.check rules (.role user role) .warn = .ok (.warned c) →
    c.FromRole g rules user role
  everyRole : ∀ change role, ∀ rule ∈ rules,
    rule.ViolatedBy ((g.apply change).rolePermissions role) →
    ¬ rule.ViolatedBy (g.rolePermissions role) →
      ∃ c, g.check rules change .warn = .ok (.warned c) ∧ .role role rule.id ∈ c.keys
  everyUser : ∀ change user, ∀ rule ∈ rules,
    rule.ViolatedBy ((g.apply change).effective user) → ¬ rule.ViolatedBy (g.effective user) →
      ∃ c, g.check rules change .warn = .ok (.warned c) ∧ .user user rule.id ∈ c.keys
  alike : ∀ change c, g.check rules change .warn = .ok (.warned c) ↔
    g.check rules change .block = .error (.grantConflicts c)
  otherwise : ∀ change, (∀ c, g.check rules change .warn ≠ .ok (.warned c)) →
    ∀ enforcement, g.check rules change enforcement = .ok .clean
  present : ∀ change, g.Gave change →
    ∀ enforcement, g.check rules change enforcement = .ok .clean

theorem check_warned {c : Conflicts} (warned : g.check rules change .warn = .ok (.warned c)) :
    c = g.introduced rules change := by
  rcases check_cases g rules change with ⟨_, clean⟩ | ⟨introduced, _⟩
  · rw [clean] at warned
    cases warned
  · rw [introduced] at warned
    cases warned
    rfl

theorem warned_of_introduced {key : ConflictKey}
    (introduced : key ∈ (g.introduced rules change).keys) :
    ∃ c, g.check rules change .warn = .ok (.warned c) ∧ key ∈ c.keys := by
  rcases check_cases g rules change with ⟨none, _⟩ | ⟨warned, _⟩
  · rw [none] at introduced
    cases introduced
  · exact ⟨_, warned, introduced⟩

theorem check_present (given : g.Gave change) (enforcement : Enforcement) :
    g.check rules change enforcement = .ok .clean := by
  unfold check
  rw [if_pos (Conflicts.isEmpty_of_keys (introduced_present given))]

theorem checkedFor (g : Grants) (distinct : (rules.map (·.id)).Nodup) : g.CheckedFor rules where
  permission role p c warned := check_warned warned ▸ introduced_permission g rules role p
  assignment user role c warned := check_warned warned ▸ introduced_assignment g rules user role
  everyRole change role rule present violated kept :=
    warned_of_introduced (introduced_of_violated distinct present rfl violated kept)
  everyUser change user rule present violated kept :=
    warned_of_introduced (introduced_of_violated distinct present rfl violated kept)
  alike change c := by
    rcases check_cases g rules change with ⟨_, clean⟩ | ⟨warned, blocked⟩
    · simp [clean]
    · simp [warned, blocked]
  otherwise change unwarned := by
    rcases check_cases g rules change with ⟨_, clean⟩ | ⟨warned, _⟩
    · exact clean
    · exact absurd warned (unwarned _)
  present _ := check_present

end Grants

/-! ## Looking first -/

/-- The role that is given a permission or given to a user; it has to exist. -/
def GrantChange.subject : GrantChange → RoleId
  | .permission subject _ | .role _ subject => subject

namespace Store

variable {store after : Store} {ctx : Context} {outcome : GrantOutcome}

def changeGrants (store : Store) (ctx : Context) :
    GrantChange → Except PolicyError (Store × GrantOutcome)
  | .permission role p => store.grantPermission ctx role p
  | .role user role => store.assignRole ctx user role

theorem changeGrants_present (loaded : store.grants ctx = .ok g) (given : g.Gave change)
    (grantor : store.checkGrantor ctx change.subject = .ok ()) :
    store.changeGrants ctx change = .ok (store, .clean) := by
  cases change with
  | permission role p =>
    have held : p ∈ g.rolePermissions role := Grants.mem_rolePermissions.mpr given
    simp only [changeGrants, grantPermission, liftM, monadLift, MonadLift.monadLift, bind_ok_iff,
      mapError_ok_iff, ite_ok_iff, pure_ok_iff]
    exact ⟨(), grantor, g, loaded, Or.inl ⟨held, trivial⟩⟩
  | role user role =>
    have held : role ∈ g.userRoles user := Grants.mem_userRoles.mpr given
    simp only [changeGrants, assignRole, liftM, monadLift, MonadLift.monadLift, bind_ok_iff,
      mapError_ok_iff, ite_ok_iff, pure_ok_iff]
    exact ⟨(), grantor, g, loaded, Or.inl ⟨held, trivial⟩⟩

theorem changeGrants_checked (loaded : store.grants ctx = .ok g)
    (ruled : store.tenantRules ctx = .ok rules)
    (changed : store.changeGrants ctx change = .ok (after, outcome)) :
    g.check rules change ctx.ledger.enforcement = .ok outcome := by
  cases change with
  | permission role p =>
    have given_of_held : p ∈ g.rolePermissions role → g.Gave (.permission role p) :=
      Grants.mem_rolePermissions.mp
    simp only [changeGrants, grantPermission, liftM, monadLift, MonadLift.monadLift, bind_ok_iff,
      mapError_ok_iff, ite_ok_iff, pure_ok_iff, loaded, ruled, Except.ok.injEq,
      exists_eq_left', Prod.mk.injEq] at changed
    obtain ⟨_, _, ⟨held, _, rfl⟩ | ⟨_, _, checked, _, _, _, _, _, rfl⟩⟩ := changed
    · exact Grants.check_present (given_of_held held) _
    · exact checked
  | role user role =>
    have given_of_held : role ∈ g.userRoles user → g.Gave (.role user role) :=
      Grants.mem_userRoles.mp
    simp only [changeGrants, assignRole, liftM, monadLift, MonadLift.monadLift, bind_ok_iff,
      mapError_ok_iff, ite_ok_iff, pure_ok_iff, loaded, ruled, Except.ok.injEq,
      exists_eq_left', Prod.mk.injEq] at changed
    obtain ⟨_, _, ⟨held, _, rfl⟩ | ⟨_, _, checked, _, _, _, _, _, rfl⟩⟩ := changed
    · exact Grants.check_present (given_of_held held) _
    · exact checked

end Store

namespace Grants

/-- Only those whom a change affects are reported, and all of them; and where the stored grants
are looked at first, a change that is there already is answered as its check would be. -/
theorem change_affects (g : Grants) (distinct : (rules.map (·.id)).Nodup) :
    g.CheckedFor rules ∧
      ∀ (store : Store) (ctx : Context) (change : GrantChange), store.grants ctx = .ok g →
        (g.Gave change → store.checkGrantor ctx change.subject = .ok () →
          store.changeGrants ctx change = .ok (store, .clean)) ∧
        ∀ after outcome, store.tenantRules ctx = .ok rules →
          store.changeGrants ctx change = .ok (after, outcome) →
            g.check rules change ctx.ledger.enforcement = .ok outcome := by
  refine ⟨checkedFor g distinct, fun store ctx change loaded => ⟨?_, ?_⟩⟩
  · exact Store.changeGrants_present loaded
  · intro after outcome ruled changed
    exact Store.changeGrants_checked loaded ruled changed

/-- Two clerks submit journals, a reviewer's role approves them, and a manager looks after the
grants. -/
def desks : Store :=
  { Store.empty with
    roles := [⟨Id.ofNat 7, Id.ofNat 1, "clerk", none⟩, ⟨Id.ofNat 8, Id.ofNat 1, "reviewer", none⟩,
      ⟨Id.ofNat 9, Id.ofNat 1, "manager", none⟩]
    rolePermissions := [⟨Id.ofNat 1, Id.ofNat 7, Permission.code .journalSubmit⟩,
      ⟨Id.ofNat 1, Id.ofNat 8, Permission.code .journalApprove⟩,
      ⟨Id.ofNat 1, Id.ofNat 9, Permission.code .sodManage⟩]
    userRoles := [⟨Id.ofNat 1, Id.ofNat 1, Id.ofNat 7⟩, ⟨Id.ofNat 1, Id.ofNat 2, Id.ofNat 7⟩,
      ⟨Id.ofNat 1, Id.ofNat 4, Id.ofNat 9⟩]
    rules := [⟨Id.ofNat 6, none, Permission.code .journalSubmit, Permission.code .journalApprove,
      "no one approves what they submit", true⟩] }

def desksContext : Context := ⟨Id.ofNat 1, Id.ofNat 4, ⟨1728000000⟩, 100, ⟨true, .warn⟩, .none⟩

def deskGrants : Grants where
  permissions := [(Id.ofNat 7, .journalSubmit), (Id.ofNat 8, .journalApprove),
    (Id.ofNat 9, .sodManage)]
  assignments := [(Id.ofNat 1, Id.ofNat 7), (Id.ofNat 2, Id.ofNat 7), (Id.ofNat 4, Id.ofNat 9)]

def deskRules : List Rule :=
  [⟨Id.ofNat 6, .journalSubmit, .journalApprove, "no one approves what they submit", true⟩]

def promotedClerks : Conflicts :=
  let text := "no one approves what they submit"
  ⟨[⟨Id.ofNat 7, Id.ofNat 6, .journalSubmit, .journalApprove, text⟩],
    [⟨Id.ofNat 1, Id.ofNat 6, [Id.ofNat 7], [Id.ofNat 7], text⟩,
      ⟨Id.ofNat 2, Id.ofNat 6, [Id.ofNat 7], [Id.ofNat 7], text⟩]⟩

theorem desks_affected :
    (deskRules.map (·.id)).Nodup ∧ desks.grants desksContext = .ok deskGrants ∧
      promotedClerks.FromPermission deskGrants deskRules (Id.ofNat 7) .journalApprove ∧
      deskGrants.check deskRules (.permission (Id.ofNat 7) .journalApprove) .block =
        .error (.grantConflicts promotedClerks) ∧
      desks.changeGrants desksContext (.role (Id.ofNat 2) (Id.ofNat 7)) = .ok (desks, .clean) ∧
      deskGrants.check deskRules (.permission (Id.ofNat 8) .periodClose) .warn = .ok .clean :=
  have distinct : (deskRules.map (·.id)).Nodup := by decide
  have loaded : desks.grants desksContext = .ok deskGrants := by rfl
  have ruled : desks.tenantRules desksContext = .ok deskRules := by rfl
  have warned : deskGrants.check deskRules (.permission (Id.ofNat 7) .journalApprove) .warn =
      .ok (.warned promotedClerks) := by decide +kernel
  have given : deskGrants.Gave (.role (Id.ofNat 2) (Id.ofNat 7)) := by
    rw [Gave]
    decide
  have affects := change_affects deskGrants distinct
  ⟨distinct, loaded, affects.1.permission _ _ _ warned, (affects.1.alike _ _).mp warned,
    (affects.2 desks desksContext _ loaded).1 given (by rfl),
    (affects.2 desks desksContext _ loaded).2 _ _ ruled (by rfl)⟩

end Grants

end Countinghouse
