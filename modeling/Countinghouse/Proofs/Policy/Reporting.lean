import Countinghouse.Proofs.Policy.Conflicts

/-! # What is reported of the grants

Grants are built by one change after the other.  A report on them says for every role and every
user which active rules they violate: a role by what it was given itself, a user by what all of
their roles were given, so that a user may violate a rule that none of their roles violates.
Only what was given counts for it, and not in which order or how often. -/

set_option autoImplicit false

namespace Countinghouse

/-! ## The order of a report -/

section Order

variable {kind : Kind} {rules : List Rule}

def Rule.position (rules : List Rule) (id : RuleId) : Nat := (rules.map (·.id)).idxOf id

/-- A conflict stands before another if its holder comes first, or if both have the same holder
and its rule comes first. -/
def Rule.Precedes (rules : List Rule) (x y : Id kind × RuleId) : Prop :=
  x.1 < y.1 ∨ x.1 = y.1 ∧ position rules x.2 < position rules y.2

theorem Rule.Precedes.asymm {x y : Id kind × RuleId} (before : Precedes rules x y) :
    ¬ Precedes rules y x := by
  rintro (after | ⟨same, after⟩)
  · rcases before with before | ⟨same, _⟩
    · exact Nat.lt_asymm before after
    · exact Id.ne_of_lt after same.symm
  · rcases before with before | ⟨_, before⟩
    · exact Id.ne_of_lt before same.symm
    · exact Nat.lt_asymm before after

theorem Rule.eq_of_precedes {α : Type} {pair : α → Id kind × RuleId} {cs ds : List α}
    (ordered : cs.Pairwise fun c d => Precedes rules (pair c) (pair d))
    (ordered' : ds.Pairwise fun c d => Precedes rules (pair c) (pair d))
    (same : ∀ c, c ∈ cs ↔ c ∈ ds) : cs = ds := by
  have irrefl : Std.Irrefl fun c d : α => Precedes rules (pair c) (pair d) :=
    ⟨fun _ before => before.asymm before⟩
  have antisymm : Std.Antisymm fun c d : α => Precedes rules (pair c) (pair d) :=
    ⟨fun _ _ before after => absurd after before.asymm⟩
  exact ordered.eq_of_mem_iff ordered' same

theorem Rule.pairwise_position (distinct : (rules.map (·.id)).Nodup) :
    rules.Pairwise fun r s => position rules r.id < position rules s.id := by
  have increasing : (rules.map (·.id)).Pairwise fun a b => position rules a < position rules b := by
    rw [List.pairwise_iff_getElem]
    intro i j hi hj before
    rw [position, position, distinct.idxOf_getElem i hi, distinct.idxOf_getElem j hj]
    exact before
  rwa [List.pairwise_map] at increasing

theorem Grants.violations_ordered {holders : List (Id kind)} {held : Id kind → PermissionSet}
    (increasing : holders.Pairwise (· < ·)) (distinct : (rules.map (·.id)).Nodup) :
    (violations rules holders Prod.mk held).Pairwise (Rule.Precedes rules) := by
  rw [violations, List.pairwise_flatMap]
  constructor
  · intro holder _
    rw [List.pairwise_map]
    refine ((Rule.pairwise_position distinct).sublist List.filter_sublist).imp ?_
    intro r s before
    exact Or.inr ⟨rfl, before⟩
  · refine increasing.imp ?_
    simp only [List.mem_map]
    rintro holder other before _ ⟨r, _, rfl⟩ _ ⟨s, _, rfl⟩
    exact Or.inl before

end Order

/-! ## What a report is to say -/

section Report

variable {given : GrantChange → Prop} {rules : List Rule}

/-- The roles are those of the user that were given the permission, and there are some. -/
structure UserConflict.Through (given : GrantChange → Prop) (user : UserId) (p : Permission)
    (roles : List RoleId) : Prop where
  nonempty : roles ≠ []
  increasing : roles.Pairwise (· < ·)
  exact : ∀ role, role ∈ roles ↔ given (.role user role) ∧ given (.permission role p)

/-- The role of the conflict was given both permissions of the rule. -/
structure RoleConflict.Breaks (given : GrantChange → Prop) (c : RoleConflict) (rule : Rule) :
    Prop where
  active : rule.active = true
  first : given (.permission c.role rule.first)
  second : given (.permission c.role rule.second)
  named : c = ⟨c.role, rule.id, rule.first, rule.second, rule.description⟩

/-- The user of the conflict was given both permissions of the rule, each through the roles that
the conflict names for it. -/
structure UserConflict.Breaks (given : GrantChange → Prop) (c : UserConflict) (rule : Rule) :
    Prop where
  active : rule.active = true
  first : Through given c.user rule.first c.firstRoles
  second : Through given c.user rule.second c.secondRoles
  named : c = ⟨c.user, rule.id, c.firstRoles, c.secondRoles, rule.description⟩

structure Conflicts.Reports (given : GrantChange → Prop) (rules : List Rule)
    (report : Conflicts) : Prop where
  ofRole : ∀ role, ∀ rule ∈ rules, .role role rule.id ∈ report.keys ↔
    rule.active = true ∧ given (.permission role rule.first) ∧
      given (.permission role rule.second)
  ofUser : ∀ user, ∀ rule ∈ rules, .user user rule.id ∈ report.keys ↔
    rule.active = true ∧
      (∃ role, given (.role user role) ∧ given (.permission role rule.first)) ∧
      ∃ role, given (.role user role) ∧ given (.permission role rule.second)
  once : report.keys.Nodup
  roles : ∀ c, c ∈ report.roles ↔ ∃ rule ∈ rules, c.Breaks given rule
  users : ∀ c, c ∈ report.users ↔ ∃ rule ∈ rules, c.Breaks given rule
  rolesOrdered : report.roles.Pairwise fun c d =>
    Rule.Precedes rules (c.role, c.rule) (d.role, d.rule)
  usersOrdered : report.users.Pairwise fun c d =>
    Rule.Precedes rules (c.user, c.rule) (d.user, d.rule)

theorem Conflicts.Reports.unique {report report' : Conflicts}
    (reports : report.Reports given rules) (reports' : report'.Reports given rules) :
    report = report' := by
  have roles : report.roles = report'.roles :=
    Rule.eq_of_precedes reports.rolesOrdered reports'.rolesOrdered fun c =>
      (reports.roles c).trans (reports'.roles c).symm
  have users : report.users = report'.users :=
    Rule.eq_of_precedes reports.usersOrdered reports'.usersOrdered fun c =>
      (reports.users c).trans (reports'.users c).symm
  cases report
  cases report'
  cases roles
  cases users
  rfl

end Report

/-! ## The report on grants -/

namespace Grants

variable {g : Grants} {rules : List Rule} {changes : List GrantChange}

theorem mem_rolesGranting {user : UserId} {p : Permission} {role : RoleId} :
    role ∈ g.rolesGranting user p ↔ (user, role) ∈ g.assignments ∧ (role, p) ∈ g.permissions := by
  rw [rolesGranting, List.mem_filter, mem_userRoles, decide_eq_true_eq]

theorem mem_conflicts_roles {c : RoleConflict} :
    c ∈ (g.conflicts rules).roles ↔ ∃ rule ∈ rules, rule.ViolatedBy (g.rolePermissions c.role) ∧
      c = ⟨c.role, rule.id, rule.first, rule.second, rule.description⟩ := by
  simp only [conflicts, roleConflicts, List.mem_flatMap, List.mem_map, List.mem_filter,
    decide_eq_true_eq]
  constructor
  · rintro ⟨role, _, rule, ⟨present, violated⟩, rfl⟩
    exact ⟨rule, present, violated, rfl⟩
  · rintro ⟨rule, present, violated, named⟩
    exact ⟨c.role, mem_roles_of_holds violated.2.1, rule, ⟨present, violated⟩, named.symm⟩

theorem mem_conflicts_users {c : UserConflict} :
    c ∈ (g.conflicts rules).users ↔ ∃ rule ∈ rules, rule.ViolatedBy (g.effective c.user) ∧
      c = ⟨c.user, rule.id, g.rolesGranting c.user rule.first, g.rolesGranting c.user rule.second,
        rule.description⟩ := by
  simp only [conflicts, userConflicts, List.mem_flatMap, List.mem_map, List.mem_filter,
    decide_eq_true_eq]
  constructor
  · rintro ⟨user, _, rule, ⟨present, violated⟩, rfl⟩
    exact ⟨rule, present, violated, rfl⟩
  · rintro ⟨rule, present, violated, named⟩
    exact ⟨c.user, mem_users_of_holds violated.2.1, rule, ⟨present, violated⟩, named.symm⟩

def Gave (g : Grants) : GrantChange → Prop
  | .permission role p => (role, p) ∈ g.permissions
  | .role user role => (user, role) ∈ g.assignments

theorem through_iff {user : UserId} {p : Permission} {roles : List RoleId} :
    UserConflict.Through g.Gave user p roles ↔
      p ∈ g.effective user ∧ roles = g.rolesGranting user p := by
  have increasing : (g.rolesGranting user p).Pairwise (· < ·) :=
    (Id.sorted_increasing _).sublist List.filter_sublist
  have exact : ∀ role, role ∈ g.rolesGranting user p ↔
      g.Gave (.role user role) ∧ g.Gave (.permission role p) := fun _ => mem_rolesGranting
  rw [mem_effective]
  constructor
  · intro through
    have same : roles = g.rolesGranting user p :=
      through.increasing.eq_of_mem_iff increasing fun role =>
        (through.exact role).trans (exact role).symm
    obtain ⟨role, listed⟩ := List.exists_mem_of_ne_nil _ through.nonempty
    exact ⟨⟨role, (through.exact role).mp listed⟩, same⟩
  · rintro ⟨⟨role, held⟩, rfl⟩
    exact ⟨List.ne_nil_of_mem (mem_rolesGranting.mpr held), increasing, exact⟩

theorem roleConflicts_pairs (g : Grants) :
    ((g.conflicts rules).roles.map fun c => (c.role, c.rule)) =
      violations rules g.roles Prod.mk g.rolePermissions := by
  simp only [conflicts, roleConflicts, violations, List.map_flatMap, List.map_map]
  rfl

theorem userConflicts_pairs (g : Grants) :
    ((g.conflicts rules).users.map fun c => (c.user, c.rule)) =
      violations rules g.users Prod.mk g.effective := by
  simp only [conflicts, userConflicts, violations, List.map_flatMap, List.map_map]
  rfl

theorem conflicts_reports (g : Grants) (distinct : (rules.map (·.id)).Nodup) :
    (g.conflicts rules).Reports g.Gave rules where
  ofRole role rule present := by
    rw [mem_conflicts_iff, InConflict, Rule.anyViolated_iff distinct present, Rule.ViolatedBy,
      mem_rolePermissions, mem_rolePermissions]
    rfl
  ofUser user rule present := by
    rw [mem_conflicts_iff, InConflict, Rule.anyViolated_iff distinct present, Rule.ViolatedBy,
      mem_effective, mem_effective]
    rfl
  once := conflicts_keys_nodup g distinct
  roles c := by
    rw [mem_conflicts_roles]
    refine exists_congr fun rule => and_congr_right fun _ => ?_
    constructor
    · rintro ⟨⟨active, first, second⟩, named⟩
      exact ⟨active, mem_rolePermissions.mp first, mem_rolePermissions.mp second, named⟩
    · rintro ⟨active, first, second, named⟩
      exact ⟨⟨active, mem_rolePermissions.mpr first, mem_rolePermissions.mpr second⟩, named⟩
  users c := by
    rw [mem_conflicts_users]
    refine exists_congr fun rule => and_congr_right fun _ => ?_
    constructor
    · rintro ⟨⟨active, first, second⟩, named⟩
      have firstRoles : c.firstRoles = g.rolesGranting c.user rule.first := by rw [named]
      have secondRoles : c.secondRoles = g.rolesGranting c.user rule.second := by rw [named]
      have through_first := through_iff.mpr ⟨first, firstRoles⟩
      have through_second := through_iff.mpr ⟨second, secondRoles⟩
      refine ⟨active, through_first, through_second, ?_⟩
      rw [firstRoles, secondRoles]
      exact named
    · rintro ⟨active, through_first, through_second, named⟩
      obtain ⟨first, firstRoles⟩ := through_iff.mp through_first
      obtain ⟨second, secondRoles⟩ := through_iff.mp through_second
      rw [firstRoles, secondRoles] at named
      exact ⟨⟨active, first, second⟩, named⟩
  rolesOrdered := by
    refine List.pairwise_map.mp ?_
    rw [roleConflicts_pairs]
    exact violations_ordered (Id.sorted_increasing _) distinct
  usersOrdered := by
    refine List.pairwise_map.mp ?_
    rw [userConflicts_pairs]
    exact violations_ordered (Id.sorted_increasing _) distinct

/-! ## Grants that are built -/

def built (changes : List GrantChange) : Grants := changes.foldl apply empty

theorem gave_apply (g : Grants) (change : GrantChange) {other : GrantChange} :
    (g.apply change).Gave other ↔ g.Gave other ∨ other = change := by
  cases change <;> cases other <;> simp [apply, grant, assign, Gave]

theorem gave_foldl_apply (g : Grants) {change : GrantChange} :
    (changes.foldl apply g).Gave change ↔ g.Gave change ∨ change ∈ changes := by
  induction changes generalizing g with
  | nil => simp
  | cons next rest ih => rw [List.foldl_cons, ih, gave_apply, List.mem_cons, or_assoc]

theorem gave_built : (built changes).Gave = (· ∈ changes) := by
  funext change
  have none : ¬ empty.Gave change := by cases change <;> simp [empty, Gave]
  rw [built, gave_foldl_apply, eq_false none, false_or]

/-- Grants that were built are reported on as the changes say, each conflict once and in order,
and no other sequence of the same changes is reported on differently. -/
theorem built_conflicts (changes : List GrantChange) (distinct : (rules.map (·.id)).Nodup) :
    ((built changes).conflicts rules).Reports (· ∈ changes) rules ∧
      ∀ changes' : List GrantChange, (∀ change, change ∈ changes' ↔ change ∈ changes) →
        (built changes').conflicts rules = (built changes).conflicts rules := by
  have reports : ∀ sequence : List GrantChange,
      ((built sequence).conflicts rules).Reports (· ∈ sequence) rules := by
    intro sequence
    rw [← gave_built]
    exact conflicts_reports _ distinct
  refine ⟨reports changes, ?_⟩
  intro changes' same
  have sameGiven : (· ∈ changes') = (· ∈ changes) := funext fun change => propext (same change)
  have other := reports changes'
  rw [sameGiven] at other
  exact other.unique (reports changes)

/-- One user submits journals in one role and approves them in another, and is given the first
role twice; one role may do both; one role may do nothing. -/
def onboarding : List GrantChange :=
  [.role (Id.ofNat 1) (Id.ofNat 8), .permission (Id.ofNat 9) .journalApprove,
    .permission (Id.ofNat 7) .journalSubmit, .permission (Id.ofNat 8) .journalApprove,
    .role (Id.ofNat 2) (Id.ofNat 5), .role (Id.ofNat 1) (Id.ofNat 7),
    .permission (Id.ofNat 9) .journalSubmit, .role (Id.ofNat 1) (Id.ofNat 8)]

theorem onboarding_conflicts :
    (Rule.baseline.map (·.id)).Nodup ∧
      (built onboarding).conflicts Rule.baseline =
        ⟨[⟨Id.ofNat 9, Id.ofNat 0x70008000000000000001, .journalSubmit, .journalApprove,
            "Journal submitters cannot approve journals"⟩],
          [⟨Id.ofNat 1, Id.ofNat 0x70008000000000000001, [Id.ofNat 7], [Id.ofNat 8],
            "Journal submitters cannot approve journals"⟩]⟩ ∧
      ((built onboarding).conflicts Rule.baseline).Reports (· ∈ onboarding) Rule.baseline ∧
      (built (onboarding.reverse ++ onboarding)).conflicts Rule.baseline =
        (built onboarding).conflicts Rule.baseline :=
  have distinct : (Rule.baseline.map (·.id)).Nodup := by decide
  have report := built_conflicts onboarding distinct
  ⟨distinct, by decide +kernel, report.1, report.2 _ (by simp)⟩

end Grants

end Countinghouse
