import Countinghouse.Proofs.Tenant.Own

/-! # What a tenant changes

Every operation is done once on the whole store and once on what the tenant owns of it.  Both
refuse for the same cause or answer the same, and then the second leaves what the tenant owns of
what the first leaves, while the rows of every other tenant stay as they were. -/

set_option autoImplicit false

namespace Countinghouse

/-- Both refuse for the same cause, or both succeed with results that are related. -/
inductive Agree {ε α β : Type} (related : α → β → Prop) : Except ε α → Except ε β → Prop where
  | refused (cause : ε) : Agree related (.error cause) (.error cause)
  | done {a : α} {b : β} (results : related a b) : Agree related (.ok a) (.ok b)

namespace Agree

variable {ε η α β γ δ : Type} {related : α → β → Prop} {related' : γ → δ → Prop}

theorem bind {r : Except ε α} {r' : Except ε β} {f : α → Except ε γ} {g : β → Except ε δ}
    (first : Agree related r r')
    (next : ∀ a b, r = .ok a → related a b → Agree related' (f a) (g b)) :
    Agree related' (r >>= f) (r' >>= g) := by
  cases first with
  | refused cause => exact .refused cause
  | done results => exact next _ _ rfl results

theorem read {r : Except ε α} {f : α → Except ε γ} {g : α → Except ε δ}
    (next : ∀ a, r = .ok a → Agree related' (f a) (g a)) :
    Agree related' (r >>= f) (r >>= g) := by
  cases r with
  | error cause => exact .refused cause
  | ok a => exact next a rfl

theorem mapError {r : Except ε α} {r' : Except ε β} (agree : Agree related r r') (f : ε → η) :
    Agree related (r.mapError f) (r'.mapError f) := by
  cases agree with
  | refused cause => exact .refused (f cause)
  | done results => exact .done results

end Agree

/-! ## Rows of a tenant -/

section Rows

variable {α : Type} {tenant other : TenantId} {ofRow : α → TenantId} {rows added : List α}

theorem filter_added (mine : ∀ row ∈ added, ofRow row = tenant) :
    ((rows ++ added).filter fun row => decide (ofRow row = tenant)) =
      (rows.filter fun row => decide (ofRow row = tenant)) ++ added := by
  have all : (added.filter fun row => decide (ofRow row = tenant)) = added := by
    apply List.filter_eq_self.mpr
    intro row present
    exact decide_eq_true (mine row present)
  rw [List.filter_append, all]

theorem filter_added_other (mine : ∀ row ∈ added, ofRow row = tenant) (differ : other ≠ tenant) :
    ((rows ++ added).filter fun row => decide (ofRow row = other)) =
      rows.filter fun row => decide (ofRow row = other) := by
  have none_added : (added.filter fun row => decide (ofRow row = other)) = [] := by
    apply List.filter_eq_nil_iff.mpr
    intro row present
    rw [mine row present]
    simpa using differ.symm
  rw [List.filter_append, none_added, List.append_nil]

/-- A change keeps the tenant of every row, and changes rows of one tenant only. -/
structure Changes (tenant : TenantId) (ofRow : α → TenantId) (rows : List α) (change : α → α) :
    Prop where
  keeps : ∀ row ∈ rows, ofRow (change row) = ofRow row
  only : ∀ row ∈ rows, ofRow row ≠ tenant → change row = row

namespace Changes

variable {change : α → α}

theorem of_if {fits : α → Prop} [DecidablePred fits] {new : α → α}
    (mine : ∀ row ∈ rows, fits row → ofRow row = tenant)
    (stays : ∀ row ∈ rows, fits row → ofRow (new row) = tenant) :
    Changes tenant ofRow rows fun row => if fits row then new row else row := by
  constructor
  · intro row present
    by_cases isFit : fits row
    · rw [if_pos isFit, mine row present isFit, stays row present isFit]
    · rw [if_neg isFit]
  · intro row present foreign
    apply if_neg
    intro isFit
    exact foreign (mine row present isFit)

theorem of_replaced {fits : α → Prop} [DecidablePred fits] {new : α} (ofTenant : ofRow new = tenant)
    (mine : ∀ row ∈ rows, fits row → ofRow row = tenant) :
    Changes tenant ofRow rows fun row => if fits row then new else row := by
  apply of_if mine
  intro _ _ _
  exact ofTenant

theorem own (changes : Changes tenant ofRow rows change) :
    ((rows.map change).filter fun row => decide (ofRow row = tenant)) =
      (rows.filter fun row => decide (ofRow row = tenant)).map change := by
  apply Rows.filter_map_kept
  intro row present
  rw [changes.keeps row present]

theorem others (changes : Changes tenant ofRow rows change) (differ : other ≠ tenant) :
    ((rows.map change).filter fun row => decide (ofRow row = other)) =
      rows.filter fun row => decide (ofRow row = other) := by
  apply Rows.filter_map_untouched
  · intro row present
    rw [changes.keeps row present]
  · intro row present isOther
    apply changes.only row present
    rw [of_decide_eq_true isOther]
    exact differ

end Changes

end Rows

namespace Store

variable {store before middle after kept : Store} {ctx : Context} {tenant other : TenantId}

/-- One store is what a tenant owns of another, and this one holds the same rows of other tenants
as a third. -/
structure Confined (tenant : TenantId) (before after kept : Store) : Prop where
  own : kept = after.own tenant
  others : ∀ other, other ≠ tenant → after.own other = before.own other

structure Answered {α : Type} (tenant : TenantId) (before : Store) (done kept : Store × α) :
    Prop where
  confined : Confined tenant before done.1 kept.1
  answer : kept.2 = done.2

theorem Confined.refl (tenant : TenantId) (store : Store) :
    Confined tenant store store (store.own tenant) :=
  ⟨rfl, fun _ _ => rfl⟩

theorem Confined.trans {part : Store} (first : Confined tenant before middle part)
    (second : Confined tenant middle after kept) : Confined tenant before after kept := by
  refine ⟨second.own, ?_⟩
  intro other differ
  exact (second.others other differ).trans (first.others other differ)

/-- Rows that are all of the tenant stay so, as other tenants gain none. -/
theorem Confined.mine {α : Type} (confined : Confined tenant before after kept)
    {table : Store → List α} {ofRow : α → TenantId}
    (cut : ∀ (store : Store) (other : TenantId),
      table (Store.own store other) = (table store).filter (ofRow · = other))
    {fits : α → Prop} (mine : ∀ row ∈ table before, fits row → ofRow row = tenant) :
    ∀ row ∈ table after, fits row → ofRow row = tenant := by
  intro row present isFit
  -- A row of another tenant was there before, where it is known to be of this one.
  by_contra foreign
  have inOther : row ∈ table (after.own (ofRow row)) := by
    rw [cut]
    exact List.mem_filter.mpr ⟨present, decide_eq_true rfl⟩
  rw [confined.others _ foreign, cut] at inOther
  exact foreign (mine row (List.mem_filter.mp inOther).1 isFit)

/-- No row of another tenant has the identifier that a new row is given. -/
structure Unused (store : Store) (ctx : Context) : Prop where
  roles : ∀ row ∈ store.roles, row.id = ctx.newId 1 → row.tenant = ctx.tenant
  periods : ∀ row ∈ store.periods, row.period.id = ctx.newId 1 → row.tenant = ctx.tenant
  journals : ∀ row ∈ store.journals, row.id = ctx.newId 1 → row.tenant = ctx.tenant
  templates : ∀ row ∈ store.templates, row.id = ctx.newId 1 → row.tenant = ctx.tenant

/-! ## Roles and grants -/

theorem createRole_confined (unused : store.Unused ctx) (name : String)
    (description : Option String) :
    Agree (Answered ctx.tenant store) (store.createRole ctx name description)
      ((store.own ctx.tenant).createRole ctx name description) := by
  have known : ∀ row ∈ store.roles,
      (row.id = ctx.newId 1 || (row.tenant = ctx.tenant && row.name = name)) = true →
        decide (row.tenant = ctx.tenant) = true := by
    intro row present fits
    simp only [Bool.or_eq_true, Bool.and_eq_true, decide_eq_true_eq] at fits ⊢
    rcases fits with same | ⟨ofTenant, _⟩
    · exact unused.roles row present same
    · exact ofTenant
  simp only [createRole, permissions_own]
  apply Agree.read
  intro held _
  apply Agree.read
  intro _ _
  apply Agree.read
  intro _ _
  simp only [own, Rows.any_within known]
  apply Agree.read
  intro _ _
  refine .done ⟨⟨?_, ?_⟩, rfl⟩
  · simp [own]
  · intro other differ
    simp [own, differ.symm]

theorem checkGrantor_ok {role : RoleId} {u : Unit} (checked : store.checkGrantor ctx role = .ok u) :
    ∃ row ∈ store.roles, row.id = role ∧ row.tenant = ctx.tenant := by
  simp only [checkGrantor, bind_ok_iff, ite_ok_iff, throw_ok_iff, pure_ok_iff, and_false,
    false_or, Bool.not_eq_true', Bool.not_eq_false, List.any_eq_true, Bool.and_eq_true,
    decide_eq_true_eq] at checked
  obtain ⟨_, _, _, _, _, _, known, _⟩ := checked
  exact known

theorem grantPermission_confined (owned : store.Owned) (role : RoleId) (p : Permission) :
    Agree (Answered ctx.tenant store) (store.grantPermission ctx role p)
      ((store.own ctx.tenant).grantPermission ctx role p) := by
  simp only [grantPermission, checkGrantor_own, grants_own, tenantRules_own]
  apply Agree.read
  intro _ checked
  -- The role was looked up for the tenant, and the grants of a role carry its tenant.
  obtain ⟨row, stored, rfl, ofTenant⟩ := checkGrantor_ok checked
  have known : ∀ grant ∈ store.rolePermissions,
      (grant.role = row.id && grant.code = p.code) = true →
        decide (grant.tenant = ctx.tenant) = true := by
    intro grant present fits
    simp only [Bool.and_eq_true, decide_eq_true_eq] at fits ⊢
    exact (owned.grants grant present row stored fits.1).trans ofTenant
  apply Agree.read
  intro grants _
  by_cases held : p ∈ grants.rolePermissions row.id
  · simp only [if_pos held]
    exact .done ⟨.refl .., rfl⟩
  · simp only [if_neg held]
    apply Agree.read
    intro rules _
    apply Agree.read
    intro outcome _
    apply Agree.read
    intro _ _
    simp only [own, Rows.any_within known]
    apply Agree.read
    intro _ _
    refine .done ⟨⟨?_, ?_⟩, rfl⟩
    · simp [own]
    · intro other differ
      simp [own, differ.symm]

theorem assignRole_confined (owned : store.Owned) (user : UserId) (role : RoleId) :
    Agree (Answered ctx.tenant store) (store.assignRole ctx user role)
      ((store.own ctx.tenant).assignRole ctx user role) := by
  simp only [assignRole, checkGrantor_own, grants_own, tenantRules_own]
  apply Agree.read
  intro _ checked
  obtain ⟨row, stored, rfl, ofTenant⟩ := checkGrantor_ok checked
  have known : ∀ assignment ∈ store.userRoles,
      (assignment.user = user && assignment.role = row.id) = true →
        decide (assignment.tenant = ctx.tenant) = true := by
    intro assignment present fits
    simp only [Bool.and_eq_true, decide_eq_true_eq] at fits ⊢
    exact (owned.assignments assignment present row stored fits.2).trans ofTenant
  apply Agree.read
  intro grants _
  by_cases held : row.id ∈ grants.userRoles user
  · simp only [if_pos held]
    exact .done ⟨.refl .., rfl⟩
  · simp only [if_neg held]
    apply Agree.read
    intro rules _
    apply Agree.read
    intro outcome _
    apply Agree.read
    intro _ _
    simp only [own, Rows.any_within known]
    apply Agree.read
    intro _ _
    refine .done ⟨⟨?_, ?_⟩, rfl⟩
    · simp [own]
    · intro other differ
      simp [own, differ.symm]

/-! ## Periods -/

theorem createPeriod_confined (unused : store.Unused ctx) (input : PeriodInput) :
    Agree (Answered ctx.tenant store) (store.createPeriod ctx input)
      ((store.own ctx.tenant).createPeriod ctx input) := by
  have known : ∀ row ∈ store.periods, decide (row.period.id = ctx.newId 1) = true →
      decide (row.tenant = ctx.tenant) = true := by
    simpa using unused.periods
  simp only [createPeriod, permissions_own, periodsByStart_own]
  apply Agree.read
  intro held _
  apply Agree.read
  intro _ _
  apply Agree.read
  intro existing _
  apply Agree.read
  intro _ _
  apply Agree.read
  intro _ _
  simp only [own, Rows.any_within known]
  apply Agree.read
  intro _ _
  apply Agree.read
  intro _ _
  have items : ∀ row ∈ ChecklistItem.baseline.map fun item =>
      (⟨ctx.tenant, ctx.newId 1, item⟩ : StoredItem), row.tenant = ctx.tenant := by
    simp
  refine .done ⟨⟨?_, ?_⟩, rfl⟩
  · simp [own, insertPeriod, filter_added items]
  · intro other differ
    simp [own, insertPeriod, filter_added_other items differ, differ.symm]

/-- Where all rows with an identifier are of the tenant, putting another of theirs in their place
changes what they own and nothing else. -/
theorem savePeriod_confined {row : StoredPeriod} (ofTenant : row.tenant = ctx.tenant)
    (mine : ∀ old ∈ store.periods, old.period.id = row.period.id → old.tenant = ctx.tenant) :
    Agree (Confined ctx.tenant store) (store.savePeriod ctx row)
      ((store.own ctx.tenant).savePeriod ctx row) := by
  have changes : Changes ctx.tenant StoredPeriod.tenant store.periods
      fun old => if old.period.id = row.period.id then row else old :=
    .of_replaced ofTenant mine
  simp only [savePeriod]
  apply Agree.read
  intro _ _
  refine .done ⟨?_, ?_⟩
  · simp only [own, changes.own]
  · intro other differ
    simp only [own, changes.others differ]

theorem movePeriod_confined (owned : store.Owned) (id : PeriodId)
    (decide : PeriodStatus → PermissionSet → List ChecklistItem → Except PeriodError PeriodAction) :
    Agree (Answered ctx.tenant store) (store.movePeriod ctx id decide)
      ((store.own ctx.tenant).movePeriod ctx id decide) := by
  simp only [movePeriod, storedPeriod_own, checklist_own, permissions_own]
  apply Agree.read
  intro row found
  obtain ⟨stored, rfl, ofTenant⟩ := storedPeriod_ok found
  apply Agree.read
  intro checklist _
  apply Agree.read
  intro held _
  apply Agree.read
  intro action _
  cases action with
  | unchanged status => exact .done ⟨.refl .., rfl⟩
  | transition start target actor time =>
    have moved := (row.after_transition start target actor time).1
    have sameTenant : (row.after (.transition start target actor time)).tenant = ctx.tenant := by
      rw [← ofTenant]
      cases target <;> rfl
    have mine : ∀ old ∈ store.periods,
        old.period.id = (row.after (.transition start target actor time)).period.id →
          old.tenant = ctx.tenant := by
      intro old present same
      rw [moved] at same
      exact (owned.periods old present row stored same).trans ofTenant
    apply ((savePeriod_confined sameTenant mine).mapError _).bind
    intro saved saved' _ confined
    exact .done ⟨confined, rfl⟩

theorem completeItem_confined (id : PeriodId) (code : String) :
    Agree (Answered ctx.tenant store) (store.completeItem ctx id code)
      ((store.own ctx.tenant).completeItem ctx id code) := by
  have searched : (store.own ctx.tenant).checklistItems.find? (fun row =>
      row.tenant = ctx.tenant && row.period = id && row.item.code = code) =
        store.checklistItems.find? fun row =>
          row.tenant = ctx.tenant && row.period = id && row.item.code = code :=
    Rows.find?_within (by simp +contextual)
  simp only [completeItem, storedPeriod_own, permissions_own, searched]
  apply Agree.read
  intro _ _
  apply Agree.read
  intro _ _
  split
  · exact .refused _
  · rename_i row found
    apply Agree.read
    intro held _
    apply Agree.read
    intro signOff _
    cases signOff with
    | alreadyComplete => exact .done ⟨.refl .., rfl⟩
    | completed actor time =>
      have changes : Changes ctx.tenant StoredItem.tenant store.checklistItems fun old =>
          if old.tenant = ctx.tenant && old.period = id && old.item.code = code then
            { old with item := row.item.signedOff actor time } else old := by
        apply Changes.of_if
        · simp +contextual
        · simp +contextual
      apply Agree.read
      intro _ _
      refine .done ⟨⟨?_, ?_⟩, rfl⟩
      · simp only [own, changes.own]
      · intro other differ
        simp only [own, changes.others differ]

/-! ## Journals -/

theorem insertDraft_confined (unused : store.Unused ctx) {draft : NewJournal}
    (validated : store.Validates ctx draft.lines draft.totals) :
    Agree (Answered ctx.tenant store) (store.insertDraft ctx draft)
      ((store.own ctx.tenant).insertDraft ctx draft) := by
  simp only [insertDraft]
  apply Agree.read
  intro _ _
  apply Agree.read
  intro totals _
  have known : ∀ row ∈ store.journals,
      decide (row.id = (draft.journal ctx totals).id) = true →
        decide (row.tenant = ctx.tenant) = true := by
    intro row present same
    exact decide_eq_true (unused.journals row present (of_decide_eq_true same))
  have free : (store.own ctx.tenant).journals.any (·.id = (draft.journal ctx totals).id) =
      store.journals.any (·.id = (draft.journal ctx totals).id) := Rows.any_within known
  have new : ∀ row ∈ [draft.journal ctx totals], row.tenant = ctx.tenant := by
    simp [NewJournal.journal]
  simp only [free]
  apply Agree.read
  intro _ _
  have sameRows : { store.own ctx.tenant with
      journals := (store.own ctx.tenant).journals ++ [draft.journal ctx totals] }.lineRows ctx
        (draft.journal ctx totals).id draft.lines =
      { store with journals := store.journals ++ [draft.journal ctx totals] }.lineRows ctx
        (draft.journal ctx totals).id draft.lines :=
    lineRows_within (filter_added new).symm rfl validated.known
  simp only [sameRows]
  apply Agree.read
  intro rows made
  have mine := fun row present => (lineRows_mem made row present).2
  refine .done ⟨⟨?_, ?_⟩, rfl⟩
  · simp [own, filter_added mine, filter_added new]
  · intro other differ
    simp [own, filter_added_other mine differ, filter_added_other new differ]

theorem createJournal_confined (unused : store.Unused ctx) (input : JournalInput) :
    Agree (Answered ctx.tenant store) (store.createJournal ctx input)
      ((store.own ctx.tenant).createJournal ctx input) := by
  simp only [createJournal, permissions_own, periodsByStart_own, chart_own]
  apply Agree.read
  intro held _
  apply Agree.read
  intro periods _
  apply Agree.read
  intro chart looked
  apply Agree.read
  intro draft decided
  have prepared := (JournalState.create_ok_iff.mp decided).2
  have validated := Validates.of_prepared (mapError_ok_iff.mp looked) prepared
  exact (insertDraft_confined unused validated).mapError _

theorem Confined.saveJournal {part : Store} (first : Confined ctx.tenant store middle part)
    {journal : Journal} (ofTenant : journal.tenant = ctx.tenant)
    (mine : ∀ old ∈ middle.journals, old.id = journal.id → old.tenant = ctx.tenant) :
    Agree (Confined ctx.tenant store) (middle.saveJournal ctx journal)
      (part.saveJournal ctx journal) := by
  have changes : Changes ctx.tenant Journal.tenant middle.journals
      fun old => if old.id = journal.id then journal else old :=
    .of_replaced ofTenant mine
  rw [first.own]
  simp only [Store.saveJournal]
  apply Agree.read
  intro _ _
  apply Agree.done
  apply first.trans
  constructor
  · simp only [Store.own, changes.own]
  · intro other differ
    simp only [Store.own, changes.others differ]

theorem Owned.journals_of (owned : store.Owned) {journal : Journal} {id : JournalId}
    (found : store.journal ctx id = .ok journal) :
    journal.tenant = ctx.tenant ∧
      ∀ old ∈ store.journals, old.id = journal.id → old.tenant = ctx.tenant := by
  obtain ⟨stored, _, ofTenant⟩ := journal_ok found
  refine ⟨ofTenant, ?_⟩
  intro old present same
  exact (owned.journals old present journal stored same).trans ofTenant

theorem rewriteLines_confined {id : JournalId} {rows : List StoredLine}
    (mine : ∀ line ∈ store.journalLines, line.journal = id → line.tenant = ctx.tenant)
    (added : ∀ row ∈ rows, row.tenant = ctx.tenant) :
    Confined ctx.tenant store
      { store with
        journalLines := (store.journalLines.filter fun row => row.journal ≠ id) ++ rows }
      { store.own ctx.tenant with
        journalLines :=
          ((store.own ctx.tenant).journalLines.filter fun row => row.journal ≠ id) ++ rows } := by
  constructor
  · simp only [own, filter_added added, List.filter_filter, Bool.and_comm]
  · intro other differ
    have untouched : ((store.journalLines.filter fun row => row.journal ≠ id).filter fun row =>
        decide (row.tenant = other)) =
          store.journalLines.filter fun row => decide (row.tenant = other) := by
      apply Rows.filter_within
      intro line present isOther
      apply decide_eq_true
      intro isOf
      exact differ ((of_decide_eq_true isOther).symm.trans (mine line present isOf))
    simp only [own, filter_added_other added differ, untouched]

theorem updateJournal_confined (owned : store.Owned) (id : JournalId) (input : JournalInput) :
    Agree (Answered ctx.tenant store) (store.updateJournal ctx id input)
      ((store.own ctx.tenant).updateJournal ctx id input) := by
  simp only [updateJournal, journal_own, permissions_own, periodsByStart_own, chart_own]
  apply Agree.read
  intro journal found
  obtain ⟨ofTenant, mine⟩ := owned.journals_of found
  apply Agree.read
  intro held _
  apply Agree.read
  intro periods _
  apply Agree.read
  intro chart looked
  apply Agree.read
  intro draft decided
  apply Agree.read
  intro _ _
  obtain ⟨_, _, prepared⟩ := JournalState.edit_ok_iff.mp decided
  have known := (Validates.of_prepared (mapError_ok_iff.mp looked) prepared).known
  have sameRows : { store.own ctx.tenant with
      journalLines := (store.own ctx.tenant).journalLines.filter fun row =>
        row.journal ≠ id }.lineRows ctx id input.lines =
      { store with
        journalLines := store.journalLines.filter fun row => row.journal ≠ id }.lineRows ctx id
          input.lines := lineRows_within rfl rfl known
  simp only [sameRows]
  apply Agree.read
  intro rows made
  apply Agree.read
  intro totals _
  have added := fun row present => (lineRows_mem (mapError_ok_iff.mp made) row present).2
  have rewritten := rewriteLines_confined (owned.lines_of found) added
  refine ((rewritten.saveJournal ?_ ?_).mapError _).bind ?_
  · exact ofTenant
  · exact mine
  intro saved saved' _ confined
  exact .done ⟨confined, rfl⟩

theorem recordAction_confined (owned : store.Owned) {journal : Journal} {id : JournalId}
    (found : store.journal ctx id = .ok journal) (action : JournalAction) :
    Agree (Answered ctx.tenant store) (store.recordAction ctx journal action)
      ((store.own ctx.tenant).recordAction ctx journal action) := by
  obtain ⟨ofTenant, mine⟩ := owned.journals_of found
  obtain ⟨_, sameId, _, _, _⟩ := journal_after journal action ctx.now
  have sameTenant : (journal.after action ctx.now).tenant = ctx.tenant := by
    rw [← ofTenant]
    cases action <;> rfl
  have mine' : ∀ old ∈ store.journals,
      old.id = (journal.after action ctx.now).id → old.tenant = ctx.tenant := by
    rw [sameId]
    exact mine
  have lines := owned.lines_of found
  obtain ⟨_, rfl, _⟩ := journal_ok found
  simp only [recordAction]
  apply (((Confined.refl ctx.tenant store).saveJournal sameTenant mine').mapError _).bind
  intro saved saved' saving confined
  have lines_kept := confined.mine (fun _ _ => rfl) lines
  -- The lines are read again from the stores that the journal was saved in.
  rw [confined.own, sameId, linesOf_own lines_kept]
  apply Agree.read
  intro rows _
  exact .done ⟨⟨rfl, confined.others⟩, rfl⟩

theorem submitJournal_confined (owned : store.Owned) (id : JournalId) :
    Agree (Answered ctx.tenant store) (store.submitJournal ctx id)
      ((store.own ctx.tenant).submitJournal ctx id) := by
  simp only [submitJournal, journal_own, periodOf_own, permissions_own, tenantRules_own]
  apply Agree.read
  intro journal found
  apply Agree.read
  intro period _
  apply Agree.read
  intro held _
  apply Agree.read
  intro rules _
  apply Agree.read
  intro action _
  exact recordAction_confined owned found action

theorem approveJournal_confined (owned : store.Owned) (id : JournalId) :
    Agree (Answered ctx.tenant store) (store.approveJournal ctx id)
      ((store.own ctx.tenant).approveJournal ctx id) := by
  simp only [approveJournal, journal_own, permissions_own, tenantRules_own]
  apply Agree.read
  intro journal found
  apply Agree.read
  intro held _
  apply Agree.read
  intro rules _
  apply Agree.read
  intro action _
  exact recordAction_confined owned found action

theorem rejectJournal_confined (owned : store.Owned) (id : JournalId) (reason : String) :
    Agree (Answered ctx.tenant store) (store.rejectJournal ctx id reason)
      ((store.own ctx.tenant).rejectJournal ctx id reason) := by
  simp only [rejectJournal, journal_own, permissions_own]
  apply Agree.read
  intro journal found
  apply Agree.read
  intro held _
  apply Agree.read
  intro action _
  exact recordAction_confined owned found action

theorem Confined.addDelta {part : Store} (first : Confined ctx.tenant store middle part)
    {period : PeriodId} (mine : ∀ row ∈ middle.balances, row.period = period →
      row.tenant = ctx.tenant) (delta : Delta) :
    Agree (Confined ctx.tenant store) (middle.addDelta ctx period delta)
      (part.addDelta ctx period delta) := by
  have known : ∀ row ∈ middle.balances,
      (row.period = period && row.balance.account = delta.account) = true →
        row.tenant = ctx.tenant := by
    intro row present fits
    exact mine row present (of_decide_eq_true (Bool.and_eq_true_iff.mp fits).1)
  have searched : (middle.own ctx.tenant).balances.find? (fun row =>
      row.period = period && row.balance.account = delta.account) =
        middle.balances.find? fun row =>
          row.period = period && row.balance.account = delta.account := by
    apply Rows.find?_within
    intro row present fits
    exact decide_eq_true (known row present fits)
  rw [first.own]
  simp only [Store.addDelta, searched]
  apply Agree.read
  intro _ _
  apply Agree.read
  intro debit _
  apply Agree.read
  intro credit _
  split
  · apply Agree.done
    apply first.trans
    constructor
    · simp [Store.own]
    · intro other differ
      simp [Store.own, differ.symm]
  · rename_i row found
    have fits := List.find?_some found
    have ofTenant := known row (List.mem_of_find?_eq_some found) fits
    split
    · rename_i debit' credit' _ _
      have changes : Changes ctx.tenant StoredBalance.tenant middle.balances fun old =>
          if old.period = period && old.balance.account = delta.account then
            { row with balance := { row.balance with debit := debit', credit := credit' } }
          else old := .of_replaced ofTenant known
      apply Agree.done
      apply first.trans
      constructor
      · simp only [Store.own, changes.own]
      · intro other differ
        simp only [Store.own, changes.others differ]
    · exact .refused _

theorem Confined.addDeltas {part : Store} (first : Confined ctx.tenant store middle part)
    {period : PeriodId} (mine : ∀ row ∈ middle.balances, row.period = period →
      row.tenant = ctx.tenant) (deltas : List Delta) :
    Agree (Confined ctx.tenant store) (Store.addDeltas ctx period middle deltas)
      (Store.addDeltas ctx period part deltas) := by
  induction deltas generalizing middle part with
  | nil => exact .done first
  | cons delta rest ih =>
    apply (first.addDelta mine delta).bind
    intro added added' _ confined
    -- What the first delta did is told from the store before all of them, but the balances are
    -- known of the one before it.
    have fromMiddle : Confined ctx.tenant middle added added' := by
      refine ⟨confined.own, ?_⟩
      intro other differ
      exact (confined.others other differ).trans (first.others other differ).symm
    exact ih confined (fromMiddle.mine (fun _ _ => rfl) mine)

theorem Owned.balances_of (owned : store.Owned) {journal : Journal} {period : Period}
    (found : store.periodOf ctx journal = .ok period) :
    ∀ row ∈ store.balances, row.period = period.id → row.tenant = ctx.tenant := by
  obtain ⟨_, stored, present, rfl, ofTenant⟩ := periodOf_ok found
  intro row inTable same
  exact (owned.balances row inTable stored present same).trans ofTenant

theorem postJournal_confined (owned : store.Owned) (id : JournalId) :
    Agree (Answered ctx.tenant store) (store.postJournal ctx id)
      ((store.own ctx.tenant).postJournal ctx id) := by
  simp only [postJournal, journal_own, periodOf_own]
  apply Agree.read
  intro journal found
  obtain ⟨ofTenant, mine⟩ := owned.journals_of found
  have lines := owned.lines_of found
  apply Agree.read
  intro period periodFound
  have balances := owned.balances_of periodFound
  simp only [linesOf_own lines, chart_own, permissions_own, tenantRules_own]
  apply Agree.read
  intro rows _
  apply Agree.read
  intro chart _
  apply Agree.read
  intro held _
  apply Agree.read
  intro rules _
  apply Agree.read
  intro action _
  obtain ⟨_, sameId, _, _, _⟩ := journal_after journal action ctx.now
  have sameTenant : (journal.after action ctx.now).tenant = ctx.tenant := by
    rw [← ofTenant]
    cases action <;> rfl
  rw [← sameId] at mine
  refine (((Confined.refl ctx.tenant store).saveJournal sameTenant mine).mapError _).bind ?_
  intro saved saved' _ confined
  apply Agree.read
  intro deltas _
  have balances_kept := confined.mine (fun _ _ => rfl) balances
  refine ((confined.addDeltas balances_kept deltas).mapError _).bind ?_
  intro added added' _ confined'
  exact .done ⟨confined', rfl⟩

theorem reverseJournal_confined (owned : store.Owned) (unused : store.Unused ctx) (id : JournalId)
    (date : Option Date) :
    Agree (Answered ctx.tenant store) (store.reverseJournal ctx id date)
      ((store.own ctx.tenant).reverseJournal ctx id date) := by
  have searched : (store.own ctx.tenant).journals.find? (fun row =>
      row.tenant = ctx.tenant && row.reverses = some id) =
        store.journals.find? fun row => row.tenant = ctx.tenant && row.reverses = some id :=
    Rows.find?_within (by simp +contextual)
  simp only [reverseJournal, journal_own, permissions_own, periodsByStart_own, chart_own, searched]
  apply Agree.read
  intro journal found
  simp only [linesOf_own (owned.lines_of found)]
  apply Agree.read
  intro _ _
  apply Agree.read
  intro held _
  apply Agree.read
  intro _ _
  apply Agree.read
  intro rows _
  apply Agree.read
  intro periods _
  apply Agree.read
  intro chart looked
  apply Agree.read
  intro draft prepared
  have validated := Validates.of_prepared (mapError_ok_iff.mp looked) prepared
  exact (insertDraft_confined unused validated).mapError _

/-! ## Templates -/

theorem createTemplate_confined (unused : store.Unused ctx) (input : TemplateInput) :
    Agree (Answered ctx.tenant store) (store.createTemplate ctx input)
      ((store.own ctx.tenant).createTemplate ctx input) := by
  have known : ∀ row ∈ store.templates, decide (row.id = ctx.newId 1) = true →
      decide (row.tenant = ctx.tenant) = true := by
    simpa using unused.templates
  simp only [createTemplate, permissions_own, chart_own]
  apply Agree.read
  intro held _
  apply Agree.read
  intro _ _
  apply Agree.read
  intro chart _
  apply Agree.read
  intro _ _
  apply Agree.read
  intro _ _
  simp only [own, Rows.any_within known]
  apply Agree.read
  intro _ _
  refine .done ⟨⟨?_, ?_⟩, rfl⟩
  · simp [own]
  · intro other differ
    simp [own, differ.symm]

theorem Owned.templates_of (owned : store.Owned) {row : StoredTemplate} {id : TemplateId}
    (found : store.getTemplate ctx id = .ok row) :
    ∀ old ∈ store.templates, old.id = id → old.tenant = ctx.tenant := by
  obtain ⟨stored, rfl, ofTenant⟩ := getTemplate_ok found
  intro old present same
  exact (owned.templates old present row stored same).trans ofTenant

theorem generateJournal_confined (owned : store.Owned) (unused : store.Unused ctx)
    (id : TemplateId) (periodId : PeriodId) :
    Agree (Answered ctx.tenant store) (store.generateJournal ctx id periodId)
      ((store.own ctx.tenant).generateJournal ctx id periodId) := by
  simp only [generateJournal, getTemplate_own, period?_own, alreadyGenerated_own,
    permissions_own, chart_own]
  apply Agree.read
  intro row found
  have mine := owned.templates_of found
  apply Agree.read
  intro template _
  apply Agree.read
  intro period? _
  split
  case h_2 => exact .refused _
  apply Agree.read
  intro period _
  apply Agree.read
  intro already _
  apply Agree.read
  intro held _
  apply Agree.read
  intro chart looked
  apply Agree.read
  intro made decided
  obtain ⟨_, _, _, totals, validated, rfl⟩ := Template.generate_ok_iff.mp decided
  have validates : store.Validates ctx template.lines totals :=
    ⟨chart, mapError_ok_iff.mp looked, validated⟩
  refine ((insertDraft_confined unused validates).mapError _).bind ?_
  rintro ⟨inserted, view⟩ ⟨inserted', view'⟩ _ ⟨confined, sameView⟩
  obtain rfl : view' = view := sameView
  obtain rfl : inserted' = inserted.own ctx.tenant := confined.own
  apply Agree.read
  intro _ _
  apply Agree.read
  intro _ _
  have mine' := confined.mine (fun _ _ => rfl) mine
  have changes : Changes ctx.tenant StoredTemplate.tenant inserted.templates fun old =>
      if old.id = id then { old with lastGenerated := some periodId } else old :=
    .of_if mine' mine'
  refine .done ⟨confined.trans ⟨?_, ?_⟩, rfl⟩
  · simp [own, changes.own]
  · intro other differ
    simp [own, changes.others differ, differ.symm]

/-! ## Bank accounts -/

theorem matchLine_confined (owned : store.Owned) (line : StatementLineId) (payment : PaymentId) :
    Agree (Answered ctx.tenant store) (store.matchLine ctx line payment)
      ((store.own ctx.tenant).matchLine ctx line payment) := by
  have lineSearched : (store.own ctx.tenant).statementLines.find? (fun row =>
      row.line.id = line && row.tenant = ctx.tenant) =
        store.statementLines.find? fun row => row.line.id = line && row.tenant = ctx.tenant :=
    Rows.find?_within (by simp +contextual)
  have paymentSearched : (store.own ctx.tenant).payments.find? (fun row =>
      row.id = payment && row.tenant = ctx.tenant) =
        store.payments.find? fun row => row.id = payment && row.tenant = ctx.tenant :=
    Rows.find?_within (by simp +contextual)
  simp only [matchLine, permissions_own, isReconciled_own, lineSearched, paymentSearched]
  apply Agree.read
  intro _ _
  split
  case h_2 => exact .refused _
  rename_i row searched
  have fits := List.find?_some searched
  simp only [Bool.and_eq_true, decide_eq_true_eq] at fits
  apply Agree.read
  rintro _ ⟨⟩
  apply Agree.read
  intro _ _
  split
  case h_2 => exact .refused _
  apply Agree.read
  intro paid _
  apply Agree.read
  intro held _
  apply Agree.read
  intro made _
  have mine : ∀ old ∈ store.statementLines, old.line.id = row.line.id →
      old.tenant = ctx.tenant := by
    intro old present same
    have stored := List.mem_of_find?_eq_some searched
    exact (owned.statementLines old present row stored same).trans fits.2
  have changes : Changes ctx.tenant StoredStatementLine.tenant store.statementLines fun old =>
      if old.line.id = row.line.id then
        { row with
          line := { row.line with matched := some made.payment }
          mark := some ⟨made.actor, ctx.now⟩ }
      else old := .of_replaced fits.2 mine
  refine .done ⟨⟨?_, ?_⟩, rfl⟩
  · simp only [own, changes.own]
  · intro other differ
    simp only [own, changes.others differ]

theorem createAdjustment_confined (owned : store.Owned) (unused : store.Unused ctx)
    (bank : BankAccountId) (asOf : Date) (closing : Decimal) (offset : AccountId) :
    Agree (Answered ctx.tenant store) (store.createAdjustment ctx bank asOf closing offset)
      ((store.own ctx.tenant).createAdjustment ctx bank asOf closing offset) := by
  simp only [createAdjustment, bankPosition_own, summarise_own owned, permissions_own,
    periodsByStart_own, chart_own]
  apply Agree.read
  intro position _
  apply Agree.read
  intro summary _
  apply Agree.read
  intro held _
  apply Agree.read
  intro lines _
  apply Agree.read
  intro periods _
  apply Agree.read
  intro chart looked
  apply Agree.read
  intro draft prepared
  have validated := Validates.of_prepared (mapError_ok_iff.mp looked) (mapError_ok_iff.mp prepared)
  exact (insertDraft_confined unused validated).mapError _

end Store

end Countinghouse
