import Countinghouse.Proofs.Journal.Step
import Countinghouse.Proofs.Policy.Resolution
import Countinghouse.Proofs.Store.Rows
import Countinghouse.Proofs.Success
import Countinghouse.Store.Templates

/-! # What is read

An operation reads what it needs for the tenant first.  Whatever it is given was stored, and is
the tenant's. -/

set_option autoImplicit false

namespace Countinghouse

namespace Store

variable {store : Store} {ctx : Context}

theorem allowed {held : PermissionSet} {p : Permission}
    (read : store.permissions ctx ctx.user = .ok held) (holds : p ∈ held) :
    store.Allows ctx.tenant ctx.user p :=
  (mem_permissions_iff read p).mp holds

theorem constraint_ok_iff {condition : Bool} {u : Unit} :
    Store.require condition = .ok u ↔ condition = true := by
  cases condition <;> simp [Store.require]

theorem column_ok_iff {a b : Decimal} : column a = .ok b ↔ a.toColumn? = some b := by
  unfold column
  cases a.toColumn? <;> simp

theorem columns_ok {totals stored : Totals} (columns : columns totals = .ok stored) :
    totals.debit.toColumn? = some stored.debit ∧ totals.credit.toColumn? = some stored.credit := by
  simp only [Store.columns, bind_ok_iff, pure_ok_iff, column_ok_iff] at columns
  obtain ⟨debit, debited, credit, credited, rfl⟩ := columns
  exact ⟨debited, credited⟩

/-! ## Periods -/

theorem period?_ok {id : PeriodId} {row : StoredPeriod}
    (found : store.period? ctx id = .ok (some row)) :
    row ∈ store.periods ∧ row.period.id = id ∧ row.tenant = ctx.tenant := by
  simp only [period?, bind_ok_iff, pure_ok_iff] at found
  obtain ⟨_, _, searched⟩ := found
  have fits := List.find?_some searched.symm
  simp only [Bool.and_eq_true, decide_eq_true_eq] at fits
  exact ⟨List.mem_of_find?_eq_some searched.symm, fits⟩

theorem storedPeriod_ok {id : PeriodId} {row : StoredPeriod}
    (found : store.storedPeriod ctx id = .ok row) :
    row ∈ store.periods ∧ row.period.id = id ∧ row.tenant = ctx.tenant := by
  simp only [storedPeriod, liftM, monadLift, MonadLift.monadLift, bind_ok_iff,
    mapError_ok_iff] at found
  obtain ⟨row?, searched, found⟩ := found
  split at found
  case h_2 => simp only [throw_ok_iff] at found
  obtain rfl := pure_ok_iff.mp found
  exact period?_ok searched

theorem periodOf_ok {journal : Journal} {period : Period}
    (found : store.periodOf ctx journal = .ok period) :
    period.id = journal.period ∧
      ∃ row ∈ store.periods, row.period = period ∧ row.tenant = ctx.tenant := by
  simp only [periodOf, liftM, monadLift, MonadLift.monadLift, bind_ok_iff,
    mapError_ok_iff] at found
  obtain ⟨row?, searched, found⟩ := found
  split at found
  case h_2 => simp only [throw_ok_iff] at found
  obtain rfl := pure_ok_iff.mp found
  obtain ⟨present, sameId, ofTenant⟩ := period?_ok searched
  exact ⟨sameId, _, present, rfl, ofTenant⟩

theorem periodsByStart_ok {periods : List Period} (read : store.periodsByStart ctx = .ok periods)
    (period : Period) :
    period ∈ periods ↔ ∃ row ∈ store.periods, row.tenant = ctx.tenant ∧ row.period = period := by
  simp only [periodsByStart, bind_ok_iff, pure_ok_iff] at read
  obtain ⟨_, _, rfl⟩ := read
  simp only [tenantPeriods, List.mem_map, List.mem_mergeSort, List.mem_filter, decide_eq_true_eq,
    and_assoc]

/-- The date is one that journals of the tenant may have in the period. -/
def Dated (store : Store) (tenant : TenantId) (id : PeriodId) (date : Date) : Prop :=
  ∃ row ∈ store.periods, row.tenant = tenant ∧ row.period.id = id ∧
    (row.period.Contains date ∨ date = row.period.start)

theorem prepare_ok {lines : List Line} {date : Date} {periods : List Period} {chart : Chart}
    {draft : Draft} (read : store.periodsByStart ctx = .ok periods)
    (prepared : Draft.prepare lines date periods chart = .ok draft) :
    chart.validate lines = .ok draft.totals ∧ store.Dated ctx.tenant draft.period date := by
  obtain ⟨period, found, inPeriod, validated⟩ := JournalState.prepare_ok_iff.mp prepared
  obtain ⟨row, present, inTenant, rfl⟩ :=
    (periodsByStart_ok read period).mp (List.mem_of_find?_eq_some found)
  rw [inPeriod]
  exact ⟨validated, row, present, inTenant, rfl, Or.inl (by simpa using List.find?_some found)⟩

/-! ## Journals -/

theorem journal_ok {id : JournalId} {journal : Journal}
    (found : store.journal ctx id = .ok journal) :
    journal ∈ store.journals ∧ journal.id = id ∧ journal.tenant = ctx.tenant := by
  simp only [Store.journal, liftM, monadLift, MonadLift.monadLift, bind_ok_iff,
    mapError_ok_iff] at found
  obtain ⟨_, _, found⟩ := found
  split at found
  case h_2 => simp only [throw_ok_iff] at found
  rename_i row searched
  obtain rfl := pure_ok_iff.mp found
  have fits := List.find?_some searched
  simp only [Bool.and_eq_true, decide_eq_true_eq] at fits
  exact ⟨List.mem_of_find?_eq_some searched, fits⟩

theorem ofList_some {tenant : TenantId} {id : AccountId} {account : Account}
    (searched : Chart.ofList ((store.accounts.filter (·.tenant = tenant)).map (·.account)) id =
      some account) :
    ∃ stored ∈ store.accounts, stored.tenant = tenant ∧ stored.account = account ∧
      account.id = id := by
  obtain ⟨stored, present, rfl⟩ := List.mem_map.mp (List.mem_of_find?_eq_some searched)
  obtain ⟨present, ofTenant⟩ := List.mem_filter.mp present
  have sameId := List.find?_some searched
  exact ⟨stored, present, of_decide_eq_true ofTenant, rfl, of_decide_eq_true sameId⟩

/-- An account that is looked up is one of the tenant. -/
theorem chart_ok {lines : List Line} {chart : Chart} (read : store.chart ctx lines = .ok chart)
    {id : AccountId} {account : Account} (known : chart id = some account) :
    ∃ stored ∈ store.accounts, stored.tenant = ctx.tenant ∧ stored.account.id = id := by
  simp only [Store.chart, bind_ok_iff, ite_ok_iff, pure_ok_iff] at read
  obtain ⟨_, rfl⟩ | ⟨_, _, _, rfl⟩ := read
  · cases known
  · obtain ⟨stored, present, ofTenant, rfl, sameId⟩ := ofList_some known
    exact ⟨stored, present, ofTenant, sameId⟩

def rowsOf (id : JournalId) (lines : List StoredLine) : List StoredLine :=
  lines.filter (·.journal = id)

theorem linesOf_ok {id : JournalId} {rows : List StoredLine}
    (read : store.linesOf ctx id = .ok rows) : rows.Perm (rowsOf id store.journalLines) := by
  simp only [linesOf, bind_ok_iff, pure_ok_iff] at read
  obtain ⟨_, _, rfl⟩ := read
  exact List.mergeSort_perm ..

theorem rowsOf_append (id : JournalId) (first second : List StoredLine) :
    rowsOf id (first ++ second) = rowsOf id first ++ rowsOf id second :=
  List.filter_append ..

theorem rowsOf_own {id : JournalId} {rows : List StoredLine}
    (owned : ∀ row ∈ rows, row.journal = id) : rowsOf id rows = rows :=
  List.filter_eq_self.mpr fun row present => decide_eq_true (owned row present)

theorem rowsOf_foreign {id : JournalId} {rows : List StoredLine}
    (foreign : ∀ row ∈ rows, row.journal ≠ id) : rowsOf id rows = [] :=
  List.filter_eq_nil_iff.mpr fun row present => by simpa using foreign row present

theorem rowsOf_without {id other : JournalId} (differ : other ≠ id) (lines : List StoredLine) :
    rowsOf other (lines.filter fun row => row.journal ≠ id) = rowsOf other lines := by
  rw [rowsOf, List.filter_filter]
  refine List.filter_congr fun row _ => ?_
  by_cases mine : row.journal = other <;> simp [mine, differ]

/-! ## Templates -/

theorem getTemplate_ok {id : TemplateId} {row : StoredTemplate}
    (found : store.getTemplate ctx id = .ok row) :
    row ∈ store.templates ∧ row.id = id ∧ row.tenant = ctx.tenant := by
  simp only [getTemplate, liftM, monadLift, MonadLift.monadLift, bind_ok_iff,
    mapError_ok_iff] at found
  obtain ⟨_, _, found⟩ := found
  split at found
  case h_2 => simp only [throw_ok_iff] at found
  rename_i searched
  obtain rfl := pure_ok_iff.mp found
  have fits := List.find?_some searched
  simp only [Bool.and_eq_true, decide_eq_true_eq] at fits
  exact ⟨List.mem_of_find?_eq_some searched, fits⟩

end Store

end Countinghouse
