import Countinghouse.Proofs.Store.Balances
import Countinghouse.Proofs.Store.Periods

/-! # Shut periods

While a period is closed or locked, nothing is booked in it.  Its journals may still be
drafted and changed, moved into it and out of it; one that was submitted before may be approved
or sent back.  But nothing is submitted there, and nothing is posted. -/

set_option autoImplicit false

namespace Countinghouse

namespace Store

/-- Journals are told apart, and so are periods. -/
structure Keyed (store : Store) : Prop where
  journals : (store.journals.map (·.id)).Nodup
  periods : (store.periods.map (·.period.id)).Nodup

/-- The period is closed or locked. -/
def Shut (store : Store) (id : PeriodId) : Prop :=
  ∃ row ∈ store.periods, row.period.id = id ∧
    (row.period.status = .closed ∨ row.period.status = .locked)

def Reopens (store : Store) (id : PeriodId) (attempt : Attempt) : Prop :=
  attempt.command = .reopenPeriod id ∧
    ∃ done, (attempt.command.run attempt.ctx store).result = .ok done

/-- Something holds of every attempt of a run and of the store that it meets. -/
def Throughout (holds : Store → Attempt → Prop) : Store → List Attempt → Prop
  | _, [] => True
  | store, attempt :: rest => holds store attempt ∧ Throughout holds (store.after attempt) rest

def balancesIn (store : Store) (id : PeriodId) : List StoredBalance :=
  store.balances.filter (·.period = id)

def postedIn (store : Store) (id : PeriodId) : List Journal :=
  store.journals.filter fun journal => journal.state.status = .posted && journal.period = id

/-- What is booked in the period is the same in both. -/
structure SameBooks (id : PeriodId) (before after : Store) : Prop where
  balances : after.balancesIn id = before.balancesIn id
  posted : after.postedIn id = before.postedIn id
  lines : ∀ journal ∈ before.postedIn id,
    rowsOf journal.id after.journalLines = rowsOf journal.id before.journalLines

end Store

/-- How the status of a journal may change in a shut period. -/
inductive JournalStatus.Settles : JournalStatus → JournalStatus → Prop where
  | approved : Settles .submitted .approved
  | withdrawn : Settles .submitted .draft
  | revoked : Settles .approved .draft

theorem JournalState.Step.settles {state next : JournalState} {request : JournalRequest}
    (step : state.Step request next) (apart : request.period? = none) :
    next.status = state.status ∨ state.status.Settles next.status := by
  cases step with
  | edit => exact Or.inl rfl
  | submit => cases apart
  | approve permitted status =>
    rw [status]
    exact Or.inr .approved
  | reject permitted reasoned status =>
    rcases status with submitted | approved
    · rw [submitted]
      exact Or.inr .withdrawn
    · rw [approved]
      exact Or.inr .revoked
  | post => cases apart

namespace Store

variable {store before next : Store} {id : PeriodId}

/-- No journal is lost, a new one is a draft, and the status of one that is in the period before
or after it changes only in these ways. -/
structure Withheld (id : PeriodId) (before after : Store) : Prop where
  kept : ∀ old ∈ before.journals, ∃ new ∈ after.journals, new.id = old.id
  drafted : ∀ new ∈ after.journals, (∀ old ∈ before.journals, old.id ≠ new.id) →
    new.state.status = .draft
  changes : ∀ old ∈ before.journals, ∀ new ∈ after.journals, new.id = old.id →
    old.period = id ∨ new.period = id →
      new.state.status = old.state.status ∨ old.state.status.Settles new.state.status

theorem SameBooks.refl (id : PeriodId) (store : Store) : SameBooks id store store :=
  ⟨rfl, rfl, fun _ _ => rfl⟩

theorem SameBooks.trans {middle : Store} (first : SameBooks id before middle)
    (second : SameBooks id middle next) : SameBooks id before next := by
  refine ⟨second.balances.trans first.balances, second.posted.trans first.posted, ?_⟩
  intro journal posted
  have still : journal ∈ middle.postedIn id := by
    rw [first.posted]
    exact posted
  exact (second.lines journal still).trans (first.lines journal posted)

/-! ## Periods stay shut -/

theorem Shut.not_open (shut : store.Shut id) (keyed : store.Keyed) {row : StoredPeriod}
    (stored : row ∈ store.periods) (sameId : row.period.id = id) : row.period.status ≠ .open := by
  obtain ⟨shutRow, present, isIt, status⟩ := shut
  obtain rfl : row = shutRow :=
    List.inj_on_of_nodup_map keyed.periods stored present (sameId.trans isIt.symm)
  intro isOpen
  rw [isOpen] at status
  rcases status with closed | locked
  · cases closed
  · cases locked

theorem Shut.writes {command : Command} (shut : store.Shut id)
    (written : store.PeriodWrites command next) (unopened : command ≠ .reopenPeriod id) :
    next.Shut id := by
  obtain ⟨row, present, rfl, status⟩ := shut
  cases written with
  | unchanged periods =>
    refine ⟨row, ?_, rfl, status⟩
    rw [periods]
    exact present
  | created fresh periods =>
    refine ⟨row, ?_, rfl, status⟩
    rw [periods]
    exact List.mem_append_left _ present
  | @moved old new stored sameId reopened periods =>
    have present_iff := Rows.mem_replace_iff (·.period.id) new stored sameId
    rw [← periods] at present_iff
    by_cases same : row.period.id = new.period.id
    · refine ⟨new, (present_iff new).mpr (Or.inl rfl), same.symm, ?_⟩
      have still : new.period.status ≠ .open := by
        intro isOpen
        rw [same.trans sameId] at unopened
        exact unopened (reopened isOpen)
      cases now : new.period.status with
      | «open» => exact absurd now still
      | closed => exact Or.inl rfl
      | locked => exact Or.inr rfl
    · exact ⟨row, (present_iff row).mpr (Or.inr ⟨present, same⟩), rfl, status⟩

theorem Keyed.writes {command : Command} (keyed : store.Keyed) (books : store.Writes next)
    (written : store.PeriodWrites command next) : next.Keyed := by
  constructor
  · cases books with
    | unchanged journals lines balances =>
      rw [journals]
      exact keyed.journals
    | drafted fresh status dated owned booked journals lines balances =>
      rw [journals, List.map_append, List.map_singleton, List.nodup_append]
      refine ⟨keyed.journals, List.nodup_singleton _, ?_⟩
      simpa using fresh
    | edited stored sameId status status' dated owned booked journals lines balances =>
      rw [journals, Rows.keys_replace]
      exact keyed.journals
    | moved stored sameId samePeriod sameDate step status isIn journals lines balances =>
      rw [journals, Rows.keys_replace]
      exact keyed.journals
    | posted stored sameId samePeriod sameDate step status isIn sorted made added =>
      obtain ⟨balances, rfl, _⟩ := addDeltas_frame added
      rw [Rows.keys_replace]
      exact keyed.journals
  · cases written with
    | unchanged periods =>
      rw [periods]
      exact keyed.periods
    | created fresh periods =>
      rw [periods, List.map_append, List.map_singleton, List.nodup_append]
      refine ⟨keyed.periods, List.nodup_singleton _, ?_⟩
      simpa using fresh
    | moved stored sameId reopened periods =>
      rw [periods, Rows.keys_replace]
      exact keyed.periods

theorem Keyed.after (keyed : store.Keyed) (attempt : Attempt) : (store.after attempt).Keyed := by
  rcases store.after_cases attempt with
    ⟨done, records, succeeded, reached⟩ | ⟨_, records, _, reached⟩
  · have written := keyed.writes (command_writes succeeded) (command_periods succeeded)
    rw [reached]
    exact ⟨written.journals, written.periods⟩
  · rw [reached]
    exact ⟨keyed.journals, keyed.periods⟩

theorem Shut.after {attempt : Attempt} (shut : store.Shut id)
    (unopened : ¬ store.Reopens id attempt) : (store.after attempt).Shut id := by
  rcases store.after_cases attempt with
    ⟨done, records, succeeded, reached⟩ | ⟨_, records, _, reached⟩
  · have not_reopening : attempt.command ≠ .reopenPeriod id := by
      intro reopening
      exact unopened ⟨reopening, done, succeeded⟩
    have still := shut.writes (command_periods succeeded) not_reopening
    rw [reached]
    exact still
  · rw [reached]
    exact shut

/-! ## Books stay the same -/

/-- In a shut period a journal takes only the steps that need no open period. -/
theorem Shut.no_period (shut : store.Shut id) (keyed : store.Keyed) {old new : Journal}
    {request : JournalRequest} (step : old.state.Step request new.state)
    (isIn : ∀ period, request.period? = some period →
      period.id = old.period ∧ ∃ row ∈ store.periods, row.period = period)
    (within : old.period = id) : request.period? = none := by
  cases meant : request.period? with
  | none => rfl
  | some period =>
    have isOpen : period.status = .open := step.period_open period meant
    obtain ⟨same, row, stored, rfl⟩ := isIn period meant
    exact absurd isOpen (shut.not_open keyed stored (same.trans within))

theorem Shut.elsewhere (shut : store.Shut id) (keyed : store.Keyed) {old new : Journal}
    {request : JournalRequest} (step : old.state.Step request new.state)
    (isIn : ∀ period, request.period? = some period →
      period.id = old.period ∧ ∃ row ∈ store.periods, row.period = period)
    (posted : new.state.status = .posted) : old.period ≠ id := by
  intro within
  have unposted := fun posted => JournalState.posted_refuses posted step
  -- A step that asks for no open period settles, and what settles is not posted.
  rcases step.settles (shut.no_period keyed step isIn within) with same | settles
  · exact unposted (same.symm.trans posted)
  · generalize old.state.status = status at settles
    rw [posted] at settles
    cases settles

theorem SameBooks.of_replace {old new : Journal} (keyed : before.Keyed)
    (stored : old ∈ before.journals) (sameId : new.id = old.id)
    (unposted : old.state.status ≠ .posted ∨ old.period ≠ id)
    (unposted' : new.state.status ≠ .posted ∨ new.period ≠ id)
    (journals : next.journals = Rows.replace (·.id) new before.journals) :
    next.postedIn id = before.postedIn id := by
  rw [postedIn, postedIn, journals]
  refine Rows.filter_replace ?_ ?_
  · simpa [imp_iff_not_or] using unposted'
  · intro other present same
    obtain rfl : other = old :=
      List.inj_on_of_nodup_map keyed.journals present stored (same.trans sameId)
    simpa [imp_iff_not_or] using unposted

theorem Shut.sameBooks (shut : before.Shut id) (keyed : before.Keyed)
    (written : before.Writes next) : SameBooks id before next := by
  cases written with
  | unchanged journals lines balances =>
    constructor
    · rw [balancesIn, balancesIn, balances]
    · rw [postedIn, postedIn, journals]
    · intro journal posted
      rw [lines]
  | @drafted draft rows fresh status dated owned booked journals lines balances =>
    constructor
    · rw [balancesIn, balancesIn, balances]
    · rw [postedIn, postedIn, journals, List.filter_append,
        List.filter_cons_of_neg (by simp [status]), List.filter_nil, List.append_nil]
    · intro journal posted
      have stored : journal ∈ before.journals := (List.mem_filter.mp posted).1
      have none_new : rowsOf journal.id rows = [] :=
        rowsOf_foreign fun row present =>
          (owned row present).trans_ne (fresh journal stored).symm
      rw [lines, rowsOf_append, none_new, List.append_nil]
  | @edited old new rows stored sameId status status' dated owned booked journals lines
      balances =>
    constructor
    · rw [balancesIn, balancesIn, balances]
    · exact SameBooks.of_replace keyed stored sameId (Or.inl (by simp [status]))
        (Or.inl (by simp [status'])) journals
    · intro journal posted
      -- Only lines of the edited draft are written, and a posted journal is no draft.
      obtain ⟨stored', fits⟩ := List.mem_filter.mp posted
      have differ : journal.id ≠ old.id := by
        intro same
        obtain rfl := List.inj_on_of_nodup_map keyed.journals stored' stored same
        simp [status] at fits
      have none_new : rowsOf journal.id rows = [] :=
        rowsOf_foreign fun row present => (owned row present).trans_ne differ.symm
      rw [lines, rowsOf_append, rowsOf_without differ, none_new, List.append_nil]
  | moved stored sameId samePeriod sameDate step status isIn journals lines balances =>
    have unposted := fun posted => JournalState.posted_refuses posted step
    constructor
    · rw [balancesIn, balancesIn, balances]
    · exact SameBooks.of_replace keyed stored sameId (Or.inl unposted) (Or.inl status) journals
    · intro journal posted
      rw [lines]
  | @posted _ old new request rows deltas stored sameId samePeriod sameDate step status isIn
      sorted made added =>
    have elsewhere := shut.elsewhere keyed step isIn status
    have elsewhere' : new.period ≠ id := by
      rw [samePeriod]
      exact elsewhere
    obtain ⟨balances, rfl, balances_kept⟩ := addDeltas_frame added
    constructor
    · exact balances_kept id elsewhere.symm
    · exact SameBooks.of_replace keyed stored sameId (Or.inr elsewhere) (Or.inr elsewhere') rfl
    · intro journal posted
      rfl

theorem Shut.sameBooks_after {attempt : Attempt} (shut : store.Shut id) (keyed : store.Keyed) :
    SameBooks id store (store.after attempt) := by
  rcases store.after_cases attempt with
    ⟨done, records, succeeded, reached⟩ | ⟨_, records, _, reached⟩
  · have same := shut.sameBooks keyed (command_writes succeeded)
    rw [reached]
    exact ⟨same.balances, same.posted, same.lines⟩
  · rw [reached]
    exact ⟨rfl, rfl, fun _ _ => rfl⟩

/-! ## Journals are withheld -/

theorem Withheld.of_same (keyed : before.Keyed) (journals : next.journals = before.journals) :
    Withheld id before next := by
  constructor
  · intro old stored
    rw [journals]
    exact ⟨old, stored, rfl⟩
  · intro new stored unknown
    rw [journals] at stored
    exact absurd rfl (unknown new stored)
  · intro old stored new stored' sameId _
    rw [journals] at stored'
    rw [List.inj_on_of_nodup_map keyed.journals stored' stored sameId]
    exact Or.inl rfl

theorem Withheld.of_replace {old new : Journal} (keyed : before.Keyed)
    (stored : old ∈ before.journals) (sameId : new.id = old.id)
    (change : old.period = id ∨ new.period = id →
      new.state.status = old.state.status ∨ old.state.status.Settles new.state.status)
    (journals : next.journals = Rows.replace (·.id) new before.journals) :
    Withheld id before next := by
  have present_iff := Rows.mem_replace_iff (·.id) new stored sameId
  rw [← journals] at present_iff
  constructor
  · intro other stored'
    by_cases same : other.id = new.id
    · exact ⟨new, (present_iff new).mpr (Or.inl rfl), same.symm⟩
    · exact ⟨other, (present_iff other).mpr (Or.inr ⟨stored', same⟩), rfl⟩
  · intro other stored' unknown
    rcases (present_iff other).mp stored' with rfl | ⟨known, _⟩
    · exact absurd sameId.symm (unknown old stored)
    · exact absurd rfl (unknown other known)
  · intro other stored' other' stored'' same within
    rcases (present_iff other').mp stored'' with rfl | ⟨known, _⟩
    · obtain rfl := List.inj_on_of_nodup_map keyed.journals stored stored' (sameId.symm.trans same)
      exact change within
    · rw [List.inj_on_of_nodup_map keyed.journals known stored' same]
      exact Or.inl rfl

theorem Withheld.of_new {draft : Journal} (keyed : before.Keyed)
    (fresh : ∀ other ∈ before.journals, other.id ≠ draft.id)
    (status : draft.state.status = .draft) (journals : next.journals = before.journals ++ [draft]) :
    Withheld id before next := by
  have present_iff : ∀ journal, journal ∈ next.journals ↔
      journal ∈ before.journals ∨ journal = draft := by
    intro journal
    rw [journals, List.mem_append, List.mem_singleton]
  constructor
  · intro old stored
    exact ⟨old, (present_iff old).mpr (Or.inl stored), rfl⟩
  · intro new stored unknown
    rcases (present_iff new).mp stored with known | rfl
    · exact absurd rfl (unknown new known)
    · exact status
  · intro old stored new stored' sameId _
    rcases (present_iff new).mp stored' with known | rfl
    · rw [List.inj_on_of_nodup_map keyed.journals known stored sameId]
      exact Or.inl rfl
    · exact absurd sameId.symm (fresh old stored)

theorem Shut.withheld (shut : before.Shut id) (keyed : before.Keyed)
    (written : before.Writes next) : Withheld id before next := by
  cases written with
  | unchanged journals lines balances => exact .of_same keyed journals
  | drafted fresh status dated owned booked journals lines balances =>
    exact .of_new keyed fresh status journals
  | edited stored sameId status status' dated owned booked journals lines balances =>
    refine .of_replace keyed stored sameId ?_ journals
    intro _
    exact Or.inl (status'.trans status.symm)
  | @moved old new request stored sameId samePeriod sameDate step status isIn journals lines
      balances =>
    refine .of_replace keyed stored sameId ?_ journals
    intro within
    rw [samePeriod, or_self] at within
    exact step.settles (shut.no_period keyed step isIn within)
  | posted stored sameId samePeriod sameDate step status isIn sorted made added =>
    have elsewhere := shut.elsewhere keyed step isIn status
    obtain ⟨balances, rfl, _⟩ := addDeltas_frame added
    refine .of_replace keyed stored sameId ?_ rfl
    intro within
    rw [samePeriod, or_self] at within
    exact absurd within elsewhere

theorem Shut.withheld_after {attempt : Attempt} (shut : store.Shut id) (keyed : store.Keyed) :
    Withheld id store (store.after attempt) := by
  rcases store.after_cases attempt with
    ⟨done, records, succeeded, reached⟩ | ⟨_, records, _, reached⟩
  · have withheld := shut.withheld keyed (command_writes succeeded)
    rw [reached]
    exact ⟨withheld.kept, withheld.drafted, withheld.changes⟩
  · rw [reached]
    exact .of_same keyed rfl

/-! ## Runs -/

theorem Keyed.run (keyed : store.Keyed) (attempts : List Attempt) : (store.run attempts).Keyed :=
  run_preserves Keyed (fun _ attempt keyed => keyed.after attempt) store attempts keyed

/-- From any store that was reached, while a period that is closed or locked is not reopened,
its balances, the journals that are posted in it and their lines stay the same, and at every
attempt its journals only go from submitted to approved or back to draft. -/
theorem run_while_shut (origin : Store) (distinct : origin.Keyed) (earlier later : List Attempt)
    (id : PeriodId) (shut : (origin.run earlier).Shut id)
    (unopened : (origin.run earlier).Throughout
      (fun store attempt => ¬ store.Reopens id attempt) later) :
    SameBooks id (origin.run earlier) ((origin.run earlier).run later) ∧
      (origin.run earlier).Throughout
        (fun store attempt => Withheld id store (store.after attempt)) later := by
  have keyed : (origin.run earlier).Keyed := distinct.run earlier
  -- Of the store that was reached it is only needed that its keys are distinct.
  generalize origin.run earlier = store at keyed shut unopened ⊢
  induction later generalizing store with
  | nil => exact ⟨.refl id store, trivial⟩
  | cons attempt rest ih =>
    obtain ⟨first, others⟩ := unopened
    have shut' := shut.after first
    have keyed' := keyed.after attempt
    obtain ⟨same, withheld⟩ := ih (store.after attempt) keyed' shut' others
    exact ⟨(shut.sameBooks_after keyed).trans same, shut.withheld_after keyed, withheld⟩

theorem throughout_of_forall {holds : Store → Attempt → Prop} {attempts : List Attempt}
    (always : ∀ attempt ∈ attempts, ∀ store, holds store attempt) (store : Store) :
    store.Throughout holds attempts := by
  induction attempts generalizing store with
  | nil => trivial
  | cons attempt rest ih =>
    obtain ⟨first, others⟩ := List.forall_mem_cons.mp always
    exact ⟨first store, ih others (store.after attempt)⟩

/-- The books of a tenant whose users may also close periods, with a journal that is posted, one
that is approved and one that is submitted. -/
def yearEnd : Store :=
  let amount : Decimal := JournalState.sample.totals.debit
  let user (id : Nat) : Option UserId := some (Id.ofNat id)
  let journal (id : Nat) (status : JournalStatus) (submitter approver : Option UserId) : Journal :=
    ⟨Id.ofNat id, Id.ofNat 1, Id.ofNat 1, JournalState.samplePeriod.start, none,
      ⟨status, Id.ofNat 1, submitter, approver, amount, amount⟩, none, none, none, none,
      ⟨1728000000⟩, ⟨1728000000⟩⟩
  let lines (journal : Nat) : List StoredLine :=
    [⟨Id.ofNat (journal + 1), Id.ofNat 1, Id.ofNat journal, 1,
        ⟨Id.ofNat 1, amount, .zero, none, .none⟩⟩,
      ⟨Id.ofNat (journal + 2), Id.ofNat 1, Id.ofNat journal, 2,
        ⟨Id.ofNat 2, .zero, amount, none, .none⟩⟩]
  { newBooks with
    rolePermissions := newBooks.rolePermissions ++
      [⟨Id.ofNat 1, Id.ofNat 1, Permission.code .periodClose⟩]
    journals := [journal 10 .posted (user 1) (user 2), journal 20 .approved (user 1) (user 2),
      journal 30 .submitted (user 1) none]
    journalLines := lines 10 ++ lines 20 ++ lines 30
    balances := [⟨Id.ofNat 1, Id.ofNat 1, Id.ofNat 1, amount, .zero⟩,
      ⟨Id.ofNat 1, Id.ofNat 1, Id.ofNat 2, .zero, amount⟩] }

def askYearEnd (user : Nat) (command : Command) : Attempt :=
  ⟨⟨Id.ofNat 1, Id.ofNat user, ⟨1728000000⟩, 100, .default, .none⟩, command⟩

def yearEndClosing : List Attempt := [askYearEnd 1 (.closePeriod (Id.ofNat 1))]

/-- The approved journal is sent back and the submitted one is approved. -/
def yearEndLater : List Attempt :=
  [askYearEnd 2 (.rejectJournal (Id.ofNat 20) "late"),
    askYearEnd 2 (.approveJournal (Id.ofNat 30))]

theorem yearEnd_shut :
    (yearEnd.run yearEndClosing).Shut (Id.ofNat 1) ∧
      (((yearEnd.run yearEndClosing).run yearEndLater).journals.map (·.state.status) =
        [.posted, .draft, .approved]) ∧
      SameBooks (Id.ofNat 1) (yearEnd.run yearEndClosing)
        ((yearEnd.run yearEndClosing).run yearEndLater) := by
  have distinct : yearEnd.Keyed := ⟨by decide, by decide⟩
  have shut : (yearEnd.run yearEndClosing).Shut (Id.ofNat 1) := by
    have status : (yearEnd.run yearEndClosing).periods.map
        (fun row => (row.period.id, row.period.status)) = [(Id.ofNat 1, .closed)] := by cbv
    have present : (Id.ofNat 1, PeriodStatus.closed) ∈ (yearEnd.run yearEndClosing).periods.map
        (fun row => (row.period.id, row.period.status)) := by
      rw [status]
      exact List.mem_singleton_self _
    obtain ⟨row, stored, same⟩ := List.mem_map.mp present
    obtain ⟨sameId, closed⟩ := Prod.mk.inj same
    exact ⟨row, stored, sameId, Or.inl closed⟩
  refine ⟨shut, by cbv, ?_⟩
  refine (run_while_shut yearEnd distinct yearEndClosing yearEndLater _ shut ?_).1
  refine throughout_of_forall ?_ _
  intro attempt present store reopens
  simp only [yearEndLater, askYearEnd, List.mem_cons, List.not_mem_nil, or_false] at present
  rcases present with rfl | rfl <;> cases reopens.1

end Store

end Countinghouse
