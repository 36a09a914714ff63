import Countinghouse.Proofs.Journal.Deltas
import Countinghouse.Proofs.Store.Once
import Countinghouse.Proofs.Store.Written

/-! # What a journal holds

The lines of a journal are those it was drafted with or last changed to.  Changing a draft takes
away all rows it had before it writes new ones, and no other command writes lines for a journal
that exists; so after any run a journal is shown with the lines of its last accepted change. -/

set_option autoImplicit false

namespace Countinghouse

/-- The journal is shown with these lines, and with their sums as totals. -/
structure JournalView.Carries (view : JournalView) (lines : List Line) : Prop where
  numbered : view.lines.map (·.number) = List.range' 1 lines.length
  same : List.Forall₂ Line.Same (view.lines.map (·.line)) lines
  debit : view.journal.state.totals.debit.grains = Line.debits lines
  credit : view.journal.state.totals.credit.grains = Line.credits lines

def Command.lines? (ctx : Context) (id : JournalId) : Command → Option (List Line)
  | createJournal input => if ctx.newId 1 = id then some input.lines else none
  | updateJournal other input => if other = id then some input.lines else none
  | _ => none

def Attempt.lines? (id : JournalId) (attempt : Attempt) : Option (TenantId × List Line) :=
  (attempt.command.lines? attempt.ctx id).map (attempt.ctx.tenant, ·)

namespace Store

/-- The journal belongs to the tenant and has these lines. -/
structure Holds (store : Store) (tenant : TenantId) (id : JournalId) (lines : List Line) :
    Prop where
  known : ∃ journal ∈ store.journals, journal.id = id
  carries : ∀ journal ∈ store.journals, journal.id = id → journal.tenant = tenant ∧
    JournalView.Carries ⟨journal, rowsOf id store.journalLines⟩ lines

/-- Journals are told apart, and every line belongs to one. -/
structure Linked (store : Store) : Prop where
  ids : (store.journals.map (·.id)).Nodup
  owned : ∀ row ∈ store.journalLines, ∃ journal ∈ store.journals, journal.id = row.journal

/-- The journal keeps its tenant, its totals and its rows. -/
structure Untouched (id : JournalId) (before after : Store) : Prop where
  known : (∃ journal ∈ before.journals, journal.id = id) →
    ∃ journal ∈ after.journals, journal.id = id
  journals : ∀ journal ∈ after.journals, journal.id = id →
    ∃ old ∈ before.journals, old.id = id ∧ journal.tenant = old.tenant ∧
      journal.state.totals = old.state.totals
  rows : rowsOf id after.journalLines = rowsOf id before.journalLines

variable {store after : Store} {ctx : Context} {id : JournalId} {tenant : TenantId}
  {lines : List Line}

theorem Holds.untouched (holds : store.Holds tenant id lines) (same : Untouched id store after) :
    after.Holds tenant id lines := by
  refine ⟨same.known holds.known, fun journal present isIt => ?_⟩
  obtain ⟨old, stored, wasIt, sameTenant, sameTotals⟩ := same.journals journal present isIt
  obtain ⟨ofTenant, numbered, sameLines, debit, credit⟩ := holds.carries old stored wasIt
  rw [same.rows, sameTenant]
  refine ⟨ofTenant, numbered, sameLines, ?_, ?_⟩
  · rwa [sameTotals]
  · rwa [sameTotals]

theorem Holds.congr {other : Store} (holds : store.Holds tenant id lines)
    (journals : other.journals = store.journals)
    (rows : other.journalLines = store.journalLines) : other.Holds tenant id lines := by
  constructor
  · rw [journals]
    exact holds.known
  · rw [journals, rows]
    exact holds.carries

/-! ## Writing lines -/

theorem journal_found (reachable : ¬ ctx.outage.Covers .journals)
    (stored : ∃ journal ∈ store.journals, journal.id = id ∧ journal.tenant = ctx.tenant) :
    ∃ journal, store.journal ctx id = .ok journal := by
  obtain ⟨old, present, isIt, ofTenant⟩ := stored
  obtain ⟨journal, found⟩ := Rows.find?_exists
    (fun row => row.id = id && row.tenant = ctx.tenant) present (by simp [isIt, ofTenant])
  simp only [Store.journal, liftM, monadLift, MonadLift.monadLift, bind_ok_iff, mapError_ok_iff,
    Context.use_ok_iff, found]
  exact ⟨journal, (), reachable, rfl⟩

theorem Holds.get (holds : store.Holds ctx.tenant id lines)
    (journals : ¬ ctx.outage.Covers .journals) (rows : ¬ ctx.outage.Covers .journalLines) :
    ∃ view, store.getJournal ctx id = .ok view ∧ view.Carries lines := by
  have stored : ∃ journal ∈ store.journals, journal.id = id ∧ journal.tenant = ctx.tenant := by
    obtain ⟨journal, present, isIt⟩ := holds.known
    exact ⟨journal, present, isIt, (holds.carries journal present isIt).1⟩
  obtain ⟨journal, found⟩ := journal_found journals stored
  obtain ⟨present, isIt, _⟩ := journal_ok found
  have carries := (holds.carries journal present isIt).2
  refine ⟨⟨journal, rowsOf id store.journalLines⟩, ?_, carries⟩
  simp only [getJournal, liftM, monadLift, MonadLift.monadLift, bind_ok_iff, mapError_ok_iff,
    pure_ok_iff]
  exact ⟨journal, found, _, linesOf_numbered rows carries.numbered, rfl⟩

theorem carries_of_stored {books : Store} {chart : Chart} {totals stored : Totals}
    {journal : Journal} {rows : List StoredLine} (validated : chart.validate lines = .ok totals)
    (kept : columns totals = .ok stored) (made : books.lineRows ctx id lines = .ok rows)
    (sums : journal.state.totals = stored) : JournalView.Carries ⟨journal, rows⟩ lines := by
  obtain ⟨amounts, debit, credit, _⟩ := Chart.validate_ok validated
  rw [Line.total_entries] at debit credit
  obtain ⟨debited, credited⟩ := columns_ok kept
  have same : List.Forall₂ Line.Same (rows.map (·.line)) lines := by
    refine (Line.same_iff_of_kept (lineRows_kept made)).mpr fun line present => ?_
    have ⟨debit, credit⟩ := amounts line present
    exact ⟨Decimal.fitsScale_iff.mpr debit.2, Decimal.fitsScale_iff.mpr credit.2⟩
  subst sums
  refine ⟨lineRows_numbers made, same, ?_, ?_⟩
  · rw [Decimal.toColumn?_grains debit.amount_grains.2 debited, (debit.exact debited).1]
  · rw [Decimal.toColumn?_grains credit.amount_grains.2 credited, (credit.exact credited).1]

theorem Drafted.holds {draft : NewJournal} {view : JournalView} (linked : store.Linked)
    (drafted : store.Drafted ctx draft view) :
    (store.withDraft view).Holds ctx.tenant (ctx.newId 1) draft.lines ∧
      view.Carries draft.lines := by
  obtain ⟨chart, _, validated⟩ := drafted.validated
  obtain ⟨totals, kept, isDraft⟩ := drafted.journal
  have ofTenant : view.journal.tenant = ctx.tenant := congrArg Journal.tenant isDraft
  have carries : view.Carries draft.lines :=
    carries_of_stored validated kept drafted.rows (by rw [isDraft]; rfl)
  -- No row can have been waiting for the new journal.
  have foreign : rowsOf (ctx.newId 1) store.journalLines = [] := by
    refine rowsOf_foreign fun row present isIts => ?_
    obtain ⟨other, stored, isOf⟩ := linked.owned row present
    exact drafted.fresh other stored (isOf.trans isIts)
  have own : rowsOf (ctx.newId 1) (store.withDraft view).journalLines = view.lines := by
    rw [withDraft, rowsOf_append, foreign, rowsOf_own (lineRows_journal drafted.rows),
      List.nil_append]
  refine ⟨⟨⟨view.journal, ?_, drafted.isNew⟩, fun journal present isIt => ?_⟩, carries⟩
  · exact List.mem_append_right _ List.mem_cons_self
  · rcases List.mem_append.mp present with before | new
    · exact absurd isIt (drafted.fresh journal before)
    · obtain rfl := List.mem_singleton.mp new
      rw [own]
      exact ⟨ofTenant, carries⟩

theorem Drafted.untouched {draft : NewJournal} {view : JournalView}
    (drafted : store.Drafted ctx draft view) (known : ∃ journal ∈ store.journals, journal.id = id) :
    Untouched id store (store.withDraft view) := by
  obtain ⟨old, stored, wasIt⟩ := known
  have differ : (ctx.newId 1 : JournalId) ≠ id := wasIt ▸ (drafted.fresh old stored).symm
  constructor
  · exact fun _ => ⟨old, List.mem_append_left _ stored, wasIt⟩
  · intro journal present isIt
    rcases List.mem_append.mp present with before | new
    · exact ⟨journal, before, isIt, rfl, rfl⟩
    · obtain rfl := List.mem_singleton.mp new
      exact absurd (drafted.isNew.symm.trans isIt) differ
  · have foreign : rowsOf id view.lines = [] :=
      rowsOf_foreign fun row new => (lineRows_journal drafted.rows row new).trans_ne differ
    rw [withDraft, rowsOf_append, foreign, List.append_nil]

theorem holds_of_replaced {old new : Journal} (stored : old ∈ store.journals)
    (sameId : new.id = old.id)
    (journals : after.journals = Rows.replace (·.id) new store.journals)
    (ofTenant : new.tenant = tenant)
    (carries : JournalView.Carries ⟨new, rowsOf old.id after.journalLines⟩ lines) :
    after.Holds tenant old.id lines := by
  have present_iff := Rows.mem_replace_iff (·.id) new stored sameId
  rw [← journals] at present_iff
  refine ⟨⟨new, (present_iff new).mpr (Or.inl rfl), sameId⟩, fun journal present isIt => ?_⟩
  rcases (present_iff journal).mp present with rfl | ⟨_, differ⟩
  · exact ⟨ofTenant, carries⟩
  · exact absurd (isIt.trans sameId.symm) differ

theorem Edited.holds {input : JournalInput} {old : Journal} {period : PeriodId} {totals : Totals}
    {rows : List StoredLine} (edited : store.Edited ctx id input old period totals rows) :
    (store.withEdited (old.edited input period totals ctx.now) rows).Holds ctx.tenant id
      input.lines := by
  obtain ⟨sums, ⟨chart, _, validated⟩, kept⟩ := edited.validated
  let new := old.edited input period totals ctx.now
  have sameId : new.id = old.id := rfl
  have ofTenant : new.tenant = ctx.tenant := edited.ofTenant
  have carries : JournalView.Carries ⟨new, rows⟩ input.lines :=
    carries_of_stored validated kept edited.rows rfl
  have owned := lineRows_journal edited.rows
  rw [← edited.sameId] at owned ⊢
  have none_old : rowsOf old.id
      (store.journalLines.filter fun row => row.journal ≠ old.id) = [] :=
    rowsOf_foreign fun row present => by simpa using (List.mem_filter.mp present).2
  have own : rowsOf old.id (store.withEdited new rows).journalLines = rows := by
    rw [withEdited, sameId, rowsOf_append, none_old, rowsOf_own owned, List.nil_append]
  refine holds_of_replaced edited.stored sameId rfl ofTenant ?_
  rw [own]
  exact carries

/-! ## Leaving lines alone -/

theorem untouched_of_same (journals : after.journals = store.journals)
    (lines : after.journalLines = store.journalLines) : Untouched id store after := by
  constructor
  · rw [journals]
    exact fun known => known
  · rw [journals]
    exact fun journal present isIt => ⟨journal, present, isIt, rfl, rfl⟩
  · rw [lines]

theorem untouched_of_replaced {old new : Journal} (stored : old ∈ store.journals)
    (sameId : new.id = old.id)
    (keeps : old.id = id → new.tenant = old.tenant ∧ new.state.totals = old.state.totals)
    (journals : after.journals = Rows.replace (·.id) new store.journals)
    (rows : rowsOf id after.journalLines = rowsOf id store.journalLines) :
    Untouched id store after := by
  have present_iff := Rows.mem_replace_iff (·.id) new stored sameId
  rw [← journals] at present_iff
  refine ⟨?_, ?_, rows⟩
  · rintro ⟨journal, before, isIt⟩
    by_cases same : journal.id = new.id
    · exact ⟨new, (present_iff new).mpr (Or.inl rfl), same.symm.trans isIt⟩
    · exact ⟨journal, (present_iff journal).mpr (Or.inr ⟨before, same⟩), isIt⟩
  · intro journal present isIt
    rcases (present_iff journal).mp present with rfl | ⟨before, _⟩
    · exact ⟨old, stored, sameId.symm.trans isIt, keeps (sameId.symm.trans isIt)⟩
    · exact ⟨journal, before, isIt, rfl, rfl⟩

theorem Edited.untouched {other : JournalId} {input : JournalInput} {old : Journal}
    {period : PeriodId} {totals : Totals} {rows : List StoredLine}
    (edited : store.Edited ctx other input old period totals rows) (differ : other ≠ id) :
    Untouched id store (store.withEdited (old.edited input period totals ctx.now) rows) := by
  let new := old.edited input period totals ctx.now
  have isOther : new.id = other := edited.sameId
  have none_new : rowsOf id rows = [] :=
    rowsOf_foreign fun row present => (lineRows_journal edited.rows row present).trans_ne differ
  have sameId : new.id = old.id := rfl
  refine untouched_of_replaced edited.stored sameId ?_ rfl ?_
  · exact fun same => absurd (edited.sameId.symm.trans same) differ
  · rw [withEdited, isOther, rowsOf_append, rowsOf_without differ.symm, none_new, List.append_nil]

theorem after_totals (journal : Journal) (action : JournalAction) (now : Instant) :
    (journal.after action now).state.totals = journal.state.totals := by
  cases action <;> rfl

theorem Acted.untouched {other : JournalId} {request : JournalRequest} {old : Journal}
    {action : JournalAction} (acted : store.Acted ctx other request old action)
    (journals : after.journals = Rows.replace (·.id) (old.after action ctx.now) store.journals)
    (lines : after.journalLines = store.journalLines) : Untouched id store after := by
  obtain ⟨_, sameId, _, _, sameTenant⟩ := journal_after old action ctx.now
  refine untouched_of_replaced acted.stored sameId ?_ journals (by rw [lines])
  exact fun _ => ⟨sameTenant, after_totals old action ctx.now⟩

/-! ## Commands -/

/-- A command that is accepted writes the lines that are listed for it. -/
theorem Did.holds {command : Command} {created : Option EntityId} (linked : store.Linked)
    (did : store.Did ctx command after created) (wrote : command.lines? ctx id = some lines) :
    after.Holds ctx.tenant id lines := by
  cases did with
  | created drafted =>
    rw [Command.lines?, Option.ite_none_right_eq_some] at wrote
    obtain ⟨rfl, wrote⟩ := wrote
    obtain rfl := Option.some.inj wrote
    exact (drafted.holds linked).1
  | edited edited =>
    rw [Command.lines?, Option.ite_none_right_eq_some] at wrote
    obtain ⟨rfl, wrote⟩ := wrote
    obtain rfl := Option.some.inj wrote
    exact edited.holds
  | _ => cases wrote

/-- A command that is accepted leaves the lines of all other journals as they are. -/
theorem Did.untouched {command : Command} {created : Option EntityId}
    (did : store.Did ctx command after created) (wrote : command.lines? ctx id = none)
    (known : ∃ journal ∈ store.journals, journal.id = id) : Untouched id store after := by
  cases did with
  | created drafted | reversed _ drafted | adjusted drafted => exact drafted.untouched known
  | generated generable drafted =>
    obtain ⟨known, journals, rows⟩ := drafted.untouched known
    exact ⟨known, journals, rows⟩
  | edited edited =>
    rw [Command.lines?, ite_eq_right_iff] at wrote
    exact edited.untouched fun same => nomatch wrote same
  | submitted acted | approved acted | rejected acted => exact acted.untouched rfl rfl
  | posted posted =>
    obtain ⟨request, acted⟩ := posted.acted
    obtain ⟨balances, rfl, _⟩ := posted.frame
    exact acted.untouched rfl rfl
  | _ => exact untouched_of_same rfl rfl

/-! ## Runs -/

theorem Linked.replaced {old new : Journal} (linked : store.Linked) (stored : old ∈ store.journals)
    (journals : after.journals = Rows.replace (·.id) new store.journals)
    (rows : ∀ row ∈ after.journalLines, row ∈ store.journalLines ∨ row.journal = old.id) :
    after.Linked := by
  have sameIds : after.journals.map (·.id) = store.journals.map (·.id) := by
    rw [journals, Rows.keys_replace]
  have ofOld : ∀ row ∈ after.journalLines, row.journal ∈ store.journals.map (·.id) := by
    intro row present
    rcases rows row present with before | ofOld
    · exact List.mem_map.mpr (linked.owned row before)
    · exact ofOld ▸ List.mem_map_of_mem stored
  constructor
  · rw [sameIds]
    exact linked.ids
  · intro row present
    have isOf := ofOld row present
    rwa [← sameIds, List.mem_map] at isOf

theorem Linked.writes (linked : store.Linked) (written : store.Writes after) : after.Linked := by
  cases written with
  | unchanged journals lines balances =>
    constructor
    · rw [journals]
      exact linked.ids
    · rw [journals, lines]
      exact linked.owned
  | @drafted journal rows fresh status dated owned booked journals lines balances =>
    constructor
    · rw [journals, List.map_append, List.map_singleton, List.nodup_append]
      refine ⟨linked.ids, List.nodup_singleton _, ?_⟩
      simpa using fresh
    · rw [journals, lines, List.forall_mem_append]
      constructor
      · intro row before
        obtain ⟨other, stored, isOf⟩ := linked.owned row before
        exact ⟨other, List.mem_append_left _ stored, isOf⟩
      · intro row new
        exact ⟨journal, List.mem_append_right _ List.mem_cons_self, (owned row new).symm⟩
  | edited stored sameId status status' dated owned booked journals lines balances =>
    refine linked.replaced stored journals fun row present => ?_
    rw [lines, List.mem_append] at present
    exact present.imp (fun before => (List.mem_filter.mp before).1) (owned row)
  | moved stored sameId samePeriod sameDate step status isIn journals lines balances =>
    exact linked.replaced stored journals fun row present => Or.inl (lines ▸ present)
  | posted stored sameId samePeriod sameDate step status isIn sorted made added =>
    obtain ⟨balances, rfl, _⟩ := addDeltas_frame added
    exact linked.replaced stored rfl fun row present => Or.inl present

theorem linked_after (linked : store.Linked) (attempt : Attempt) :
    (store.after attempt).Linked := by
  rcases store.after_cases attempt with
    ⟨done, records, succeeded, reached⟩ | ⟨_, records, _, reached⟩
  · have written := linked.writes (command_writes succeeded)
    rw [reached]
    exact ⟨written.ids, written.owned⟩
  · rw [reached]
    exact ⟨linked.ids, linked.owned⟩

/-- What the last accepted attempt that sets something has set. -/
def lastSet {α : Type} (part : Attempt → Option α) (store : Store) (attempts : List Attempt) :
    Option α :=
  ((store.accepted attempts).filterMap part).getLast?

/-- What an accepted attempt sets holds after it, and until another sets it anew; the trail has no
part in it. -/
structure SetBy {α : Type} (part : Attempt → Option α) (holds : Store → α → Prop) : Prop where
  sets : ∀ (store : Store) attempt done a, store.Linked → part attempt = some a →
    (attempt.command.run attempt.ctx store).result = .ok done → holds done.store a
  keeps : ∀ (store : Store) attempt done a, store.Linked → part attempt = none →
    (attempt.command.run attempt.ctx store).result = .ok done → holds store a → holds done.store a
  apart : ∀ (store : Store) a records, holds store a →
    holds { store with auditRecords := records } a

theorem SetBy.run {α : Type} {part : Attempt → Option α} {holds : Store → α → Prop}
    (setBy : SetBy part holds) (linked : store.Linked) (attempts : List Attempt) :
    (∀ a, store.lastSet part attempts = some a → holds (store.run attempts) a) ∧
      (store.lastSet part attempts = none → ∀ a, holds store a → holds (store.run attempts) a) := by
  -- Both parts go together: after the first attempt, what it set may or may not be set anew.
  induction attempts generalizing store with
  | nil => exact ⟨nofun, fun _ _ start => start⟩
  | cons attempt rest ih =>
    obtain ⟨last, kept⟩ := ih (linked_after linked attempt)
    rcases store.after_cases attempt with
      ⟨done, records, succeeded, reached⟩ | ⟨failure, records, failed, reached⟩
    · have still : ∀ a, holds done.store a → holds (store.after attempt) a := by
        rw [reached]
        exact fun a => setBy.apart done.store a records
      rw [lastSet, accepted_of_ok rest succeeded, List.filterMap_cons, Store.run]
      cases set_ : part attempt with
      | none =>
        exact ⟨last, fun none a start =>
          kept none a (still a (setBy.keeps store attempt done a linked set_ succeeded start))⟩
      | some first =>
        have now := still first (setBy.sets store attempt done first linked set_ succeeded)
        dsimp only
        rw [List.getLast?_cons]
        refine ⟨fun a isLast => ?_, fun ended => absurd ended (Option.some_ne_none _)⟩
        obtain rfl := Option.some.inj isLast
        cases later : ((store.after attempt).accepted rest |>.filterMap part).getLast? with
        | none => exact kept later first now
        | some b => exact last b later
    · have passed : store.lastSet part (attempt :: rest) =
          (store.after attempt).lastSet part rest := by
        simp only [lastSet, accepted, failed]
      rw [passed, Store.run]
      refine ⟨last, fun none a start => kept none a ?_⟩
      rw [reached]
      exact setBy.apart store a records start

end Store

end Countinghouse
