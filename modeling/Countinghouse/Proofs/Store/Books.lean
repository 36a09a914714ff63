import Countinghouse.Proofs.Store.Operations
import Countinghouse.Proofs.Store.Written

/-! # What is written to the books

The books are the journals, their lines and the balances.  Every command leaves them
alone or writes them in one of four ways: it drafts a journal, changes a draft, takes a
step in the life of a journal, or posts one. -/

set_option autoImplicit false

namespace Countinghouse

namespace Store

variable {before after : Store} {ctx : Context}

/-- What an operation that succeeds does to the books. -/
inductive Writes (before : Store) : Store → Prop where
  | unchanged {after : Store} (journals : after.journals = before.journals)
      (lines : after.journalLines = before.journalLines)
      (balances : after.balances = before.balances) : Writes before after
  | drafted {after : Store} {journal : Journal} {rows : List StoredLine}
      (fresh : ∀ other ∈ before.journals, other.id ≠ journal.id)
      (status : journal.state.status = .draft)
      (dated : before.Dated journal.tenant journal.period journal.date)
      (owned : ∀ row ∈ rows, row.journal = journal.id)
      (booked : Entry.Booked (rows.map (·.line.entry)))
      (journals : after.journals = before.journals ++ [journal])
      (lines : after.journalLines = before.journalLines ++ rows)
      (balances : after.balances = before.balances) : Writes before after
  | edited {after : Store} {old new : Journal} {rows : List StoredLine}
      (stored : old ∈ before.journals) (sameId : new.id = old.id)
      (status : old.state.status = .draft) (status' : new.state.status = .draft)
      (dated : before.Dated new.tenant new.period new.date)
      (owned : ∀ row ∈ rows, row.journal = old.id)
      (booked : Entry.Booked (rows.map (·.line.entry)))
      (journals : after.journals = Rows.replace (·.id) new before.journals)
      (lines : after.journalLines =
        (before.journalLines.filter fun row => row.journal ≠ old.id) ++ rows)
      (balances : after.balances = before.balances) : Writes before after
  | moved {after : Store} {old new : Journal} {request : JournalRequest}
      (stored : old ∈ before.journals) (sameId : new.id = old.id)
      (samePeriod : new.period = old.period) (sameDate : new.date = old.date)
      (step : old.state.Step request new.state) (status : new.state.status ≠ .posted)
      (isIn : ∀ period, request.period? = some period →
        period.id = old.period ∧ ∃ row ∈ before.periods, row.period = period)
      (journals : after.journals = Rows.replace (·.id) new before.journals)
      (lines : after.journalLines = before.journalLines)
      (balances : after.balances = before.balances)
      (sameTenant : new.tenant = old.tenant) : Writes before after
  | posted {after : Store} {ctx : Context} {old new : Journal} {request : JournalRequest}
      {rows : List StoredLine} {deltas : List Delta}
      (stored : old ∈ before.journals) (sameId : new.id = old.id)
      (samePeriod : new.period = old.period) (sameDate : new.date = old.date)
      (step : old.state.Step request new.state) (status : new.state.status = .posted)
      (isIn : ∀ period, request.period? = some period →
        period.id = old.period ∧ ∃ row ∈ before.periods, row.period = period)
      (sorted : rows.Perm (rowsOf old.id before.journalLines))
      (made : Delta.ofLines (rows.map (·.line)) = .ok deltas)
      (added : addDeltas ctx old.period
        { before with journals := Rows.replace (·.id) new before.journals } deltas = .ok after)
      (sameTenant : new.tenant = old.tenant) : Writes before after

theorem Drafted.writes {draft : NewJournal} {view : JournalView}
    (drafted : before.Drafted ctx draft view)
    (journals : after.journals = before.journals ++ [view.journal])
    (lines : after.journalLines = before.journalLines ++ view.lines)
    (balances : after.balances = before.balances) : before.Writes after := by
  obtain ⟨chart, _, validated⟩ := drafted.validated
  obtain ⟨totals, kept, isDraft⟩ := drafted.journal
  have isNew := drafted.isNew
  have booked := booked_of_stored validated kept drafted.rows
  have owned := lineRows_journal drafted.rows
  rw [← isNew] at owned
  refine .drafted (isNew ▸ drafted.fresh) ?_ ?_ owned booked journals lines balances
  · rw [isDraft]
    rfl
  · rw [isDraft]
    exact drafted.dated

theorem Edited.writes {id : JournalId} {input : JournalInput} {old : Journal} {period : PeriodId}
    {totals : Totals} {rows : List StoredLine}
    (edited : before.Edited ctx id input old period totals rows) :
    before.Writes (before.withEdited (old.edited input period totals ctx.now) rows) := by
  obtain ⟨sums, ⟨chart, _, validated⟩, kept⟩ := edited.validated
  let new := old.edited input period totals ctx.now
  have sameId : new.id = old.id := rfl
  have status : new.state.status = .draft := edited.status
  have dated : before.Dated new.tenant new.period new.date := edited.ofTenant.symm ▸ edited.dated
  have owned := lineRows_journal edited.rows
  rw [← edited.sameId] at owned
  exact .edited edited.stored sameId edited.status status dated owned
    (booked_of_stored validated kept edited.rows) rfl rfl rfl

theorem Acted.writes {id : JournalId} {request : JournalRequest} {old : Journal}
    {action : JournalAction} (acted : before.Acted ctx id request old action)
    (status : (old.state.after action).status ≠ .posted) :
    before.Writes (before.withJournal (old.after action ctx.now)) := by
  obtain ⟨state, sameId, samePeriod, sameDate, sameTenant⟩ := journal_after old action ctx.now
  have step := JournalState.answer_ok_iff.mp acted.accepted
  rw [← state] at step status
  exact .moved acted.stored sameId samePeriod sameDate step status acted.within rfl rfl rfl
    sameTenant

theorem Posted.writes {id : JournalId} {old : Journal} {rows : List StoredLine}
    {deltas : List Delta} (posted : before.Posted ctx id old rows deltas after) :
    before.Writes after := by
  obtain ⟨request, acted⟩ := posted.acted
  obtain ⟨state, sameId, samePeriod, sameDate, sameTenant⟩ :=
    journal_after old (.post ctx.user) ctx.now
  have step := JournalState.answer_ok_iff.mp acted.accepted
  rw [← state] at step
  have sorted := posted.sorted
  rw [← acted.sameId] at sorted
  exact .posted acted.stored sameId samePeriod sameDate step (by rw [state]; rfl) acted.within
    sorted posted.made posted.added sameTenant

theorem Did.writes {command : Command} {created : Option EntityId}
    (did : before.Did ctx command after created) : before.Writes after := by
  cases did with
  | created drafted | reversed _ drafted | generated _ drafted | adjusted drafted =>
    exact drafted.writes rfl rfl rfl
  | edited edited => exact edited.writes
  | submitted acted | approved acted | rejected acted =>
    exact acted.writes (by simp [JournalState.after])
  | posted posted => exact posted.writes
  | _ => exact .unchanged rfl rfl rfl

theorem command_writes {command : Command} {done : Done}
    (succeeded : (command.run ctx before).result = .ok done) : before.Writes done.store :=
  (command_did succeeded).2.writes

end Store

end Countinghouse
