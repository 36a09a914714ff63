import Countinghouse.Proofs.Success
import Countinghouse.Service.Command

/-! # Runs of the store

Commands are attempted one after the other, by anyone and under any circumstances.  An
attempt leaves what its operation leaves, or what there was, besides a record of it. -/

set_option autoImplicit false

namespace Countinghouse

structure Attempt where
  ctx : Context
  command : Command

namespace Command

theorem asFailure_ok_iff {ε α : Type} [Refusal ε] {r : Except ε α} {a : α} :
    asFailure r = .ok a ↔ r = .ok a := mapError_ok_iff

theorem changed_ok {ε α : Type} [Refusal ε] {body : α → Json} {r : Except ε (Store × α)}
    {done : Done} (succeeded : (changed body r).result = .ok done) :
    ∃ a, r = .ok (done.store, a) ∧ done.created = none := by
  simp only [changed, map_ok_iff, asFailure_ok_iff] at succeeded
  obtain ⟨⟨store, a⟩, result, rfl⟩ := succeeded
  exact ⟨a, result, rfl⟩

theorem created_ok {ε α : Type} [Refusal ε] {body : α → Json} {id : α → EntityId}
    {r : Except ε (Store × α)} {done : Done}
    (succeeded : (created body id r).result = .ok done) :
    ∃ a, r = .ok (done.store, a) ∧ done.created = some (id a) := by
  simp only [created, map_ok_iff, asFailure_ok_iff] at succeeded
  obtain ⟨⟨store, a⟩, result, rfl⟩ := succeeded
  exact ⟨a, result, rfl⟩

theorem granted_ok {r : Except PolicyError (Store × GrantOutcome)} {done : Done}
    (succeeded : (granted r).result = .ok done) :
    ∃ outcome, r = .ok (done.store, outcome) ∧ done.created = none := by
  simp only [granted, map_ok_iff, asFailure_ok_iff] at succeeded
  obtain ⟨⟨store, outcome⟩, result, rfl⟩ := succeeded
  exact ⟨outcome, result, rfl⟩

end Command

namespace Store

def after (store : Store) (attempt : Attempt) : Store :=
  (attempt.command.perform attempt.ctx store).1

def run (store : Store) : List Attempt → Store
  | [] => store
  | attempt :: rest => (store.after attempt).run rest

theorem addRecord_eq (store : Store) (ctx : Context) (entry : AuditEntry) :
    ∃ records, store.addRecord ctx entry = { store with auditRecords := records } := by
  unfold addRecord
  split
  · exact ⟨_, rfl⟩
  · exact ⟨store.auditRecords, rfl⟩

theorem after_cases (store : Store) (attempt : Attempt) :
    (∃ done records, (attempt.command.run attempt.ctx store).result = .ok done ∧
        store.after attempt = { done.store with auditRecords := records }) ∨
      ∃ failure records, (attempt.command.run attempt.ctx store).result = .error failure ∧
        store.after attempt = { store with auditRecords := records } := by
  simp only [after, Command.perform]
  cases ended : (attempt.command.run attempt.ctx store).result with
  | ok done =>
    obtain ⟨records, recorded⟩ := done.store.addRecord_eq attempt.ctx
      (attempt.command.entry attempt.ctx (attempt.command.run attempt.ctx store))
    exact Or.inl ⟨done, records, rfl, recorded⟩
  | error failure =>
    obtain ⟨records, recorded⟩ := store.addRecord_eq attempt.ctx
      (attempt.command.entry attempt.ctx (attempt.command.run attempt.ctx store))
    exact Or.inr ⟨failure, records, rfl, recorded⟩

/-- What every attempt preserves holds after every run. -/
theorem run_preserves (holds : Store → Prop)
    (preserved : ∀ store attempt, holds store → holds (store.after attempt))
    (store : Store) (attempts : List Attempt) (start : holds store) :
    holds (store.run attempts) := by
  induction attempts generalizing store with
  | nil => exact start
  | cons attempt rest ih => exact ih (store.after attempt) (preserved store attempt start)

end Store

end Countinghouse
