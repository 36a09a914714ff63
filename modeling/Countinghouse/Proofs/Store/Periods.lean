import Countinghouse.Proofs.Store.Operations

/-! # What is written to the periods

A period is created open, and from then on only its status moves.  Nothing but a
reopening makes it open again. -/

set_option autoImplicit false

namespace Countinghouse

namespace Store

variable {before after : Store} {ctx : Context}

/-- What a command that succeeds does to the periods. -/
inductive PeriodWrites (before : Store) (command : Command) (after : Store) : Prop where
  | unchanged (periods : after.periods = before.periods)
  | created {row : StoredPeriod}
      (fresh : ∀ other ∈ before.periods, other.period.id ≠ row.period.id)
      (periods : after.periods = before.periods ++ [row])
      (proper : row.period.start ≤ row.period.finish)
      (apart : ∀ other ∈ before.periods, other.tenant = row.tenant →
        ¬ other.period.Overlaps row.period.start row.period.finish)
  | moved {old new : StoredPeriod} (stored : old ∈ before.periods)
      (sameId : new.period.id = old.period.id)
      (reopened : new.period.status = .open → command = .reopenPeriod old.period.id)
      (periods : after.periods = Rows.replace (·.period.id) new before.periods)
      (sameTenant : new.tenant = old.tenant) (sameStart : new.period.start = old.period.start)
      (sameFinish : new.period.finish = old.period.finish)

theorem Moved.writes {command : Command} {id : PeriodId} {target : PeriodStatus}
    {periods : List StoredPeriod} (moved : before.Moved ctx id target periods)
    (reopens : target = .open → command = .reopenPeriod id) :
    before.PeriodWrites command { before with periods } := by
  cases moved with
  | still stored sameId ofTenant status => exact .unchanged rfl
  | @moved row start actor time stored sameId ofTenant =>
    obtain ⟨changed, sameTenant⟩ := row.after_transition start target actor time
    refine .moved stored (by rw [changed]) ?_ rfl sameTenant (by rw [changed]) (by rw [changed])
    rw [changed, sameId]
    exact reopens

theorem Did.periodWrites {command : Command} {created : Option EntityId}
    (did : before.Did ctx command after created) : before.PeriodWrites command after := by
  cases did with
  | opened opened =>
    obtain ⟨ofTenant, isPeriod, fresh, proper, apart⟩ := opened
    refine .created ?_ rfl ?_ ?_ <;> rw [isPeriod]
    · exact fresh
    · exact proper
    · rw [ofTenant]
      exact apart
  | closed moved | locked moved => exact moved.writes nofun
  | reopened moved => exact moved.writes fun _ => rfl
  | posted posted =>
    obtain ⟨balances, rfl, _⟩ := posted.frame
    exact .unchanged rfl
  | _ => exact .unchanged rfl

theorem command_periods {command : Command} {done : Done}
    (succeeded : (command.run ctx before).result = .ok done) :
    before.PeriodWrites command done.store :=
  (command_did succeeded).2.periodWrites

end Store

end Countinghouse
