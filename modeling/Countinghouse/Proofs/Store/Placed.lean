import Countinghouse.Proofs.Store.Shut

/-! # Journals lie in their periods

A journal is stored under the period that was looked up for its date, and the two are only
written together.  A period keeps its tenant and its days from the time it is opened, and no
other period of the tenant ever shares a day with it.  So the date of a journal stays within its
period, and the end of any period divides the journals of the tenant by their periods. -/

set_option autoImplicit false

namespace Countinghouse

structure StoredPeriod.SameDays (row other : StoredPeriod) : Prop where
  tenant : row.tenant = other.tenant
  id : row.period.id = other.period.id
  start : row.period.start = other.period.start
  finish : row.period.finish = other.period.finish

theorem StoredPeriod.SameDays.refl (row : StoredPeriod) : row.SameDays row :=
  ⟨rfl, rfl, rfl, rfl⟩

namespace Store

variable {before next store : Store} {command : Command}

/-- The date lies in the period of the tenant that has the identifier. -/
def Within (store : Store) (tenant : TenantId) (id : PeriodId) (date : Date) : Prop :=
  ∃ row ∈ store.periods, row.tenant = tenant ∧ row.period.id = id ∧ row.period.Contains date

/-- Periods of a tenant have days, and none in common; journals lie in their periods. -/
structure Placed (store : Store) : Prop where
  proper : ∀ row ∈ store.periods, row.period.start ≤ row.period.finish
  apart : ∀ row ∈ store.periods, ∀ other ∈ store.periods, row.tenant = other.tenant →
    row.period.id ≠ other.period.id →
      ¬ row.period.Overlaps other.period.start other.period.finish
  within : ∀ journal ∈ store.journals, store.Within journal.tenant journal.period journal.date

/-! ## Periods keep their days -/

theorem PeriodWrites.kept (keyed : before.Keyed) (written : before.PeriodWrites command next) :
    ∀ row ∈ before.periods, ∃ row' ∈ next.periods, row'.SameDays row := by
  intro row present
  cases written with
  | unchanged periods =>
    rw [periods]
    exact ⟨row, present, .refl row⟩
  | created fresh periods =>
    rw [periods]
    exact ⟨row, List.mem_append_left _ present, .refl row⟩
  | @moved old new stored sameId reopened periods sameTenant sameStart sameFinish =>
    have present_iff := Rows.mem_replace_iff (·.period.id) new stored sameId
    rw [← periods] at present_iff
    by_cases same : row.period.id = new.period.id
    · obtain rfl := List.inj_on_of_nodup_map keyed.periods present stored (same.trans sameId)
      exact ⟨new, (present_iff new).mpr (Or.inl rfl), sameTenant, sameId, sameStart, sameFinish⟩
    · exact ⟨row, (present_iff row).mpr (Or.inr ⟨present, same⟩), .refl row⟩

theorem PeriodWrites.known (written : before.PeriodWrites command next) :
    (∀ row ∈ next.periods, ∃ old ∈ before.periods, row.SameDays old) ∨
      ∃ row, next.periods = before.periods ++ [row] ∧ row.period.start ≤ row.period.finish ∧
        ∀ other ∈ before.periods, other.tenant = row.tenant →
          ¬ other.period.Overlaps row.period.start row.period.finish := by
  cases written with
  | unchanged periods =>
    rw [periods]
    exact Or.inl fun row present => ⟨row, present, .refl row⟩
  | created fresh periods proper apart => exact Or.inr ⟨_, periods, proper, apart⟩
  | @moved old new stored sameId reopened periods sameTenant sameStart sameFinish =>
    refine Or.inl fun row present => ?_
    rw [periods] at present
    rcases (Rows.mem_replace_iff (·.period.id) new stored sameId row).mp present with
      rfl | ⟨kept, _⟩
    · exact ⟨old, stored, sameTenant, sameId, sameStart, sameFinish⟩
    · exact ⟨row, kept, .refl row⟩

theorem Within.kept {tenant : TenantId} {id : PeriodId} {date : Date} (keyed : before.Keyed)
    (written : before.PeriodWrites command next) (within : before.Within tenant id date) :
    next.Within tenant id date := by
  obtain ⟨row, present, rfl, rfl, contains⟩ := within
  obtain ⟨row', present', same⟩ := written.kept keyed row present
  refine ⟨row', present', same.tenant, same.id, ?_⟩
  rw [Period.Contains, same.start, same.finish]
  exact contains

namespace Placed

theorem overlaps_symm {p q : Period} (overlaps : p.Overlaps q.start q.finish) :
    q.Overlaps p.start p.finish := ⟨overlaps.2, overlaps.1⟩

theorem dated (placed : before.Placed) {tenant : TenantId} {id : PeriodId} {date : Date}
    (dated : before.Dated tenant id date) : before.Within tenant id date := by
  obtain ⟨row, present, inTenant, isIt, contains | rfl⟩ := dated
  · exact ⟨row, present, inTenant, isIt, contains⟩
  · exact ⟨row, present, inTenant, isIt, Int.le_refl _, placed.proper row present⟩

/-! ## Journals keep to their periods -/

theorem journals (placed : before.Placed) (books : before.Writes next) :
    ∀ journal ∈ next.journals, before.Within journal.tenant journal.period journal.date := by
  cases books with
  | unchanged journals lines balances =>
    rw [journals]
    exact placed.within
  | drafted fresh status dated owned booked journals lines balances =>
    rw [journals, List.forall_mem_append, List.forall_mem_singleton]
    exact ⟨placed.within, placed.dated dated⟩
  | @edited old new rows stored sameId status status' dated owned booked journals lines balances =>
    rw [journals]
    intro journal present
    rcases (Rows.mem_replace_iff (·.id) new stored sameId journal).mp present with rfl | ⟨kept, _⟩
    · exact placed.dated dated
    · exact placed.within journal kept
  | @moved old new request stored sameId samePeriod sameDate step status isIn journals lines
      balances sameTenant =>
    rw [journals]
    intro journal present
    rcases (Rows.mem_replace_iff (·.id) new stored sameId journal).mp present with rfl | ⟨kept, _⟩
    · rw [sameTenant, samePeriod, sameDate]
      exact placed.within old stored
    · exact placed.within journal kept
  | @posted _ old new request rows deltas stored sameId samePeriod sameDate step status isIn
      sorted made added sameTenant =>
    obtain ⟨balances, rfl, _⟩ := addDeltas_frame added
    intro journal present
    rcases (Rows.mem_replace_iff (·.id) new stored sameId journal).mp present with rfl | ⟨kept, _⟩
    · rw [sameTenant, samePeriod, sameDate]
      exact placed.within old stored
    · exact placed.within journal kept

theorem writes (placed : before.Placed) (keyed : before.Keyed) (books : before.Writes next)
    (written : before.PeriodWrites command next) : next.Placed := by
  have within : ∀ journal ∈ next.journals,
      next.Within journal.tenant journal.period journal.date := fun journal present =>
    (placed.journals books journal present).kept keyed written
  rcases written.known with same | ⟨added, periods, proper, apart⟩
  · refine ⟨?_, ?_, within⟩
    · intro row present
      obtain ⟨old, stored, sameDays⟩ := same row present
      rw [sameDays.start, sameDays.finish]
      exact placed.proper old stored
    · intro row present other present' sameTenant differ
      obtain ⟨old, stored, sameDays⟩ := same row present
      obtain ⟨old', stored', sameDays'⟩ := same other present'
      rw [sameDays.tenant, sameDays'.tenant] at sameTenant
      rw [sameDays.id, sameDays'.id] at differ
      rw [Period.Overlaps, sameDays.start, sameDays.finish, sameDays'.start, sameDays'.finish]
      exact placed.apart old stored old' stored' sameTenant differ
  · have mem_iff : ∀ row, row ∈ next.periods ↔ row ∈ before.periods ∨ row = added := by
      intro row
      rw [periods, List.mem_append, List.mem_singleton]
    refine ⟨?_, ?_, within⟩
    · intro row present
      rcases (mem_iff row).mp present with old | rfl
      · exact placed.proper row old
      · exact proper
    · intro row present other present' sameTenant differ
      rcases (mem_iff row).mp present with old | rfl <;>
        rcases (mem_iff other).mp present' with old' | rfl
      · exact placed.apart row old other old' sameTenant differ
      · exact apart row old sameTenant
      · exact fun overlaps => apart other old' sameTenant.symm (overlaps_symm overlaps)
      · exact absurd rfl differ

theorem after {attempt : Attempt} (placed : store.Placed) (keyed : store.Keyed) :
    (store.after attempt).Placed := by
  rcases store.after_cases attempt with
    ⟨done, records, succeeded, reached⟩ | ⟨_, records, _, reached⟩
  · have written := placed.writes keyed (command_writes succeeded) (command_periods succeeded)
    rw [reached]
    exact ⟨written.proper, written.apart, written.within⟩
  · rw [reached]
    exact ⟨placed.proper, placed.apart, placed.within⟩

theorem run (placed : store.Placed) (keyed : store.Keyed) (attempts : List Attempt) :
    (store.run attempts).Placed :=
  (run_preserves (fun store => store.Keyed ∧ store.Placed)
    (fun _ attempt holds => ⟨holds.1.after attempt, holds.2.after holds.1⟩) store attempts
    ⟨keyed, placed⟩).2

/-! ## The end of a period -/

/-- At the end of a period, the journals that are past are those whose periods have ended. -/
theorem past_iff (placed : store.Placed) (keyed : store.Keyed) {last row : StoredPeriod}
    (ends : last ∈ store.periods) (present : row ∈ store.periods)
    (sameTenant : row.tenant = last.tenant) {date : Date} (contains : row.period.Contains date) :
    date ≤ last.period.finish ↔ row.period.finish ≤ last.period.finish := by
  have proper := placed.proper last ends
  by_cases same : row.period.id = last.period.id
  · obtain rfl := List.inj_on_of_nodup_map keyed.periods present ends same
    exact iff_of_true contains.2 (Int.le_refl _)
  · have apart := placed.apart row present last ends sameTenant same
    simp only [Period.Overlaps, Period.Contains, Date.le_iff_day] at *
    omega

end Placed

theorem placed_of_empty (periods : store.periods = []) (journals : store.journals = []) :
    store.Placed := by
  constructor
  · simp [periods]
  · simp [periods]
  · simp [journals]

end Store

end Countinghouse
