import Countinghouse.Proofs.Period.Closing
import Countinghouse.Proofs.Store.Run

/-! # Closing a period in the store

Commands on a period read its row, its checklist and the permissions of the actor, and write
what was decided.  Read back, the period and its checklist are just what the request leads to, so
what holds of a period and its checklist under any requests holds of them in the store. -/

set_option autoImplicit false

namespace Countinghouse

inductive PeriodDemand where
  | close
  | lock
  | reopen
  | complete (code : String)

namespace PeriodDemand

def command (id : PeriodId) : PeriodDemand → Command
  | close => .closePeriod id
  | lock => .lockPeriod id
  | reopen => .reopenPeriod id
  | complete code => .completeItem id code

def request (ctx : Context) (held : PermissionSet) : PeriodDemand → PeriodRequest
  | close => .close ctx.user held ctx.now
  | lock => .lock ctx.user held ctx.now
  | reopen => .reopen ctx.user held ctx.now
  | complete code => .complete code ctx.user held ctx.now

end PeriodDemand

namespace Store

variable {store : Store} {ctx : Context} {id : PeriodId} {book : PeriodBook}
  {held : PermissionSet}

/-- A period of the tenant with its checklist. -/
def bookOf (store : Store) (tenant : TenantId) (id : PeriodId) : Option PeriodBook :=
  (store.periods.find? fun row => row.period.id = id && row.tenant = tenant).map fun row =>
    ⟨row, (store.checklistItems.filter fun item =>
      item.tenant = tenant && item.period = id).map (·.item)⟩

/-! ## Reading -/

theorem use_ok (reachable : ctx.outage = .none) (table : Table) : ctx.use table = .ok () := by
  simp [Context.use, reachable, Outage.Covers]

theorem permissions_ok (store : Store) (reachable : ctx.outage = .none) (user : UserId) :
    ∃ held, store.permissions ctx user = .ok held := by
  unfold permissions
  rw [use_ok reachable, use_ok reachable]
  dsimp only [bind, Except.bind]
  split
  · exact ⟨_, rfl⟩
  · exact ⟨_, rfl⟩

theorem bookOf_some {tenant : TenantId} (found : store.bookOf tenant id = some book) :
    (store.periods.find? fun row => row.period.id = id && row.tenant = tenant) = some book.row ∧
      book.checklist = (store.checklistItems.filter fun item =>
        item.tenant = tenant && item.period = id).map (·.item) := by
  obtain ⟨row, searched, rfl⟩ := Option.map_eq_some_iff.mp found
  exact ⟨searched, rfl⟩

theorem storedPeriod_eq (reachable : ctx.outage = .none)
    (found : store.bookOf ctx.tenant id = some book) :
    store.storedPeriod ctx id = .ok book.row := by
  unfold storedPeriod period?
  rw [use_ok reachable, (bookOf_some found).1]
  rfl

theorem checklist_eq (reachable : ctx.outage = .none)
    (found : store.bookOf ctx.tenant id = some book) :
    store.checklist ctx id = .ok book.checklist := by
  unfold checklist
  rw [use_ok reachable, (bookOf_some found).2]
  rfl

/-! ## Writing -/

theorem bookOf_saved {tenant : TenantId} (found : store.bookOf tenant id = some book)
    {row : StoredPeriod} (sameId : row.period.id = book.row.period.id)
    (sameTenant : row.tenant = book.row.tenant) :
    ({ store with periods := Rows.replace (·.period.id) row store.periods } : Store).bookOf
      tenant id = some { book with row } := by
  obtain ⟨searched, checklist⟩ := bookOf_some found
  have fits := List.find?_some searched
  simp only [Bool.and_eq_true, decide_eq_true_eq] at fits
  obtain ⟨rfl, rfl⟩ := fits
  have one_key : ∀ other : StoredPeriod,
      (other.period.id = book.row.period.id && other.tenant = book.row.tenant) = true →
        other.period.id = row.period.id := by
    intro other fits
    simp only [Bool.and_eq_true, decide_eq_true_eq] at fits
    exact fits.1.trans sameId.symm
  have searched' := Rows.find?_replace (·.period.id) row searched (by simp [sameId, sameTenant])
    one_key
  unfold bookOf
  rw [searched', checklist]
  rfl

theorem movePeriod_book (reachable : ctx.outage = .none)
    (found : store.bookOf ctx.tenant id = some book)
    (permissions : store.permissions ctx ctx.user = .ok held)
    (decide : PeriodStatus → PermissionSet → List ChecklistItem →
      Except PeriodError PeriodAction) :
    (store.movePeriod ctx id decide).map (fun done => done.1.bookOf ctx.tenant id) =
      (decide book.status held book.checklist).map fun action => some (book.after action) := by
  unfold movePeriod
  rw [storedPeriod_eq reachable found, checklist_eq reachable found, permissions]
  have decided : decide book.row.period.status held book.checklist =
      decide book.status held book.checklist := rfl
  dsimp only [liftM, monadLift, MonadLift.monadLift, Except.mapError, bind, Except.bind]
  rw [decided]
  cases decide book.status held book.checklist with
  | error refusal => rfl
  | ok action =>
    cases action with
    | unchanged status => exact congrArg Except.ok found
    | transition start target actor time =>
      have saved : store.savePeriod ctx (book.row.after (.transition start target actor time)) =
          .ok { store with
            periods := Rows.replace (·.period.id)
              (book.row.after (.transition start target actor time)) store.periods } := by
        unfold savePeriod
        rw [use_ok reachable]
        rfl
      obtain ⟨period, sameTenant⟩ := book.row.after_transition start target actor time
      have read := bookOf_saved found (by rw [period]) sameTenant
      dsimp only
      rw [saved]
      exact congrArg Except.ok read

theorem closePeriod_book (reachable : ctx.outage = .none)
    (required : ctx.ledger.requireChecklist = true)
    (found : store.bookOf ctx.tenant id = some book)
    (permissions : store.permissions ctx ctx.user = .ok held) :
    (store.closePeriod ctx id).map (fun done => done.1.bookOf ctx.tenant id) =
      (book.answer (.close ctx.user held ctx.now)).map some := by
  rw [closePeriod, movePeriod_book reachable found permissions, required, PeriodBook.answer]
  cases book.status.close ctx.user held book.checklist true ctx.now <;> rfl

theorem lockPeriod_book (reachable : ctx.outage = .none)
    (found : store.bookOf ctx.tenant id = some book)
    (permissions : store.permissions ctx ctx.user = .ok held) :
    (store.lockPeriod ctx id).map (fun done => done.1.bookOf ctx.tenant id) =
      (book.answer (.lock ctx.user held ctx.now)).map some := by
  rw [lockPeriod, movePeriod_book reachable found permissions, PeriodBook.answer]
  cases book.status.lock ctx.user held ctx.now <;> rfl

theorem reopenPeriod_book (reachable : ctx.outage = .none)
    (found : store.bookOf ctx.tenant id = some book)
    (permissions : store.permissions ctx ctx.user = .ok held) :
    (store.reopenPeriod ctx id).map (fun done => done.1.bookOf ctx.tenant id) =
      (book.answer (.reopen ctx.user held ctx.now)).map some := by
  rw [reopenPeriod, movePeriod_book reachable found permissions, PeriodBook.answer]
  cases book.status.reopen ctx.user held ctx.now <;> rfl

theorem find_item {tenant : TenantId} (found : store.bookOf tenant id = some book)
    (code : String) :
    book.checklist.find? (fun item => item.code = code) =
      (store.checklistItems.find? fun row =>
        row.tenant = tenant && row.period = id && row.item.code = code).map (·.item) := by
  rw [(bookOf_some found).2, List.find?_map, List.find?_filter]
  refine congrArg (Option.map _) (congrArg (List.find? · store.checklistItems) ?_)
  funext row
  simp

theorem bookOf_signed {tenant : TenantId} (found : store.bookOf tenant id = some book)
    (item : ChecklistItem) :
    ({ store with
      checklistItems := store.checklistItems.map fun old =>
        if (old.tenant = tenant && old.period = id && old.item.code = item.code : Bool)
          then { old with item } else old } : Store).bookOf tenant id =
        some { book with checklist := Rows.replace (·.code) item book.checklist } := by
  obtain ⟨searched, checklist⟩ := bookOf_some found
  unfold bookOf
  rw [searched, checklist, Rows.filter_map_kept]
  · rw [Rows.replace, List.map_map, List.map_map]
    refine congrArg (fun checklist => some (PeriodBook.mk book.row checklist)) ?_
    refine List.map_congr_left fun row present => ?_
    obtain ⟨inTenant, inPeriod⟩ : row.tenant = tenant ∧ row.period = id := by
      simpa using (List.mem_filter.mp present).2
    by_cases same : row.item.code = item.code <;> simp [same, inTenant, inPeriod]
  · intro row _
    split
    · rfl
    · rfl

theorem completeItem_book (reachable : ctx.outage = .none)
    (found : store.bookOf ctx.tenant id = some book)
    (permissions : store.permissions ctx ctx.user = .ok held) (code : String) :
    (store.completeItem ctx id code).map (fun done => done.1.bookOf ctx.tenant id) =
      (book.answer (.complete code ctx.user held ctx.now)).map some := by
  have item := find_item found code
  unfold completeItem
  rw [storedPeriod_eq reachable found, use_ok reachable, permissions, PeriodBook.answer, item]
  dsimp only [liftM, monadLift, MonadLift.monadLift, Except.mapError, bind, Except.bind]
  cases searched : store.checklistItems.find? fun row =>
      row.tenant = ctx.tenant && row.period = id && row.item.code = code with
  | none => rfl
  | some row =>
    dsimp only [Option.map]
    cases row.item.complete ctx.user held ctx.now with
    | error refusal => rfl
    | ok done =>
      cases done with
      | alreadyComplete => exact congrArg Except.ok found
      | completed actor time =>
        have isCode : (row.item.signedOff actor time).code = code := by
          have fits := List.find?_some searched
          simp only [Bool.and_eq_true, decide_eq_true_eq] at fits
          exact fits.2
        have read := bookOf_signed found (row.item.signedOff actor time)
        rw [isCode] at read
        exact congrArg Except.ok read

/-! ## Runs -/

theorem after_changed {α : Type} {body : α → Json} {r : Except PeriodError (Store × α)}
    {command : Command} {request : PeriodRequest}
    (runs : command.run ctx store = Command.changed body r)
    (found : store.bookOf ctx.tenant id = some book)
    (read : r.map (fun done => done.1.bookOf ctx.tenant id) = (book.answer request).map some) :
    (store.after ⟨ctx, command⟩).bookOf ctx.tenant id = some (book.next request) := by
  unfold PeriodBook.next
  rcases store.after_cases ⟨ctx, command⟩ with
    ⟨done, records, succeeded, reached⟩ | ⟨failure, records, failed, reached⟩
  · dsimp only at succeeded
    rw [runs] at succeeded
    obtain ⟨a, rfl, _⟩ := Command.changed_ok succeeded
    rw [reached]
    cases answered : book.answer request with
    | ok after =>
      rw [answered] at read
      exact Except.ok.inj read
    | error refusal =>
      rw [answered] at read
      cases read
  · dsimp only at failed
    rw [runs] at failed
    obtain ⟨refusal, rfl, _⟩ := mapError_error_iff.mp (map_error_iff.mp failed)
    rw [reached]
    cases answered : book.answer request with
    | ok after =>
      rw [answered] at read
      cases read
    | error refusal => exact found

theorem after_bookOf (reachable : ctx.outage = .none)
    (required : ctx.ledger.requireChecklist = true)
    (found : store.bookOf ctx.tenant id = some book)
    (permissions : store.permissions ctx ctx.user = .ok held) (demand : PeriodDemand) :
    (store.after ⟨ctx, demand.command id⟩).bookOf ctx.tenant id =
      some (book.next (demand.request ctx held)) := by
  cases demand with
  | close => exact after_changed rfl found (closePeriod_book reachable required found permissions)
  | lock => exact after_changed rfl found (lockPeriod_book reachable found permissions)
  | reopen => exact after_changed rfl found (reopenPeriod_book reachable found permissions)
  | complete code =>
    exact after_changed rfl found (completeItem_book reachable found permissions code)

/-- Demands on a period of the tenant are one sequence of requests to it. -/
theorem run_bookOf {tenant : TenantId} (demands : List (Context × PeriodDemand))
    (asked : ∀ demand ∈ demands, demand.1.tenant = tenant ∧ demand.1.outage = .none ∧
      demand.1.ledger.requireChecklist = true)
    (found : store.bookOf tenant id = some book) :
    ∃ requests,
      (store.run (demands.map fun demand => ⟨demand.1, demand.2.command id⟩)).bookOf tenant id =
        some (book.run requests) := by
  induction demands generalizing store book with
  | nil => exact ⟨[], found⟩
  | cons demand rest ih =>
    obtain ⟨⟨rfl, reachable, required⟩, others⟩ := List.forall_mem_cons.mp asked
    obtain ⟨held, permissions⟩ := store.permissions_ok reachable demand.1.user
    have after := after_bookOf reachable required found permissions demand.2
    obtain ⟨requests, reached⟩ := ih others after
    exact ⟨demand.2.request demand.1 held :: requests, reached⟩

/-- A period that was open is closed or locked in the store only with all its items complete. -/
theorem run_sealed {tenant : TenantId} (demands : List (Context × PeriodDemand))
    (asked : ∀ demand ∈ demands, demand.1.tenant = tenant ∧ demand.1.outage = .none ∧
      demand.1.ledger.requireChecklist = true)
    (found : store.bookOf tenant id = some book) (isOpen : book.status = .open)
    (codes : (book.checklist.map (·.code)).Nodup) :
    ∃ reached,
      (store.run (demands.map fun demand => ⟨demand.1, demand.2.command id⟩)).bookOf tenant id =
        some reached ∧ reached.Sealed := by
  obtain ⟨requests, reached⟩ := run_bookOf demands asked found
  have start : book.Sealed := ⟨codes, fun shut => absurd isOpen shut⟩
  exact ⟨book.run requests, reached, PeriodBook.sealed_run start requests⟩

end Store

end Countinghouse
