import Countinghouse.Proofs.Journal.Life
import Countinghouse.Proofs.Store.Rows
import Countinghouse.Proofs.Success
import Countinghouse.Store.Calendar

/-! # Closing a period

A period and its checklist under any sequence of requests.  The checklist is looked at only when
an open period is closed.  That a closed or locked period has it complete nevertheless holds for
good, because no request takes a sign-off back and the way out of the two leads through a
reopening. -/

set_option autoImplicit false

namespace Countinghouse

theorem StoredPeriod.after_transition (row : StoredPeriod) (start target : PeriodStatus)
    (actor : UserId) (time : Instant) :
    (row.after (.transition start target actor time)).period =
      { row.period with status := target } ∧
    (row.after (.transition start target actor time)).tenant = row.tenant := by
  cases target <;> exact ⟨rfl, rfl⟩

/-- A period with its checklist, as they are stored. -/
structure PeriodBook where
  row : StoredPeriod
  checklist : List ChecklistItem

inductive PeriodRequest where
  | close (actor : UserId) (held : PermissionSet) (now : Instant)
  | lock (actor : UserId) (held : PermissionSet) (now : Instant)
  | reopen (actor : UserId) (held : PermissionSet) (now : Instant)
  | complete (code : String) (actor : UserId) (held : PermissionSet) (now : Instant)

namespace PeriodBook

def status (book : PeriodBook) : PeriodStatus := book.row.period.status

def after (book : PeriodBook) (action : PeriodAction) : PeriodBook :=
  { book with row := book.row.after action }

def signed (book : PeriodBook) (item : ChecklistItem) : SignOff → PeriodBook
  | .completed actor time =>
      { book with
        checklist := Rows.replace (·.code) (item.signedOff actor time) book.checklist }
  | .alreadyComplete => book

/-- The book that a request leads to, or the refusal.  To close a period its checklist is
required. -/
def answer (book : PeriodBook) : PeriodRequest → Except PeriodError PeriodBook
  | .close actor held now =>
      (book.status.close actor held book.checklist true now).map book.after
  | .lock actor held now => (book.status.lock actor held now).map book.after
  | .reopen actor held now => (book.status.reopen actor held now).map book.after
  | .complete code actor held now =>
      match book.checklist.find? fun item => item.code = code with
      | none => .error (.unknownChecklistItem code)
      | some item => (item.complete actor held now).map (book.signed item)

def next (book : PeriodBook) (request : PeriodRequest) : PeriodBook :=
  match book.answer request with
  | .ok book => book
  | .error _ => book

def run (book : PeriodBook) : List PeriodRequest → PeriodBook
  | [] => book
  | request :: rest => (book.next request).run rest

/-- What an accepted request demands, and what it leaves behind. -/
inductive Step (book : PeriodBook) : PeriodRequest → PeriodBook → Prop where
  | close {actor : UserId} {held : PermissionSet} {now : Instant}
      (permitted : .periodClose ∈ held) (status : book.status = .open)
      (complete : ∀ item ∈ book.checklist, item.isComplete = true) :
      Step book (.close actor held now) (book.after (.transition .open .closed actor now))
  | closeAgain {actor : UserId} {held : PermissionSet} {now : Instant}
      (permitted : .periodClose ∈ held) (status : book.status = .closed) :
      Step book (.close actor held now) book
  | lock {actor : UserId} {held : PermissionSet} {now : Instant}
      (permitted : .periodLock ∈ held) (status : book.status = .closed) :
      Step book (.lock actor held now) (book.after (.transition .closed .locked actor now))
  | lockAgain {actor : UserId} {held : PermissionSet} {now : Instant}
      (permitted : .periodLock ∈ held) (status : book.status = .locked) :
      Step book (.lock actor held now) book
  | reopen {actor : UserId} {held : PermissionSet} {now : Instant}
      (permitted : .periodReopen ∈ held) (status : book.status ≠ .open) :
      Step book (.reopen actor held now) (book.after (.transition book.status .open actor now))
  | complete {code : String} {actor : UserId} {held : PermissionSet} {now : Instant}
      {item : ChecklistItem} (permitted : .checklistComplete ∈ held)
      (found : book.checklist.find? (fun item => item.code = code) = some item)
      (incomplete : item.isComplete = false) :
      Step book (.complete code actor held now)
        { book with checklist := Rows.replace (·.code) (item.signedOff actor now) book.checklist }
  | completeAgain {code : String} {actor : UserId} {held : PermissionSet} {now : Instant}
      {item : ChecklistItem} (permitted : .checklistComplete ∈ held)
      (found : book.checklist.find? (fun item => item.code = code) = some item)
      (complete : item.isComplete = true) :
      Step book (.complete code actor held now) book

end PeriodBook

/-! ## The checks decide the steps -/

theorem ChecklistItem.outstanding_eq_nil_iff {checklist : List ChecklistItem} :
    outstanding checklist = [] ↔ ∀ item ∈ checklist, item.isComplete = true := by
  simp [outstanding]

namespace PeriodStatus

variable {status : PeriodStatus} {actor : UserId} {held : PermissionSet} {now : Instant}
  {action : PeriodAction}

theorem close_ok_iff {checklist : List ChecklistItem} {requireChecklist : Bool} :
    status.close actor held checklist requireChecklist now = .ok action ↔
      .periodClose ∈ held ∧
        (status = .open ∧ (requireChecklist = true → ChecklistItem.outstanding checklist = []) ∧
            action = .transition .open .closed actor now ∨
          status = .closed ∧ action = .unchanged .closed) := by
  simp only [close, liftM, monadLift, MonadLift.monadLift, bind_ok_iff, mapError_ok_iff,
    require_ok_iff, exists_const]
  cases status with
  | «open» =>
    simp only [ite_ok_iff, throw_ok_iff, pure_ok_iff, bind_ok_iff, false_and, exists_false,
      and_false, false_or]
    simp
  | closed => simp [pure_ok_iff]
  | locked => simp [throw_ok_iff]

theorem lock_ok_iff :
    status.lock actor held now = .ok action ↔
      .periodLock ∈ held ∧
        (status = .closed ∧ action = .transition .closed .locked actor now ∨
          status = .locked ∧ action = .unchanged .locked) := by
  simp only [lock, liftM, monadLift, MonadLift.monadLift, bind_ok_iff, mapError_ok_iff,
    require_ok_iff, exists_const]
  cases status <;> simp [pure_ok_iff, throw_ok_iff]

theorem reopen_ok_iff :
    status.reopen actor held now = .ok action ↔
      .periodReopen ∈ held ∧ status ≠ .open ∧ action = .transition status .open actor now := by
  simp only [reopen, liftM, monadLift, MonadLift.monadLift, bind_ok_iff, mapError_ok_iff,
    require_ok_iff, exists_const]
  cases status <;> simp [pure_ok_iff, throw_ok_iff]

end PeriodStatus

theorem ChecklistItem.complete_ok_iff {item : ChecklistItem} {actor : UserId}
    {held : PermissionSet} {now : Instant} {done : SignOff} :
    item.complete actor held now = .ok done ↔
      .checklistComplete ∈ held ∧
        (item.isComplete = true ∧ done = .alreadyComplete ∨
          item.isComplete = false ∧ done = .completed actor now) := by
  simp only [complete, liftM, monadLift, MonadLift.monadLift, bind_ok_iff, mapError_ok_iff,
    require_ok_iff, exists_const]
  cases item.isComplete <;> simp [pure_ok_iff]

namespace PeriodBook

theorem answer_ok_iff {book after : PeriodBook} {request : PeriodRequest} :
    book.answer request = .ok after ↔ book.Step request after := by
  constructor
  · intro accepted
    cases request with
    | close actor held now =>
      obtain ⟨action, decided, rfl⟩ := map_ok_iff.mp accepted
      obtain ⟨permitted, ⟨status, complete, rfl⟩ | ⟨status, rfl⟩⟩ :=
        PeriodStatus.close_ok_iff.mp decided
      · exact .close permitted status (ChecklistItem.outstanding_eq_nil_iff.mp (complete rfl))
      · exact .closeAgain permitted status
    | lock actor held now =>
      obtain ⟨action, decided, rfl⟩ := map_ok_iff.mp accepted
      obtain ⟨permitted, ⟨status, rfl⟩ | ⟨status, rfl⟩⟩ := PeriodStatus.lock_ok_iff.mp decided
      · exact .lock permitted status
      · exact .lockAgain permitted status
    | reopen actor held now =>
      obtain ⟨action, decided, rfl⟩ := map_ok_iff.mp accepted
      obtain ⟨permitted, status, rfl⟩ := PeriodStatus.reopen_ok_iff.mp decided
      exact .reopen permitted status
    | complete code actor held now =>
      simp only [answer] at accepted
      split at accepted
      · cases accepted
      rename_i item found
      obtain ⟨done, decided, rfl⟩ := map_ok_iff.mp accepted
      obtain ⟨permitted, ⟨complete, rfl⟩ | ⟨incomplete, rfl⟩⟩ :=
        ChecklistItem.complete_ok_iff.mp decided
      · exact .completeAgain permitted found complete
      · exact .complete permitted found incomplete
  · intro step
    cases step with
    | close permitted status complete =>
      have none_left := ChecklistItem.outstanding_eq_nil_iff.mpr complete
      exact map_ok_iff.mpr ⟨_, PeriodStatus.close_ok_iff.mpr
        ⟨permitted, Or.inl ⟨status, fun _ => none_left, rfl⟩⟩, rfl⟩
    | closeAgain permitted status =>
      exact map_ok_iff.mpr
        ⟨_, PeriodStatus.close_ok_iff.mpr ⟨permitted, Or.inr ⟨status, rfl⟩⟩, rfl⟩
    | lock permitted status =>
      exact map_ok_iff.mpr
        ⟨_, PeriodStatus.lock_ok_iff.mpr ⟨permitted, Or.inl ⟨status, rfl⟩⟩, rfl⟩
    | lockAgain permitted status =>
      exact map_ok_iff.mpr
        ⟨_, PeriodStatus.lock_ok_iff.mpr ⟨permitted, Or.inr ⟨status, rfl⟩⟩, rfl⟩
    | reopen permitted status =>
      exact map_ok_iff.mpr ⟨_, PeriodStatus.reopen_ok_iff.mpr ⟨permitted, status, rfl⟩, rfl⟩
    | complete permitted found incomplete =>
      simp only [answer, found]
      exact map_ok_iff.mpr
        ⟨_, ChecklistItem.complete_ok_iff.mpr ⟨permitted, Or.inr ⟨incomplete, rfl⟩⟩, rfl⟩
    | completeAgain permitted found complete =>
      simp only [answer, found]
      exact map_ok_iff.mpr
        ⟨_, ChecklistItem.complete_ok_iff.mpr ⟨permitted, Or.inl ⟨complete, rfl⟩⟩, rfl⟩

/-! ## Runs -/

theorem next_cases (book : PeriodBook) (request : PeriodRequest) :
    (book.answer request = .ok (book.next request) ∧ book.Step request (book.next request)) ∨
      (∃ refusal, book.answer request = .error refusal) ∧ book.next request = book := by
  unfold next
  cases answered : book.answer request with
  | ok after => exact Or.inl ⟨rfl, answer_ok_iff.mp answered⟩
  | error refusal => exact Or.inr ⟨⟨refusal, rfl⟩, rfl⟩

/-- What every step preserves holds after every run. -/
theorem run_preserves (holds : PeriodBook → Prop)
    (preserved : ∀ book request after, holds book → book.Step request after → holds after)
    (book : PeriodBook) (requests : List PeriodRequest) (start : holds book) :
    holds (book.run requests) := by
  induction requests generalizing book with
  | nil => exact start
  | cons request rest ih =>
    apply ih (book.next request)
    rcases next_cases book request with ⟨_, step⟩ | ⟨_, same⟩
    · exact preserved book request _ start step
    · rw [same]
      exact start

/-! ## The checklist -/

/-- The items are told apart by their codes, and none is outstanding unless the period is open. -/
structure Sealed (book : PeriodBook) : Prop where
  codes : (book.checklist.map (·.code)).Nodup
  complete : book.status ≠ .open → ∀ item ∈ book.checklist, item.isComplete = true

variable {book after : PeriodBook} {request : PeriodRequest}

theorem found_code {checklist : List ChecklistItem} {code : String} {item : ChecklistItem}
    (found : checklist.find? (fun item => item.code = code) = some item) :
    item ∈ checklist ∧ item.code = code :=
  ⟨List.mem_of_find?_eq_some found, by simpa using List.find?_some found⟩

theorem Step.codes (step : book.Step request after) :
    after.checklist.map (·.code) = book.checklist.map (·.code) := by
  cases step with
  | complete permitted found incomplete => exact Rows.keys_replace ..
  | _ => rfl

theorem sealed_step (book : PeriodBook) (request : PeriodRequest) (after : PeriodBook)
    (sealed : book.Sealed) (step : book.Step request after) : after.Sealed := by
  have codes : (after.checklist.map (·.code)).Nodup := by
    rw [step.codes]
    exact sealed.codes
  refine ⟨codes, ?_⟩
  cases step with
  | close permitted status complete =>
    intro _
    exact complete
  | lock permitted status =>
    intro _
    exact sealed.complete (by simp [status])
  | reopen permitted status =>
    intro shut
    exact absurd rfl shut
  | complete permitted found incomplete =>
    -- A closed or locked period has nothing left to be signed off.
    intro shut
    obtain ⟨present, _⟩ := found_code found
    simp [sealed.complete shut _ present] at incomplete
  | closeAgain | lockAgain | completeAgain => exact sealed.complete

theorem sealed_run (sealed : book.Sealed) (requests : List PeriodRequest) :
    (book.run requests).Sealed :=
  run_preserves Sealed sealed_step book requests sealed

theorem Step.keeps (step : book.Step request after) (sealed : book.Sealed) {item : ChecklistItem}
    (present : item ∈ book.checklist) (complete : item.isComplete = true) :
    item ∈ after.checklist := by
  cases step with
  | @complete code actor held now asked permitted found incomplete =>
    obtain ⟨asked_present, _⟩ := found_code found
    have differ : item.code ≠ asked.code := by
      intro same
      obtain rfl := List.inj_on_of_nodup_map sealed.codes present asked_present same
      simp [complete] at incomplete
    exact (Rows.mem_replace_iff (·.code) (asked.signedOff actor now) asked_present rfl item).mpr
      (Or.inr ⟨present, differ⟩)
  | _ => exact present

theorem run_keeps (sealed : book.Sealed) {item : ChecklistItem} (present : item ∈ book.checklist)
    (complete : item.isComplete = true) (requests : List PeriodRequest) :
    item ∈ (book.run requests).checklist := by
  refine (run_preserves (fun book => book.Sealed ∧ item ∈ book.checklist) ?_ book requests
    ⟨sealed, present⟩).2
  rintro book request after ⟨sealed, present⟩ step
  exact ⟨sealed_step book request after sealed step, step.keeps sealed present complete⟩

/-! ## The status -/

theorem Step.locked (step : book.Step request after) (locked : after.status = .locked) :
    book.status = .locked ∨ book.status = .closed ∧
      ∃ actor held now, request = .lock actor held now ∧ .periodLock ∈ held := by
  cases step with
  | close | reopen => cases locked
  | lock permitted status => exact Or.inr ⟨status, _, _, _, rfl, permitted⟩
  | closeAgain | lockAgain | complete | completeAgain => exact Or.inl locked

theorem Step.opened (step : book.Step request after) (isOpen : after.status = .open) :
    book.status = .open ∨
      ∃ actor held now, request = .reopen actor held now ∧ .periodReopen ∈ held := by
  cases step with
  | close | lock => cases isOpen
  | reopen permitted status => exact Or.inr ⟨_, _, _, rfl, permitted⟩
  | closeAgain | lockAgain | complete | completeAgain => exact Or.inl isOpen

theorem close_incomplete_iff {actor : UserId} {held : PermissionSet} {now : Instant}
    {codes : List String} :
    book.answer (.close actor held now) = .error (.checklistIncomplete codes) ↔
      .periodClose ∈ held ∧ book.status = .open ∧
        codes = (book.checklist.filter fun item => !item.isComplete).map (·.code) ∧
        codes ≠ [] := by
  rw [answer, map_error_iff]
  unfold PeriodStatus.close
  simp only [liftM, monadLift, MonadLift.monadLift, bind_error_iff, mapError_error_iff,
    mapError_ok_iff, require_ok_iff, reduceCtorEq, and_false, exists_false, false_or,
    exists_const]
  cases book.status with
  | «open» =>
    rw [← ChecklistItem.outstanding]
    by_cases nothing : ChecklistItem.outstanding book.checklist = []
    · simp [nothing, pure_error_iff]
    · simp only [true_and, ne_eq, nothing, not_false_eq_true, if_true, bind_error_iff,
        throw_error_iff, throw_ok_iff, false_and, exists_false, or_false,
        PeriodError.checklistIncomplete.injEq, and_congr_right_iff]
      intro _
      exact ⟨fun named => ⟨named, named ▸ nothing⟩, And.left⟩
  | closed => simp [pure_error_iff]
  | locked => simp [throw_error_iff]

/-! ## Runs from an open period -/

/-- What holds of a period at any time: of its checklist while it is not open and from then on,
of the ways in which it is locked and opened, and of requests that change nothing. -/
structure Guarded (book : PeriodBook) : Prop where
  complete : book.status = .closed ∨ book.status = .locked →
    ∀ item ∈ book.checklist, item.isComplete = true
  signed : ∀ item ∈ book.checklist, item.isComplete = true → ∀ later,
    (book.run later).checklist.filter (fun other => other.code = item.code) = [item]
  locked : ∀ request, (book.next request).status = .locked →
    book.status = .locked ∨ book.status = .closed ∧
      ∃ actor held now, request = .lock actor held now ∧ .periodLock ∈ held
  opened : ∀ request, (book.next request).status = .open →
    book.status = .open ∨
      ∃ actor held now, request = .reopen actor held now ∧ .periodReopen ∈ held
  closeAgain : ∀ actor held now, book.status = .closed → .periodClose ∈ held →
    book.answer (.close actor held now) = .ok book
  lockAgain : ∀ actor held now, book.status = .locked → .periodLock ∈ held →
    book.answer (.lock actor held now) = .ok book
  refused : ∀ request refusal, book.answer request = .error refusal → book.next request = book
  incomplete : ∀ actor held now codes,
    book.answer (.close actor held now) = .error (.checklistIncomplete codes) ↔
      .periodClose ∈ held ∧ book.status = .open ∧
        codes = (book.checklist.filter fun item => !item.isComplete).map (·.code) ∧
        codes ≠ []

theorem Sealed.guarded (sealed : book.Sealed) : book.Guarded where
  complete shut := by
    refine sealed.complete ?_
    rcases shut with closed | locked
    · simp [closed]
    · simp [locked]
  signed item present complete later := by
    have codes := (sealed_run sealed later).codes
    exact Rows.filter_key codes (run_keeps sealed present complete later)
  locked request locked := by
    rcases next_cases book request with ⟨_, step⟩ | ⟨_, same⟩
    · exact step.locked locked
    · rw [same] at locked
      exact Or.inl locked
  opened request isOpen := by
    rcases next_cases book request with ⟨_, step⟩ | ⟨_, same⟩
    · exact step.opened isOpen
    · rw [same] at isOpen
      exact Or.inl isOpen
  closeAgain actor held now closed permitted := answer_ok_iff.mpr (.closeAgain permitted closed)
  lockAgain actor held now locked permitted := answer_ok_iff.mpr (.lockAgain permitted locked)
  refused request refusal refused := by rw [next, refused]
  incomplete actor held now codes := close_incomplete_iff

/-- From an open period with any checklist, whatever is asked and by whom, in any order. -/
theorem run_guarded (book : PeriodBook) (isOpen : book.status = .open)
    (codes : (book.checklist.map (·.code)).Nodup) (requests : List PeriodRequest) :
    (book.run requests).Guarded := by
  have start : book.Sealed := ⟨codes, fun shut => absurd isOpen shut⟩
  exact (sealed_run start requests).guarded

def sampleBook : PeriodBook :=
  ⟨⟨Id.ofNat 1, JournalState.samplePeriod, "first", none, none, none⟩,
    [⟨"BANK_RECONCILED", "Bank accounts reconciled", none, none⟩,
      ⟨"ACCRUALS_POSTED", "Accruals posted", some (Id.ofNat 9), some ⟨5⟩⟩]⟩

/-- It is closed once the other item is signed off, closed again and locked, while an item is
signed off again by someone else. -/
def lockingRequests : List PeriodRequest :=
  [.close (Id.ofNat 1) [.periodClose] ⟨10⟩,
    .complete "BANK_RECONCILED" (Id.ofNat 2) [.checklistComplete] ⟨20⟩,
    .lock (Id.ofNat 1) [.periodLock] ⟨25⟩,
    .close (Id.ofNat 1) [.periodClose] ⟨30⟩, .close (Id.ofNat 4) [.periodClose] ⟨40⟩,
    .lock (Id.ofNat 1) [.periodLock] ⟨50⟩,
    .complete "ACCRUALS_POSTED" (Id.ofNat 3) [.checklistComplete] ⟨60⟩]

/-- After that it is reopened and closed by someone else. -/
def sampleRequests : List PeriodRequest :=
  lockingRequests ++ [.reopen (Id.ofNat 1) [.periodClose] ⟨70⟩,
    .reopen (Id.ofNat 5) [.periodReopen] ⟨80⟩,
    .complete "BANK_RECONCILED" (Id.ofNat 3) [.checklistComplete] ⟨90⟩,
    .close (Id.ofNat 6) [.periodClose] ⟨100⟩]

theorem sampleBook_guarded :
    sampleBook.status = .open ∧ (sampleBook.checklist.map (·.code)).Nodup ∧
      (sampleBook.run lockingRequests).status = .locked ∧
      (sampleBook.run lockingRequests).row.locked = some ⟨Id.ofNat 1, ⟨50⟩⟩ ∧
      (sampleBook.run lockingRequests).Guarded ∧
      (sampleBook.run sampleRequests).row.closed = some ⟨Id.ofNat 6, ⟨100⟩⟩ ∧
      (sampleBook.run sampleRequests).checklist.map (·.completedBy) =
        [some (Id.ofNat 2), some (Id.ofNat 9)] ∧
      (sampleBook.run sampleRequests).Guarded := by
  have isOpen : sampleBook.status = .open := by decide
  have codes : (sampleBook.checklist.map (·.code)).Nodup := by decide
  exact ⟨isOpen, codes, by decide, by decide, run_guarded sampleBook isOpen codes lockingRequests,
    by decide, by decide, run_guarded sampleBook isOpen codes sampleRequests⟩

end PeriodBook

end Countinghouse
