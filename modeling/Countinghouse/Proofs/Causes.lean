import Countinghouse.Bank.Error
import Countinghouse.Period.Error
import Countinghouse.Proofs.Journal.Validation
import Countinghouse.Recurring.Template
import Countinghouse.Service.Command

/-! # What a caller is told

A request is refused for a cause of one of five families.  A cause has a status and a message of
its own, and it becomes a failure, whose kind has a status again: the two are given by separate
tables.  Causes of the policy and of the ledger stand inside those of other families, and one that
stands inside another is passed on.

The failure of a cause has the status of the cause, it is one of the separation of duties or of the
service exactly when the innermost cause is, and it has the message of the cause unless the cause
is that the lines of a template are invalid: those fail with the message of the lines alone. -/

set_option autoImplicit false

namespace Countinghouse

/-- A cause of any family. -/
inductive Cause where
  | policy (e : PolicyError)
  | ledger (e : LedgerError)
  | period (e : PeriodError)
  | recurring (e : RecurringError)
  | reconciliation (e : ReconciliationError)
  deriving DecidableEq

namespace Cause

def status : Cause → Nat
  | policy e => e.status
  | ledger e => e.status
  | period e => e.status
  | recurring e => e.status
  | reconciliation e => e.status

def message : Cause → String
  | policy e => e.message
  | ledger e => e.message
  | period e => e.message
  | recurring e => e.message
  | reconciliation e => e.message

def failure : Cause → Failure
  | policy e => e.failure
  | ledger e => e.failure
  | period e => e.failure
  | recurring e => e.failure
  | reconciliation e => e.failure

/-! ## Causes inside causes -/

def inner? : Cause → Option Cause
  | ledger (.policy cause) | period (.policy cause) | recurring (.policy cause)
  | reconciliation (.policy cause) => some (policy cause)
  | recurring (.invalidLines cause) | reconciliation (.ledger cause) => some (ledger cause)
  | _ => none

def room : Cause → Nat
  | policy _ => 0
  | ledger _ => 1
  | period _ | recurring _ | reconciliation _ => 2

theorem room_lt {e cause : Cause} (inside : e.inner? = some cause) : cause.room < e.room := by
  unfold inner? at inside
  split at inside <;> cases inside <;> simp [room]

/-- The cause that all the others pass on. -/
def innermost (e : Cause) : Cause :=
  match _inside : e.inner? with
  | none => e
  | some cause => cause.innermost
termination_by e.room
decreasing_by exact room_lt _inside

theorem innermost_of_none {e : Cause} (own : e.inner? = none) : e.innermost = e := by
  rw [innermost]
  split
  · rfl
  · simp_all

theorem innermost_of_some {e cause : Cause} (inside : e.inner? = some cause) :
    e.innermost = cause.innermost := by
  rw [innermost]
  split <;> simp_all

def isDatabase : Cause → Bool
  | policy (.database _) | ledger (.database _) | period (.database _) | recurring (.database _)
  | reconciliation (.database _) => true
  | _ => false

def bareText : Cause → String
  | recurring (.invalidLines cause) => cause.message
  | e => e.message

/-! ## Telling -/

/-- The failure of a cause tells a text with the status of the cause, and its kind tells the kind of
the innermost cause.  The answer shows the text, except where the service itself failed. -/
structure Told (e : Cause) (text : String) : Prop where
  status : e.failure.kind.status = e.status
  message : e.failure.message = text
  duties : e.failure.kind = .sodViolation ↔
    ∃ cause : PolicyError, e.innermost = .policy cause ∧ cause.isSod = true
  server : e.failure.kind.isServer = true ↔ e.innermost.isDatabase = true
  response : e.failure.response =
    ⟨e.status, some (.obj [("error", .str e.failure.kind.code),
      ("message", .str (if e.innermost.isDatabase then "An error occurred" else text))])⟩

variable {e cause : Cause} {text : String}

theorem told_of (status : e.failure.kind.status = e.status) (message : e.failure.message = text)
    (duties : e.failure.kind = .sodViolation ↔
      ∃ cause : PolicyError, e.innermost = .policy cause ∧ cause.isSod = true)
    (server : e.failure.kind.isServer = true ↔ e.innermost.isDatabase = true) : e.Told text := by
  refine ⟨status, message, duties, server, ?_⟩
  have hidden : e.failure.kind.isServer = e.innermost.isDatabase := Bool.eq_iff_iff.mpr server
  rw [Failure.response, Failure.body, Failure.shown, status, message, hidden]

/-! A cause that passes no other on goes by the tables of its family alone, which are read here
line by line. -/

theorem tables_of_own (own : e.inner? = none) :
    e.failure.kind.status = e.status ∧ e.failure.message = e.message ∧
      e.failure.kind.isServer = e.isDatabase ∧ e.bareText = e.message := by
  cases e with
  | policy e => cases e <;> exact ⟨rfl, rfl, rfl, rfl⟩
  | ledger e => cases e <;> first | exact ⟨rfl, rfl, rfl, rfl⟩ | cases own
  | period e => cases e <;> first | exact ⟨rfl, rfl, rfl, rfl⟩ | cases own
  | recurring e => cases e <;> first | exact ⟨rfl, rfl, rfl, rfl⟩ | cases own
  | reconciliation e => cases e <;> first | exact ⟨rfl, rfl, rfl, rfl⟩ | cases own

theorem sod_of_own (own : e.inner? = none) :
    e.failure.kind = .sodViolation ↔
      ∃ cause : PolicyError, e = .policy cause ∧ cause.isSod = true := by
  cases e with
  | policy e => cases e <;> simp [failure, PolicyError.failure, PolicyError.isSod]
  | ledger e => cases e <;> simp_all [inner?, failure, LedgerError.failure]
  | period e => cases e <;> simp_all [inner?, failure, PeriodError.failure]
  | recurring e => cases e <;> simp_all [inner?, failure, RecurringError.failure]
  | reconciliation e => cases e <;> simp_all [inner?, failure, ReconciliationError.failure]

theorem told_of_own (own : e.inner? = none) : e.Told e.bareText := by
  obtain ⟨status, message, server, text⟩ := tables_of_own own
  refine told_of status ?message ?duties ?server
  case message => rw [message, text]
  case duties => rw [innermost_of_none own, sod_of_own own]
  case server => rw [innermost_of_none own, server]

/-- Passing a cause on changes nothing of what is told. -/
theorem same_as_inner (inside : e.inner? = some cause) :
    e.failure = cause.failure ∧ e.status = cause.status ∧ e.bareText = cause.bareText := by
  unfold inner? at inside
  split at inside <;> cases inside <;> exact ⟨rfl, rfl, rfl⟩

theorem told_of_inner (inside : e.inner? = some cause) (told : cause.Told cause.bareText) :
    e.Told e.bareText := by
  obtain ⟨failure_eq, status_eq, text_eq⟩ := same_as_inner inside
  have deep : e.innermost = cause.innermost := innermost_of_some inside
  refine told_of ?status ?message ?duties ?server
  case status => rw [failure_eq, status_eq, told.status]
  case message => rw [failure_eq, text_eq, told.message]
  case duties => rw [failure_eq, deep, told.duties]
  case server => rw [failure_eq, deep, told.server]

theorem told_bareText (e : Cause) : e.Told e.bareText := by
  induction e using innermost.induct with
  | case1 e own => exact told_of_own own
  | case2 e cause inside told => exact told_of_inner inside told

theorem invalidLines_untold (cause : LedgerError) :
    ¬ (recurring (.invalidLines cause)).Told (RecurringError.invalidLines cause).message := by
  intro told
  have bare : cause.message = "Template lines are invalid: " ++ cause.message :=
    (told_bareText (recurring (.invalidLines cause))).message.symm.trans told.message
  have length := congrArg String.length bare
  simp at length

theorem bareText_eq_message (valid : ∀ cause, e ≠ recurring (.invalidLines cause)) :
    e.bareText = e.message := by
  unfold bareText
  split
  case h_1 cause => exact absurd rfl (valid cause)
  case h_2 => rfl

/-- A caller is told the status, the kind and the message of every cause, except that of invalid
lines of a template only the message of the lines is told. -/
theorem told_iff_not_invalidLines (e : Cause) :
    e.Told e.bareText ∧ (e.Told e.message ↔ ∀ cause, e ≠ recurring (.invalidLines cause)) := by
  refine ⟨told_bareText e, ?_, ?_⟩
  · rintro told cause rfl
    exact invalidLines_untold cause told
  · intro valid
    rw [← bareText_eq_message valid]
    exact told_bareText e

/-- The rent is booked on an account that is no longer active. -/
theorem inactive_rent_untold :
    let template : Template := ⟨Id.ofNat 9, "Rent", Chart.splitAmount, .monthly, true, none⟩
    let january : Period := ⟨Id.ofNat 4, ⟨20089, by decide, by decide⟩,
      ⟨20119, by decide, by decide⟩, .open⟩
    let chart : Chart := .ofList [⟨Id.ofNat 1, .expense, false, true, false⟩,
      ⟨Id.ofNat 2, .liability, true, true, false⟩]
    let cause : RecurringError := .invalidLines (.accountInactive (Id.ofNat 1))
    template.generate january false [.recurringGenerate] chart = .error cause ∧
      cause.message = "Template lines are invalid: " ++ cause.failure.message ∧
      ¬ (recurring cause).Told cause.message :=
  ⟨rfl, rfl, invalidLines_untold _⟩

end Cause

end Countinghouse
