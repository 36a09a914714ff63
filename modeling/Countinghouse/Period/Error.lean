import Countinghouse.Period.Basic
import Countinghouse.Policy.Error

/-! # Refusals of the calendar -/

set_option autoImplicit false

namespace Countinghouse

inductive PeriodError where
  | invalidTransition (start target : PeriodStatus)
  | checklistIncomplete (outstanding : List String)
  | invalidDateRange (start finish : Date)
  | overlaps (period : PeriodId)
  | notContiguous (expectedStart expectedFinish : Date)
  | noPeriodForDate (date : Date)
  | unknownChecklistItem (code : String)
  | periodNotFound (period : PeriodId)
  | policy (cause : PolicyError)
  | database (reason : String)
  deriving DecidableEq

namespace PeriodError

def name : PeriodError → String
  | invalidTransition _ _ => "InvalidTransition"
  | checklistIncomplete _ => "ChecklistIncomplete"
  | invalidDateRange _ _ => "InvalidDateRange"
  | overlaps _ => "Overlaps"
  | notContiguous _ _ => "NotContiguous"
  | noPeriodForDate _ => "NoPeriodForDate"
  | unknownChecklistItem _ => "UnknownChecklistItem"
  | periodNotFound _ => "PeriodNotFound"
  | policy cause => "Policy." ++ cause.name
  | database _ => "Database"

def message : PeriodError → String
  | invalidTransition start target =>
      "Invalid period transition from " ++ start.code ++ " to " ++ target.code
  | checklistIncomplete outstanding =>
      "Checklist incomplete: " ++ String.intercalate ", " outstanding
  | invalidDateRange start finish =>
      "Period end " ++ finish.text ++ " is before start " ++ start.text
  | overlaps period => "Period overlaps existing period " ++ period.text
  | notContiguous expectedStart expectedFinish =>
      "Period must start on " ++ expectedStart.text ++ " or end on " ++ expectedFinish.text
  | noPeriodForDate date => "No accounting period contains " ++ date.text
  | unknownChecklistItem code => "Unknown checklist item " ++ code
  | periodNotFound period => "Period " ++ period.text ++ " not found"
  | policy cause => cause.message
  | database reason => "Database error: " ++ reason

def code : PeriodError → String
  | invalidTransition _ _ => "INVALID_STATE_TRANSITION"
  | checklistIncomplete _ => "CHECKLIST_INCOMPLETE"
  | invalidDateRange _ _ => "INVALID_DATE_RANGE"
  | overlaps _ => "PERIOD_OVERLAP"
  | notContiguous _ _ => "PERIOD_NOT_CONTIGUOUS"
  | noPeriodForDate _ => "NO_PERIOD_FOR_DATE"
  | unknownChecklistItem _ => "UNKNOWN_CHECKLIST_ITEM"
  | periodNotFound _ => "PERIOD_NOT_FOUND"
  | policy cause => cause.code
  | database _ => "DATABASE_ERROR"

def status : PeriodError → Nat
  | invalidDateRange _ _ | overlaps _ | notContiguous _ _ | noPeriodForDate _ => 400
  | invalidTransition _ _ | checklistIncomplete _ => 409
  | unknownChecklistItem _ | periodNotFound _ => 404
  | policy cause => cause.status
  | database _ => 500

def failure (e : PeriodError) : Failure :=
  match e with
  | invalidTransition _ _ => ⟨.invalidStateTransition, e.message⟩
  | checklistIncomplete _ => ⟨.checklistIncomplete, e.message⟩
  | invalidDateRange _ _ | overlaps _ | notContiguous _ _ | noPeriodForDate _ =>
      ⟨.validation, e.message⟩
  | unknownChecklistItem _ | periodNotFound _ => ⟨.notFound, e.message⟩
  | policy cause => cause.failure
  | database _ => ⟨.database, e.message⟩

instance : Refusal PeriodError := ⟨name, message, code, status, failure⟩

instance : MonadLift (Except PolicyError) (Except PeriodError) :=
  ⟨fun r => r.mapError policy⟩

end PeriodError

end Countinghouse
