import Countinghouse.Journal.Validation
import Countinghouse.Policy.Check

/-! # Recurring templates

A template holds lines that are booked once in each of many periods.  Generating
it for a period gives a draft dated on the first day, with the lines as they
are. -/

set_option autoImplicit false

namespace Countinghouse

inductive Schedule where
  | monthly
  | quarterly
  | annually
  deriving DecidableEq, Repr

namespace Schedule

def all : List Schedule := [monthly, quarterly, annually]

def code : Schedule → String
  | monthly => "monthly"
  | quarterly => "quarterly"
  | annually => "annually"

def ofCode? (s : String) : Option Schedule := all.find? (·.code == s)

def parse? (s : String) : Option Schedule := ofCode? (Text.smalls s)

end Schedule

structure Template where
  id : TemplateId
  name : String
  lines : List Line
  schedule : Schedule
  active : Bool
  /-- The period it was last generated for. -/
  lastGenerated : Option PeriodId
  deriving DecidableEq

inductive RecurringError where
  | alreadyGenerated (template : TemplateId) (period : PeriodId)
  | templateInactive (template : TemplateId)
  | templateNotFound (template : TemplateId)
  | periodNotFound (period : PeriodId)
  | invalidLines (cause : LedgerError)
  | policy (cause : PolicyError)
  | database (reason : String)
  deriving DecidableEq

namespace RecurringError

def name : RecurringError → String
  | alreadyGenerated _ _ => "AlreadyGenerated"
  | templateInactive _ => "TemplateInactive"
  | templateNotFound _ => "TemplateNotFound"
  | periodNotFound _ => "PeriodNotFound"
  | invalidLines cause => "InvalidLines." ++ cause.name
  | policy cause => "Policy." ++ cause.name
  | database _ => "Database"

def message : RecurringError → String
  | alreadyGenerated template period =>
      "Template " ++ template.text ++ " already generated for period " ++ period.text
  | templateInactive template => "Template " ++ template.text ++ " is inactive"
  | templateNotFound template => "Template " ++ template.text ++ " not found"
  | periodNotFound period => "Period " ++ period.text ++ " not found"
  | invalidLines cause => "Template lines are invalid: " ++ cause.message
  | policy cause => cause.message
  | database reason => "Database error: " ++ reason

def code : RecurringError → String
  | alreadyGenerated _ _ => "ALREADY_GENERATED"
  | templateInactive _ => "TEMPLATE_INACTIVE"
  | templateNotFound _ => "TEMPLATE_NOT_FOUND"
  | periodNotFound _ => "PERIOD_NOT_FOUND"
  | invalidLines cause => cause.code
  | policy cause => cause.code
  | database _ => "DATABASE_ERROR"

def status : RecurringError → Nat
  | alreadyGenerated _ _ => 409
  | templateInactive _ => 400
  | templateNotFound _ | periodNotFound _ => 404
  | invalidLines cause => cause.status
  | policy cause => cause.status
  | database _ => 500

/-- Invalid lines fail as the refusal of the lines itself. -/
def failure (e : RecurringError) : Failure :=
  match e with
  | alreadyGenerated _ _ => ⟨.alreadyGenerated, e.message⟩
  | templateInactive _ => ⟨.validation, e.message⟩
  | templateNotFound _ | periodNotFound _ => ⟨.notFound, e.message⟩
  | invalidLines cause => cause.failure
  | policy cause => cause.failure
  | database _ => ⟨.database, e.message⟩

instance : Refusal RecurringError := ⟨name, message, code, status, failure⟩

instance : MonadLift (Except PolicyError) (Except RecurringError) :=
  ⟨fun r => r.mapError policy⟩

/-- Where a template is generated, a refusal of the ledger is one of its lines. -/
instance : MonadLift (Except LedgerError) (Except RecurringError) :=
  ⟨fun r => r.mapError invalidLines⟩

end RecurringError

structure Generated where
  date : Date
  description : String
  lines : List Line
  totals : Totals
  deriving DecidableEq

/-- The journal of a template for a period; `already` says whether there has been
one. -/
def Template.generate (template : Template) (period : Period) (already : Bool)
    (held : PermissionSet) (chart : Chart) : Except RecurringError Generated := do
  held.require .recurringGenerate
  if ¬ template.active then throw (.templateInactive template.id)
  if already then throw (.alreadyGenerated template.id period.id)
  let totals ← (chart.validate template.lines : Except LedgerError Totals)
  return {
    date := period.start
    description :=
      template.name ++ " (" ++ period.start.text ++ " to " ++ period.finish.text ++ ")"
    lines := template.lines
    totals := totals }

end Countinghouse
