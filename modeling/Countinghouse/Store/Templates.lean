import Countinghouse.Recurring.Document
import Countinghouse.Store.Journals

/-! # Templates in the store

A template keeps its lines as a document, in the form in which lines are written.
A journal is generated once for each template and period. -/

set_option autoImplicit false

namespace Countinghouse

structure TemplateInput where
  name : String
  schedule : Schedule
  lines : List Line

/-- The template that a row stands for, or why its document is not a list of lines. -/
def StoredTemplate.template (row : StoredTemplate) : Except RecurringError Template :=
  match Json.asList Line.decode row.lines.ordered with
  | .ok lines => .ok ⟨row.id, row.name, lines, row.schedule, row.active, row.lastGenerated⟩
  | .error fault => .error (.database ("Malformed template lines: " ++ fault.reason))

namespace Store

variable (store : Store) (ctx : Context)

/-- Stores a template whose lines could be booked.  Names have at most 255
characters. -/
def createTemplate (input : TemplateInput) : Except RecurringError (Store × StoredTemplate) := do
  let held ← store.permissions ctx ctx.user
  held.require .recurringGenerate
  let chart ← store.chart ctx input.lines
  let _ ← (chart.validate input.lines : Except LedgerError Totals)
  let row : StoredTemplate := {
    id := ctx.newId 1, tenant := ctx.tenant, name := input.name, schedule := input.schedule
    lines := Json.ofList Line.toJson input.lines
    active := true, lastGenerated := none, createdAt := ctx.now }
  ctx.use .templates
  Store.require (input.name.length ≤ 255 && !store.templates.any (·.id = row.id))
  return ({ store with templates := store.templates ++ [row] }, row)

def listTemplates : Except RecurringError (List StoredTemplate) := do
  ctx.use .templates
  return (store.templates.filter (·.tenant = ctx.tenant)).mergeSort fun a b =>
    decide (a.name ≤ b.name)

def getTemplate (id : TemplateId) : Except RecurringError StoredTemplate := do
  ctx.use .templates
  match store.templates.find? fun row => row.id = id && row.tenant = ctx.tenant with
  | some row => return row
  | none => throw (.templateNotFound id)

def alreadyGenerated (template : TemplateId) (period : PeriodId) : Except StoreFault Bool := do
  ctx.use .generations
  return store.generations.any fun row =>
    row.tenant = ctx.tenant && row.template = template && row.period = period

def generateJournal (id : TemplateId) (periodId : PeriodId) :
    Except RecurringError (Store × JournalView) := do
  let row ← store.getTemplate ctx id
  let template ← row.template
  let period ← match ← store.period? ctx periodId with
    | some row => pure row.period
    | none => throw (.periodNotFound periodId)
  let already ← store.alreadyGenerated ctx id periodId
  let held ← store.permissions ctx ctx.user
  let chart ← store.chart ctx template.lines
  let made ← template.generate period already held chart
  let (store, view) ← store.insertDraft ctx
    ⟨made.date, periodId, some made.description, made.lines, made.totals, none, some id⟩
  ctx.use .generations
  let generation : Generation := ⟨ctx.tenant, id, periodId, view.journal.id⟩
  ctx.use .templates
  let store := { store with
    generations := store.generations ++ [generation]
    templates := store.templates.map fun old =>
      if old.id = id then { old with lastGenerated := some periodId } else old }
  return (store, view)

end Store

end Countinghouse
