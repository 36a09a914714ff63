import Countinghouse.Journal.Reversal
import Countinghouse.Paging
import Countinghouse.Store.Calendar
import Countinghouse.Store.Policy

/-! # Journals in the store

Drafting, changing, submitting, approving, sending back, posting and reversing
journals.  Each operation either gives the store with all its changes or a
refusal.

Every caller validates lines before it writes them, for a draft, so that what the
table asks of a line is met.  No two lines of a journal have one number: rows are
written for a journal that is new, or that has just lost all it had. -/

set_option autoImplicit false

namespace Countinghouse

structure JournalInput where
  date : Date
  description : Option String
  lines : List Line

structure NewJournal where
  date : Date
  period : PeriodId
  description : Option String
  lines : List Line
  totals : Totals
  reverses : Option JournalId
  template : Option TemplateId

def NewJournal.journal (draft : NewJournal) (ctx : Context) (totals : Totals) : Journal where
  id := ctx.newId 1
  tenant := ctx.tenant
  period := draft.period
  date := draft.date
  description := draft.description
  state := ⟨.draft, ctx.user, none, none, totals⟩
  posted := none
  rejectionReason := none
  reverses := draft.reverses
  template := draft.template
  createdAt := ctx.now
  updatedAt := ctx.now

structure JournalView where
  journal : Journal
  lines : List StoredLine

structure JournalFilter where
  status : Option JournalStatus
  period : Option PeriodId

namespace JournalFilter

def Admits (filter : JournalFilter) (journal : Journal) : Prop :=
  (∀ status ∈ filter.status, journal.state.status = status) ∧
    ∀ period ∈ filter.period, journal.period = period

instance (filter : JournalFilter) (journal : Journal) : Decidable (filter.Admits journal) :=
  inferInstanceAs (Decidable (_ ∧ _))

end JournalFilter

namespace Journal

/-- The journal comes before another in a list: the newest first, and of one day
the greatest identifier first. -/
def Precedes (a b : Journal) : Prop := b.date < a.date ∨ (a.date = b.date ∧ b.id ≤ a.id)

instance (a b : Journal) : Decidable (a.Precedes b) := inferInstanceAs (Decidable (_ ∨ _))

def edited (journal : Journal) (input : JournalInput) (period : PeriodId) (totals : Totals)
    (now : Instant) : Journal :=
  { journal with
    date := input.date, period, description := input.description
    state := { journal.state with totals }, updatedAt := now }

def after (journal : Journal) (action : JournalAction) (now : Instant) : Journal :=
  let journal := { journal with state := journal.state.after action, updatedAt := now }
  match action with
  | .reject _ reason => { journal with rejectionReason := some reason }
  | .post actor => { journal with posted := some ⟨actor, now⟩ }
  | _ => journal

end Journal

namespace Store

variable (store : Store) (ctx : Context)

/-- The accounts of the tenant; without lines there is nothing to look up. -/
def chart (lines : List Line) : Except StoreFault Chart := do
  if lines.isEmpty then return fun _ => none
  ctx.use .accounts
  return Chart.ofList ((store.accounts.filter (·.tenant = ctx.tenant)).map (·.account))

def journal (id : JournalId) : Except LedgerError Journal := do
  ctx.use .journals
  match store.journals.find? fun row => row.id = id && row.tenant = ctx.tenant with
  | some journal => return journal
  | none => throw (.journalNotFound id)

def linesOf (id : JournalId) : Except StoreFault (List StoredLine) := do
  ctx.use .journalLines
  return (store.journalLines.filter (·.journal = id)).mergeSort fun a b =>
    decide (a.number ≤ b.number)

def isDraft (id : JournalId) : Bool :=
  store.journals.any fun row =>
    row.id = id && row.tenant = ctx.tenant && row.state.status = .draft

def hasAccount (id : AccountId) : Bool := store.accounts.any (·.account.id = id)

/-- The row for a line of a journal, the line having an index.  Lines are written
for drafts only, and each is checked as it is stored, with rounded amounts. -/
def lineRow (id : JournalId) (line : Line) (index : Nat) : Except StoreFault StoredLine := do
  ctx.use .journalLines
  let debit ← column line.debit
  let credit ← column line.credit
  let line := { line with debit, credit }
  Store.require (store.isDraft ctx id)
  Store.require (line.OneSided && store.hasAccount line.account)
  return ⟨ctx.newId (index + 2), ctx.tenant, id, index + 1, line⟩

/-- Rows for the lines of a journal that has none, numbered from one. -/
def lineRows (id : JournalId) (lines : List Line) : Except StoreFault (List StoredLine) :=
  lines.zipIdx.mapM fun (line, index) => store.lineRow ctx id line index

def insertDraft (draft : NewJournal) : Except StoreFault (Store × JournalView) := do
  ctx.use .journals
  let totals ← columns draft.totals
  let journal := draft.journal ctx totals
  Store.require (!store.journals.any (·.id = journal.id))
  let store := { store with journals := store.journals ++ [journal] }
  let lines ← store.lineRows ctx journal.id draft.lines
  return ({ store with journalLines := store.journalLines ++ lines }, ⟨journal, lines⟩)

def saveJournal (journal : Journal) : Except StoreFault Store := do
  ctx.use .journals
  return { store with
    journals := store.journals.map fun row => if row.id = journal.id then journal else row }

def createJournal (input : JournalInput) : Except LedgerError (Store × JournalView) := do
  let held ← store.permissions ctx ctx.user
  let periods ← store.periodsByStart ctx
  let chart ← store.chart ctx input.lines
  let draft ← Draft.create held input.lines input.date periods chart
  store.insertDraft ctx
    ⟨input.date, draft.period, input.description, input.lines, draft.totals, none, none⟩

def updateJournal (id : JournalId) (input : JournalInput) :
    Except LedgerError (Store × JournalView) := do
  let journal ← store.journal ctx id
  let held ← store.permissions ctx ctx.user
  let periods ← store.periodsByStart ctx
  let chart ← store.chart ctx input.lines
  let draft ← Draft.edit journal.state.status held input.lines input.date periods chart
  ctx.use .journalLines
  let store := { store with
    journalLines := store.journalLines.filter fun row => row.journal ≠ id }
  let lines ← store.lineRows ctx id input.lines
  let totals ← columns draft.totals
  let journal := journal.edited input draft.period totals ctx.now
  let store := { store with journalLines := store.journalLines ++ lines }
  let store ← store.saveJournal ctx journal
  return (store, ⟨journal, lines⟩)

def getJournal (id : JournalId) : Except LedgerError JournalView := do
  let journal ← store.journal ctx id
  let lines ← store.linesOf ctx id
  return ⟨journal, lines⟩

/-- A page of the journals that a filter admits, and how many these are. -/
def listJournals (filter : JournalFilter) (page : PageRequest) :
    Except LedgerError (List Journal × Nat) := do
  ctx.use .journals
  let rows := store.journals.filter fun row => row.tenant = ctx.tenant && filter.Admits row
  let sorted := rows.mergeSort fun a b => decide (a.Precedes b)
  return (page.slice sorted, rows.length)

def periodOf (journal : Journal) : Except LedgerError Period := do
  match ← store.period? ctx journal.period with
  | some row => return row.period
  | none => throw (.noPeriodForDate journal.date)

/-- Records an action on a journal and shows its lines. -/
def recordAction (journal : Journal) (action : JournalAction) :
    Except LedgerError (Store × JournalView) := do
  let journal := journal.after action ctx.now
  let store ← store.saveJournal ctx journal
  let lines ← store.linesOf ctx journal.id
  return (store, ⟨journal, lines⟩)

def submitJournal (id : JournalId) : Except LedgerError (Store × JournalView) := do
  let journal ← store.journal ctx id
  let period ← store.periodOf ctx journal
  let held ← store.permissions ctx ctx.user
  let rules ← store.tenantRules ctx
  let action ← journal.state.submit ctx.user held rules period
  store.recordAction ctx journal action

def approveJournal (id : JournalId) : Except LedgerError (Store × JournalView) := do
  let journal ← store.journal ctx id
  let held ← store.permissions ctx ctx.user
  let rules ← store.tenantRules ctx
  let action ← journal.state.approve ctx.user held rules
  store.recordAction ctx journal action

def rejectJournal (id : JournalId) (reason : String) :
    Except LedgerError (Store × JournalView) := do
  let journal ← store.journal ctx id
  let held ← store.permissions ctx ctx.user
  let action ← journal.state.reject ctx.user held reason
  store.recordAction ctx journal action

def addDelta (period : PeriodId) (delta : Delta) : Except StoreFault Store := do
  ctx.use .balances
  let debit ← column delta.debit
  let credit ← column delta.credit
  let isRow := fun (row : StoredBalance) =>
    row.period = period && row.balance.account = delta.account
  match store.balances.find? isRow with
  | none =>
      let row : StoredBalance := ⟨ctx.tenant, period, ⟨delta.account, debit, credit⟩⟩
      return { store with balances := store.balances ++ [row] }
  | some row =>
      match row.balance.debit.columnAdd? debit, row.balance.credit.columnAdd? credit with
      | some debit, some credit =>
          let row := { row with balance := { row.balance with debit, credit } }
          return { store with
            balances := store.balances.map fun old => if isRow old then row else old }
      | _, _ => throw .overflow

def addDeltas (period : PeriodId) : Store → List Delta → Except StoreFault Store
  | store, [] => .ok store
  | store, delta :: rest => do
      let store ← store.addDelta ctx period delta
      addDeltas period store rest

/-- What lines add to balances.  The sums of stored lines are in range. -/
def deltasOf (lines : List Line) : Except StoreFault (List Delta) :=
  match Delta.ofLines lines with
  | .ok deltas => .ok deltas
  | .error _ => .error .overflow

def postJournal (id : JournalId) : Except LedgerError (Store × JournalView) := do
  let journal ← store.journal ctx id
  let period ← store.periodOf ctx journal
  let rows ← store.linesOf ctx id
  let lines := rows.map (·.line)
  let chart ← store.chart ctx lines
  let held ← store.permissions ctx ctx.user
  let rules ← store.tenantRules ctx
  let action ← journal.state.post ctx.user held rules (chart.needsFinalPost lines) period
  let journal := journal.after action ctx.now
  let store ← store.saveJournal ctx journal
  let deltas ← deltasOf lines
  let store ← addDeltas ctx period.id store deltas
  return (store, ⟨journal, rows⟩)

/-- Drafts the reversal of a posted journal, on the given date or today. -/
def reverseJournal (id : JournalId) (date : Option Date) :
    Except LedgerError (Store × JournalView) := do
  let journal ← store.journal ctx id
  ctx.use .journals
  let existing := store.journals.find? fun row => row.tenant = ctx.tenant && row.reverses = some id
  let held ← store.permissions ctx ctx.user
  Reversal.check id journal.state.status (existing.map (·.id)) held
  let date := date.getD ctx.now.date
  let rows ← store.linesOf ctx id
  let lines := Reversal.lines (rows.map (·.line))
  let periods ← store.periodsByStart ctx
  let chart ← store.chart ctx lines
  let draft ← Draft.prepare lines date periods chart
  let description := "Reversal of " ++ journal.description.getD id.text
  store.insertDraft ctx ⟨date, draft.period, some description, lines, draft.totals, some id, none⟩

end Store

end Countinghouse
