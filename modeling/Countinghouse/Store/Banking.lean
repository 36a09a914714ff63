import Countinghouse.Bank.Matching
import Countinghouse.Bank.Summary
import Countinghouse.Store.Journals

/-! # Bank accounts in the store

Matching statement lines to payments, the position of a bank account, and the
journals that adjust it.  Whether a payment is reconciled is not kept: it is when
some statement line is matched to it. -/

set_option autoImplicit false

namespace Countinghouse

def StoredPayment.payment (row : StoredPayment) (isReconciled : Bool) : Payment :=
  ⟨row.id, row.bank, row.date, row.amount, row.status, isReconciled⟩

/-- A bank account with its statement lines and payments, each by date. -/
structure BankPosition where
  account : BankAccount
  lines : List StatementLine
  payments : List Payment

def StatementLine.matchedPayments (lines : List StatementLine) : List PaymentId :=
  lines.filterMap (·.matched)

namespace Store

variable (store : Store) (ctx : Context)

def isReconciled (payment : PaymentId) : Bool :=
  store.statementLines.any fun row => row.tenant = ctx.tenant && row.line.matched = some payment

def matchLine (lineId : StatementLineId) (paymentId : PaymentId) :
    Except ReconciliationError (Store × StoredStatementLine) := do
  ctx.use .statementLines
  let row ← match store.statementLines.find? fun row =>
      row.line.id = lineId && row.tenant = ctx.tenant with
    | some row => pure row
    | none => throw (.statementLineNotFound lineId)
  ctx.use .payments
  let payment ← match store.payments.find? fun row =>
      row.id = paymentId && row.tenant = ctx.tenant with
    | some payment => pure payment
    | none => throw (.paymentNotFound paymentId)
  let held ← store.permissions ctx ctx.user
  let made ← row.line.matchTo (payment.payment (store.isReconciled ctx paymentId)) ctx.user held
  let row := { row with
    line := { row.line with matched := some made.payment }, mark := some ⟨made.actor, ctx.now⟩ }
  let rows := store.statementLines.map fun old => if old.line.id = row.line.id then row else old
  return ({ store with statementLines := rows }, row)

def bankPosition (id : BankAccountId) : Except ReconciliationError BankPosition := do
  ctx.use .bankAccounts
  let account ← match store.bankAccounts.find? fun row =>
      row.id = id && row.tenant = ctx.tenant with
    | some account => pure account
    | none => throw (.bankAccountNotFound id)
  ctx.use .statementLines
  let rows := store.statementLines.filter fun row => row.tenant = ctx.tenant && row.line.bank = id
  let lines := (rows.map (·.line)).mergeSort fun a b => decide (a.date ≤ b.date)
  let matched := StatementLine.matchedPayments lines
  ctx.use .payments
  let rows := (store.payments.filter fun row => row.tenant = ctx.tenant && row.bank = id).mergeSort
    fun a b => decide (a.date ≤ b.date)
  return ⟨account, lines, rows.map fun row => row.payment (matched.contains row.id)⟩

def candidates (bank : BankAccountId) (lineId : StatementLineId) :
    Except ReconciliationError (List Payment) := do
  let position ← store.bankPosition ctx bank
  match position.lines.find? fun line => line.id = lineId with
  | some line => return line.candidates position.payments
  | none => throw (.statementLineNotFound lineId)

/-- Debits less credits of lines, one after the other. -/
def netOf (acc : Decimal) : List Line → Except Overflow Decimal
  | [] => .ok acc
  | line :: rest => do
      let acc ← acc.plus line.debit
      let acc ← acc.minus line.credit
      netOf acc rest

/-- What was posted to an account up to a date.  The sums of stored lines are in
range. -/
def systemBalance (account : AccountId) (asOf : Date) : Except StoreFault Decimal := do
  ctx.use .journalLines
  ctx.use .journals
  let journals := store.journals.filter fun row =>
    row.tenant = ctx.tenant && row.state.status = .posted && row.date ≤ asOf
  let ids := journals.map (·.id)
  let lines := store.journalLines.filter fun row =>
    ids.contains row.journal && row.line.account = account
  match netOf .zero (lines.map (·.line)) with
  | .ok net => return net
  | .error _ => throw .overflow

def summarise (position : BankPosition) (asOf : Date) (closing : Decimal) :
    Except ReconciliationError Summary := do
  Summary.checkClosing closing
  let system ← store.systemBalance ctx position.account.ledgerAccount asOf
  match Summary.compute asOf closing system position.lines position.payments with
  | .ok summary => return summary
  | .error e => throw (.database e.message)

def bankSummary (bank : BankAccountId) (asOf : Date) (closing : Decimal) :
    Except ReconciliationError Summary := do
  let position ← store.bankPosition ctx bank
  store.summarise ctx position asOf closing

/-- Drafts the journal that books the difference of a bank account, dated on the
day of the summary. -/
def createAdjustment (bank : BankAccountId) (asOf : Date) (closing : Decimal)
    (offset : AccountId) : Except ReconciliationError (Store × JournalView) := do
  let position ← store.bankPosition ctx bank
  let summary ← store.summarise ctx position asOf closing
  let due := position.lines.filter fun line => line.date ≤ asOf
  let held ← store.permissions ctx ctx.user
  let lines ← Bank.adjustmentLines summary.difference
    (Bank.matchableLines due position.payments) position.account.ledgerAccount offset held
  let periods ← store.periodsByStart ctx
  let chart ← store.chart ctx lines
  let draft ← Draft.prepare lines asOf periods chart
  let description := "Bank reconciliation adjustment: " ++ position.account.name ++ " as of " ++
    asOf.text
  store.insertDraft ctx ⟨asOf, draft.period, some description, lines, draft.totals, none, none⟩

end Store

end Countinghouse
