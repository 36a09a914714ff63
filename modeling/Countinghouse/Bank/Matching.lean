import Countinghouse.Bank.Error
import Countinghouse.Policy.Check

/-! # Matching statement lines to payments

A line and a payment match when both are free, belong to the same bank account,
the payment is posted and the amounts are equal in value.  What no match can
explain is adjusted by a journal, once no line that could be matched is left. -/

set_option autoImplicit false

namespace Countinghouse

structure Match where
  line : StatementLineId
  payment : PaymentId
  actor : UserId
  deriving DecidableEq

namespace StatementLine

/-- The match of a line and a payment, or the first reason against it. -/
def matchTo (line : StatementLine) (payment : Payment) (actor : UserId) (held : PermissionSet) :
    Except ReconciliationError Match := do
  held.require .bankReconcile
  if line.isReconciled then throw (.statementLineReconciled line.id)
  if payment.isReconciled then throw (.paymentReconciled payment.id)
  if line.bank ≠ payment.bank then throw .bankAccountMismatch
  if payment.status ≠ .posted then throw (.paymentNotPosted payment.id)
  if ¬ line.amount.Same payment.amount then throw (.amountMismatch line.amount payment.amount)
  return ⟨line.id, payment.id, actor⟩

def Candidate (line : StatementLine) (payment : Payment) : Prop :=
  line.isReconciled = false ∧ payment.isReconciled = false ∧ line.bank = payment.bank ∧
    payment.status = .posted ∧ line.amount.Same payment.amount

instance (line : StatementLine) (payment : Payment) : Decidable (line.Candidate payment) :=
  inferInstanceAs (Decidable (_ ∧ _))

def candidates (line : StatementLine) (payments : List Payment) : List Payment :=
  payments.filter fun payment => decide (line.Candidate payment)

end StatementLine

namespace Bank

def matchableLines (lines : List StatementLine) (payments : List Payment) : Nat :=
  (lines.filter fun line => payments.any fun payment => decide (line.Candidate payment)).length

def adjustmentMemo : String := "Bank reconciliation adjustment"

/-- The lines that book a difference against the ledger account of the bank: a
positive one is debited to it, a negative one credited. -/
def adjustmentLines (difference : Decimal) (matchable : Nat) (bank offset : AccountId)
    (held : PermissionSet) : Except ReconciliationError (List Line) := do
  held.require .bankReconcile
  if difference.isZero then throw .nothingToAdjust
  if matchable > 0 then throw (.matchablePairsRemain matchable)
  let amount := difference.abs
  let debit (account : AccountId) : Line := ⟨account, amount, .zero, some adjustmentMemo, .none⟩
  let credit (account : AccountId) : Line := ⟨account, .zero, amount, some adjustmentMemo, .none⟩
  if Decimal.zero < difference then return [debit bank, credit offset]
  return [credit bank, debit offset]

end Bank

end Countinghouse
