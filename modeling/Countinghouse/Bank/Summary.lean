import Countinghouse.Bank.Error
import Countinghouse.Decimal.Column
import Countinghouse.Decimal.Overflow

/-! # The position of a bank account

On a given date, the balance the bank reports and the balance of the ledger
differ by the payments that are posted but not on a statement yet: those that
leave the account are outstanding, those that reach it are in transit.  What is
left is the difference to explain. -/

set_option autoImplicit false

namespace Countinghouse

structure Summary where
  asOf : Date
  closing : Decimal
  system : Decimal
  unmatched : Nat
  matched : Nat
  outstanding : Decimal
  inTransit : Decimal
  difference : Decimal
  deriving DecidableEq

namespace Summary

def checkClosing (closing : Decimal) : Except ReconciliationError Unit :=
  if closing.Storable then .ok () else .error (.closingBalanceOutOfRange closing)

/-- A payment that the bank does not know of yet. -/
def Pending (asOf : Date) (payment : Payment) : Prop :=
  payment.status = .posted ∧ payment.isReconciled = false ∧ payment.date ≤ asOf

instance (asOf : Date) (payment : Payment) : Decidable (Pending asOf payment) :=
  inferInstanceAs (Decidable (_ ∧ _))

/-- Outstanding payments and deposits in transit, summed one after the other. -/
def addPayments (outstanding inTransit : Decimal) :
    List Payment → Except Overflow (Decimal × Decimal)
  | [] => .ok (outstanding, inTransit)
  | payment :: rest =>
      if payment.amount < .zero then
        match outstanding.minus payment.amount with
        | .error e => .error e
        | .ok outstanding' => addPayments outstanding' inTransit rest
      else
        match inTransit.plus payment.amount with
        | .error e => .error e
        | .ok inTransit' => addPayments outstanding inTransit' rest

def compute (asOf : Date) (closing system : Decimal) (lines : List StatementLine)
    (payments : List Payment) : Except Overflow Summary := do
  let inRange := lines.filter fun line => decide (line.date ≤ asOf)
  let matched := (inRange.filter (·.isReconciled)).length
  let (outstanding, inTransit) ←
    addPayments .zero .zero (payments.filter fun payment => decide (Pending asOf payment))
  let difference ← closing.minus system
  let difference ← difference.minus outstanding
  let difference ← difference.plus inTransit
  return {
    asOf, closing, system, matched, outstanding, inTransit, difference
    unmatched := inRange.length - matched }

def isReconciled (s : Summary) : Bool := s.difference.isZero

end Summary

end Countinghouse
