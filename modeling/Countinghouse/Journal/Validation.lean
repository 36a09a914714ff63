import Countinghouse.Decimal.Column
import Countinghouse.Journal.Error

/-! # Validation of lines

A journal can be booked when it has lines, each line has a storable amount on
exactly one side of an account that takes postings, and debits equal credits.
Lines are judged one after the other, the amounts of a line before its account;
the totals are judged last. -/

set_option autoImplicit false

namespace Countinghouse

def Totals.addLines (acc : Totals) (index : Nat) : List Line → Except LedgerError Totals
  | [] => .ok acc
  | line :: rest =>
      match acc.debit.add? line.debit, acc.credit.add? line.credit with
      | some debit, some credit => addLines ⟨debit, credit⟩ (index + 1) rest
      | _, _ => .error (.amountOutOfRange index)

def Totals.ofLines (lines : List Line) : Except LedgerError Totals := Totals.zero.addLines 0 lines

/-- The amounts of a line: none negative, exactly one not zero, and that one
storable. -/
def Line.checkAmounts (line : Line) (index : Nat) : Except LedgerError Unit :=
  if line.debit < .zero ∨ line.credit < .zero then .error (.negativeAmount index)
  else if line.debit.isZero ∧ line.credit.isZero then .error (.zeroAmount index)
  else if ¬ line.debit.isZero ∧ ¬ line.credit.isZero then .error (.bothSides index)
  else if ¬ line.amount < Decimal.columnLimit then .error (.amountOutOfRange index)
  else if ¬ line.amount.FitsScale then .error (.amountPrecision index)
  else .ok ()

namespace Chart

def usable (chart : Chart) (id : AccountId) : Except LedgerError Account :=
  match chart id with
  | none => .error (.accountNotFound id)
  | some account =>
      if ¬ account.active then .error (.accountInactive id)
      else if ¬ account.directPosting then .error (.accountNoDirectPosting id)
      else .ok account

def checkLines (chart : Chart) (index : Nat) : List Line → Except LedgerError Unit
  | [] => .ok ()
  | line :: rest =>
      match line.checkAmounts index with
      | .error e => .error e
      | .ok _ =>
          match chart.usable line.account with
          | .error e => .error e
          | .ok _ => checkLines chart (index + 1) rest

def validate (chart : Chart) (lines : List Line) : Except LedgerError Totals :=
  if lines.isEmpty then .error .noLines
  else
    match chart.checkLines 0 lines with
    | .error e => .error e
    | .ok _ =>
        match Totals.ofLines lines with
        | .error e => .error e
        | .ok totals =>
            if totals.Balanced then .ok totals
            else .error (.unbalanced totals.debit totals.credit)

def needsFinalPost (chart : Chart) (lines : List Line) : Bool :=
  (lines.filterMap fun line => chart line.account).any (·.finalPost)

end Chart

def Account.expectType (account : Account) (expected : AccountType) : Except LedgerError Unit :=
  if account.type = expected then .ok () else .error (.accountTypeMismatch account.id expected)

end Countinghouse
