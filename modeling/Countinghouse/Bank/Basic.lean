import Countinghouse.Calendar.Date
import Countinghouse.Decimal.Basic
import Countinghouse.Ident
import Countinghouse.Text.Casing

/-! # Statement lines and payments

The two sides of a bank reconciliation: what the bank reports and what was paid.
Amounts that leave the account are negative. -/

set_option autoImplicit false

namespace Countinghouse

inductive PaymentStatus where
  | pending
  | posted
  | voided
  deriving DecidableEq, Repr

namespace PaymentStatus

def all : List PaymentStatus := [pending, posted, voided]

def code : PaymentStatus → String
  | pending => "pending"
  | posted => "posted"
  | voided => "voided"

def ofCode? (s : String) : Option PaymentStatus := all.find? (·.code == s)

def parse? (s : String) : Option PaymentStatus := ofCode? (Text.smalls s)

end PaymentStatus

structure StatementLine where
  id : StatementLineId
  bank : BankAccountId
  date : Date
  description : String
  amount : Decimal
  /-- The payment it was matched to. -/
  matched : Option PaymentId
  deriving DecidableEq

def StatementLine.isReconciled (line : StatementLine) : Bool := line.matched.isSome

structure Payment where
  id : PaymentId
  bank : BankAccountId
  date : Date
  amount : Decimal
  status : PaymentStatus
  isReconciled : Bool
  deriving DecidableEq

end Countinghouse
