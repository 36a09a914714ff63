import Countinghouse.Bank.Basic
import Countinghouse.Journal.Error

/-! # Refusals of the reconciliation -/

set_option autoImplicit false

namespace Countinghouse

inductive ReconciliationError where
  | amountMismatch (statement payment : Decimal)
  | statementLineReconciled (line : StatementLineId)
  | paymentReconciled (payment : PaymentId)
  | bankAccountMismatch
  | paymentNotPosted (payment : PaymentId)
  | closingBalanceOutOfRange (balance : Decimal)
  | nothingToAdjust
  | matchablePairsRemain (count : Nat)
  | statementLineNotFound (line : StatementLineId)
  | paymentNotFound (payment : PaymentId)
  | bankAccountNotFound (bank : BankAccountId)
  | ledger (cause : LedgerError)
  | policy (cause : PolicyError)
  | database (reason : String)
  deriving DecidableEq

namespace ReconciliationError

def name : ReconciliationError → String
  | amountMismatch _ _ => "AmountMismatch"
  | statementLineReconciled _ => "StatementLineReconciled"
  | paymentReconciled _ => "PaymentReconciled"
  | bankAccountMismatch => "BankAccountMismatch"
  | paymentNotPosted _ => "PaymentNotPosted"
  | closingBalanceOutOfRange _ => "ClosingBalanceOutOfRange"
  | nothingToAdjust => "NothingToAdjust"
  | matchablePairsRemain _ => "MatchablePairsRemain"
  | statementLineNotFound _ => "StatementLineNotFound"
  | paymentNotFound _ => "PaymentNotFound"
  | bankAccountNotFound _ => "BankAccountNotFound"
  | ledger cause => "Ledger." ++ cause.name
  | policy cause => "Policy." ++ cause.name
  | database _ => "Database"

def message : ReconciliationError → String
  | amountMismatch statement payment =>
      "Statement amount " ++ statement.text ++ " does not equal payment amount " ++ payment.text
  | statementLineReconciled line => "Statement line " ++ line.text ++ " is already reconciled"
  | paymentReconciled payment => "Payment " ++ payment.text ++ " is already reconciled"
  | bankAccountMismatch => "Statement line and payment belong to different bank accounts"
  | paymentNotPosted payment => "Payment " ++ payment.text ++ " is not posted"
  | closingBalanceOutOfRange balance =>
      "Closing balance " ++ balance.text ++ " is out of range or has more than 4 decimal places"
  | nothingToAdjust => "Reconciliation difference is zero; no adjustment needed"
  | matchablePairsRemain count =>
      toString count ++ " matchable statement line(s) remain; match them before adjusting"
  | statementLineNotFound line => "Statement line " ++ line.text ++ " not found"
  | paymentNotFound payment => "Payment " ++ payment.text ++ " not found"
  | bankAccountNotFound bank => "Bank account " ++ bank.text ++ " not found"
  | ledger cause => cause.message
  | policy cause => cause.message
  | database reason => "Database error: " ++ reason

def code : ReconciliationError → String
  | amountMismatch _ _ => "AMOUNT_MISMATCH"
  | statementLineReconciled _ | paymentReconciled _ => "ALREADY_RECONCILED"
  | bankAccountMismatch => "BANK_ACCOUNT_MISMATCH"
  | paymentNotPosted _ => "PAYMENT_NOT_POSTED"
  | closingBalanceOutOfRange _ => "CLOSING_BALANCE_OUT_OF_RANGE"
  | nothingToAdjust => "NOTHING_TO_ADJUST"
  | matchablePairsRemain _ => "MATCHABLE_PAIRS_REMAIN"
  | statementLineNotFound _ => "STATEMENT_LINE_NOT_FOUND"
  | paymentNotFound _ => "PAYMENT_NOT_FOUND"
  | bankAccountNotFound _ => "BANK_ACCOUNT_NOT_FOUND"
  | ledger cause => cause.code
  | policy cause => cause.code
  | database _ => "DATABASE_ERROR"

def status : ReconciliationError → Nat
  | bankAccountMismatch | paymentNotPosted _ | closingBalanceOutOfRange _ | nothingToAdjust => 400
  | statementLineNotFound _ | paymentNotFound _ | bankAccountNotFound _ => 404
  | amountMismatch _ _ | statementLineReconciled _ | paymentReconciled _
  | matchablePairsRemain _ => 409
  | ledger cause => cause.status
  | policy cause => cause.status
  | database _ => 500

def failure (e : ReconciliationError) : Failure :=
  match e with
  | amountMismatch _ _ => ⟨.amountMismatch, e.message⟩
  | statementLineReconciled _ | paymentReconciled _ => ⟨.alreadyReconciled, e.message⟩
  | bankAccountMismatch | paymentNotPosted _ | closingBalanceOutOfRange _ | nothingToAdjust =>
      ⟨.validation, e.message⟩
  | matchablePairsRemain _ => ⟨.invalidStateTransition, e.message⟩
  | statementLineNotFound _ | paymentNotFound _ | bankAccountNotFound _ => ⟨.notFound, e.message⟩
  | ledger cause => cause.failure
  | policy cause => cause.failure
  | database _ => ⟨.database, e.message⟩

instance : Refusal ReconciliationError := ⟨name, message, code, status, failure⟩

instance : MonadLift (Except PolicyError) (Except ReconciliationError) :=
  ⟨fun r => r.mapError policy⟩

instance : MonadLift (Except LedgerError) (Except ReconciliationError) :=
  ⟨fun r => r.mapError ledger⟩

end ReconciliationError

end Countinghouse
