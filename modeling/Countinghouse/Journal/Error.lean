import Countinghouse.Journal.Account
import Countinghouse.Journal.Line
import Countinghouse.Journal.Status
import Countinghouse.Period.Basic
import Countinghouse.Policy.Error

/-! # Refusals of the ledger

Lines are named by their position, counted from zero. -/

set_option autoImplicit false

namespace Countinghouse

inductive LedgerError where
  | noLines
  | zeroAmount (line : Nat)
  | negativeAmount (line : Nat)
  | bothSides (line : Nat)
  | amountOutOfRange (line : Nat)
  | amountPrecision (line : Nat)
  | unbalanced (debit credit : Decimal)
  | accountNotFound (account : AccountId)
  | accountInactive (account : AccountId)
  | accountNoDirectPosting (account : AccountId)
  | accountTypeMismatch (account : AccountId) (expected : AccountType)
  | noPeriodForDate (date : Date)
  | periodClosed (period : PeriodId) (status : PeriodStatus)
  | invalidTransition (start target : JournalStatus)
  | cannotModify (status : JournalStatus)
  | rejectionReasonRequired
  | alreadyReversed (journal reversal : JournalId)
  | journalNotFound (journal : JournalId)
  | policy (cause : PolicyError)
  | database (reason : String)
  deriving DecidableEq

namespace LedgerError

def name : LedgerError → String
  | noLines => "NoLines"
  | zeroAmount _ => "ZeroAmount"
  | negativeAmount _ => "NegativeAmount"
  | bothSides _ => "BothSides"
  | amountOutOfRange _ => "AmountOutOfRange"
  | amountPrecision _ => "AmountPrecision"
  | unbalanced _ _ => "Unbalanced"
  | accountNotFound _ => "AccountNotFound"
  | accountInactive _ => "AccountInactive"
  | accountNoDirectPosting _ => "AccountNoDirectPosting"
  | accountTypeMismatch _ _ => "AccountTypeMismatch"
  | noPeriodForDate _ => "NoPeriodForDate"
  | periodClosed _ _ => "PeriodClosed"
  | invalidTransition _ _ => "InvalidTransition"
  | cannotModify _ => "CannotModify"
  | rejectionReasonRequired => "RejectionReasonRequired"
  | alreadyReversed _ _ => "AlreadyReversed"
  | journalNotFound _ => "JournalNotFound"
  | policy cause => "Policy." ++ cause.name
  | database _ => "Database"

def message : LedgerError → String
  | noLines => "Journal must have at least one line"
  | zeroAmount line => "Line " ++ toString line ++ " has a zero amount"
  | negativeAmount line => "Line " ++ toString line ++ " has a negative amount"
  | bothSides line => "Line " ++ toString line ++ " must be either a debit or a credit, not both"
  | amountOutOfRange line => "Line " ++ toString line ++ " amount is out of range"
  | amountPrecision line => "Line " ++ toString line ++ " has more than 4 decimal places"
  | unbalanced debit credit =>
      "Journal is not balanced. Debit: " ++ debit.text ++ ", Credit: " ++ credit.text
  | accountNotFound account => "Account not found: " ++ account.text
  | accountInactive account => "Account " ++ account.text ++ " is inactive"
  | accountNoDirectPosting account => "Account " ++ account.text ++ " does not allow direct posting"
  | accountTypeMismatch account expected =>
      "Account " ++ account.text ++ " is not a " ++ expected.code ++ " account"
  | noPeriodForDate date => "No accounting period contains " ++ date.text
  | periodClosed period status =>
      "Period " ++ period.text ++ " is " ++ status.code ++
        "; journals cannot be submitted or posted"
  | invalidTransition start target =>
      "Invalid status transition from " ++ start.code ++ " to " ++ target.code
  | cannotModify status => "Cannot modify a " ++ status.code ++ " journal"
  | rejectionReasonRequired => "Rejection reason is required"
  | alreadyReversed journal reversal =>
      "Journal " ++ journal.text ++ " is already reversed by " ++ reversal.text
  | journalNotFound journal => "Journal not found: " ++ journal.text
  | policy cause => cause.message
  | database reason => "Database error: " ++ reason

def code : LedgerError → String
  | noLines => "NO_LINES"
  | zeroAmount _ => "ZERO_AMOUNT"
  | negativeAmount _ => "NEGATIVE_AMOUNT"
  | bothSides _ => "BOTH_SIDES"
  | amountOutOfRange _ => "AMOUNT_OUT_OF_RANGE"
  | amountPrecision _ => "AMOUNT_PRECISION"
  | unbalanced _ _ => "UNBALANCED_JOURNAL"
  | accountNotFound _ => "ACCOUNT_NOT_FOUND"
  | accountInactive _ => "ACCOUNT_INACTIVE"
  | accountNoDirectPosting _ => "ACCOUNT_NO_DIRECT_POSTING"
  | accountTypeMismatch _ _ => "ACCOUNT_TYPE_MISMATCH"
  | noPeriodForDate _ => "NO_PERIOD_FOR_DATE"
  | periodClosed _ _ => "PERIOD_CLOSED"
  | invalidTransition _ _ | cannotModify _ => "INVALID_STATE_TRANSITION"
  | rejectionReasonRequired => "REJECTION_REASON_REQUIRED"
  | alreadyReversed _ _ => "ALREADY_REVERSED"
  | journalNotFound _ => "JOURNAL_NOT_FOUND"
  | policy cause => cause.code
  | database _ => "DATABASE_ERROR"

def status : LedgerError → Nat
  | noLines | zeroAmount _ | negativeAmount _ | bothSides _ | amountOutOfRange _
  | amountPrecision _ | unbalanced _ _ | accountNotFound _ | accountInactive _
  | accountNoDirectPosting _ | accountTypeMismatch _ _ | noPeriodForDate _
  | rejectionReasonRequired => 400
  | journalNotFound _ => 404
  | periodClosed _ _ | invalidTransition _ _ | cannotModify _ | alreadyReversed _ _ => 409
  | policy cause => cause.status
  | database _ => 500

def failure (e : LedgerError) : Failure :=
  match e with
  | noLines | zeroAmount _ | negativeAmount _ | bothSides _ | amountOutOfRange _
  | amountPrecision _ | unbalanced _ _ | accountNotFound _ | accountInactive _
  | accountNoDirectPosting _ | accountTypeMismatch _ _ | noPeriodForDate _
  | rejectionReasonRequired => ⟨.validation, e.message⟩
  | periodClosed _ _ => ⟨.periodClosed, e.message⟩
  | invalidTransition _ _ | cannotModify _ | alreadyReversed _ _ =>
      ⟨.invalidStateTransition, e.message⟩
  | journalNotFound _ => ⟨.notFound, e.message⟩
  | policy cause => cause.failure
  | database _ => ⟨.database, e.message⟩

instance : Refusal LedgerError := ⟨name, message, code, status, failure⟩

instance : MonadLift (Except PolicyError) (Except LedgerError) :=
  ⟨fun r => r.mapError policy⟩

end LedgerError

end Countinghouse
