import Countinghouse.Json.Basic

/-! # Failures

Whatever goes wrong in a request ends as a failure: one of thirteen kinds with
a message.  The kind fixes the status and the code of the answer.  The message
of a failure of the service itself is not shown to its caller. -/

set_option autoImplicit false

namespace Countinghouse

inductive FailureKind where
  | unauthorized
  | validation
  | permissionDenied
  | sodViolation
  | invalidStateTransition
  | periodClosed
  | checklistIncomplete
  | amountMismatch
  | alreadyReconciled
  | alreadyGenerated
  | notFound
  | database
  | internal
  deriving DecidableEq, Repr

namespace FailureKind

def all : List FailureKind :=
  [unauthorized, validation, permissionDenied, sodViolation, invalidStateTransition,
    periodClosed, checklistIncomplete, amountMismatch, alreadyReconciled, alreadyGenerated,
    notFound, database, internal]

def name : FailureKind → String
  | unauthorized => "Unauthorized"
  | validation => "Validation"
  | permissionDenied => "PermissionDenied"
  | sodViolation => "SodViolation"
  | invalidStateTransition => "InvalidStateTransition"
  | periodClosed => "PeriodClosed"
  | checklistIncomplete => "ChecklistIncomplete"
  | amountMismatch => "AmountMismatch"
  | alreadyReconciled => "AlreadyReconciled"
  | alreadyGenerated => "AlreadyGenerated"
  | notFound => "NotFound"
  | database => "Database"
  | internal => "Internal"

def ofName? (s : String) : Option FailureKind := all.find? (·.name == s)

def code : FailureKind → String
  | unauthorized => "UNAUTHORIZED"
  | validation => "VALIDATION_ERROR"
  | permissionDenied => "PERMISSION_DENIED"
  | sodViolation => "SOD_VIOLATION"
  | invalidStateTransition => "INVALID_STATE_TRANSITION"
  | periodClosed => "PERIOD_CLOSED"
  | checklistIncomplete => "CHECKLIST_INCOMPLETE"
  | amountMismatch => "AMOUNT_MISMATCH"
  | alreadyReconciled => "ALREADY_RECONCILED"
  | alreadyGenerated => "ALREADY_GENERATED"
  | notFound => "NOT_FOUND"
  | database => "DATABASE_ERROR"
  | internal => "INTERNAL_ERROR"

def status : FailureKind → Nat
  | unauthorized => 401
  | validation => 400
  | permissionDenied | sodViolation => 403
  | invalidStateTransition | periodClosed | checklistIncomplete | amountMismatch
  | alreadyReconciled | alreadyGenerated => 409
  | notFound => 404
  | database | internal => 500

def label : FailureKind → String
  | unauthorized => "Authentication failed"
  | validation => "Validation error"
  | permissionDenied => "Permission denied"
  | sodViolation => "Segregation of duties violation"
  | invalidStateTransition => "Invalid state transition"
  | periodClosed => "Period closed"
  | checklistIncomplete => "Checklist incomplete"
  | amountMismatch => "Amount mismatch"
  | alreadyReconciled => "Already reconciled"
  | alreadyGenerated => "Already generated"
  | notFound => "Not found"
  | database => "Database error"
  | internal => "Internal error"

def isServer : FailureKind → Bool
  | database | internal => true
  | _ => false

end FailureKind

structure Failure where
  kind : FailureKind
  message : String
  deriving DecidableEq, Repr

namespace Failure

def text (f : Failure) : String := f.kind.label ++ ": " ++ f.message

def shown (f : Failure) : String := if f.kind.isServer then "An error occurred" else f.message

def body (f : Failure) : Json := .obj [("error", .str f.kind.code), ("message", .str f.shown)]

def toJson (f : Failure) : Json :=
  .obj [("kind", .str f.kind.name), ("code", .str f.kind.code), ("status", .ofNat f.kind.status),
    ("message", .str f.message), ("display", .str f.text), ("serverError", .bool f.kind.isServer)]

end Failure

/-- A family of causes for refusing a request.  Each cause has a name, a
message, a code and a status of its own, and becomes a failure. -/
class Refusal (ε : Type) where
  name : ε → String
  message : ε → String
  code : ε → String
  status : ε → Nat
  failure : ε → Failure

def Refusal.members {ε : Type} [Refusal ε] (e : ε) : List (String × Json) :=
  [("error", .str (name e)), ("message", .str (message e)), ("code", .str (code e)),
    ("http", .ofNat (status e)), ("app", (failure e).toJson)]

end Countinghouse
