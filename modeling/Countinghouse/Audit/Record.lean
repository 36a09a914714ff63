import Countinghouse.Calendar.Instant
import Countinghouse.Failure
import Countinghouse.Ident

/-! # Audit records

Every attempt to change something leaves a record: who acted on what, with what
outcome.  A record of a failure carries the code and the message of it. -/

set_option autoImplicit false

namespace Countinghouse

inductive AuditAction where
  | journalCreate
  | journalUpdate
  | journalSubmit
  | journalApprove
  | journalReject
  | journalPost
  | journalReverse
  | periodCreate
  | periodClose
  | periodLock
  | periodReopen
  | checklistComplete
  | templateCreate
  | recurringGenerate
  | bankMatch
  | bankAdjustment
  | roleCreate
  | grantPermission
  | assignRole
  deriving DecidableEq, Repr

namespace AuditAction

def all : List AuditAction :=
  [journalCreate, journalUpdate, journalSubmit, journalApprove, journalReject, journalPost,
    journalReverse, periodCreate, periodClose, periodLock, periodReopen, checklistComplete,
    templateCreate, recurringGenerate, bankMatch, bankAdjustment, roleCreate, grantPermission,
    assignRole]

def code : AuditAction → String
  | journalCreate => "journal.create"
  | journalUpdate => "journal.update"
  | journalSubmit => "journal.submit"
  | journalApprove => "journal.approve"
  | journalReject => "journal.reject"
  | journalPost => "journal.post"
  | journalReverse => "journal.reverse"
  | periodCreate => "period.create"
  | periodClose => "period.close"
  | periodLock => "period.lock"
  | periodReopen => "period.reopen"
  | checklistComplete => "period.checklist.complete"
  | templateCreate => "recurring.create_template"
  | recurringGenerate => "recurring.generate"
  | bankMatch => "bank.match"
  | bankAdjustment => "bank.adjustment"
  | roleCreate => "sod.create_role"
  | grantPermission => "sod.grant_permission"
  | assignRole => "sod.assign_role"

def ofCode? (s : String) : Option AuditAction := all.find? (·.code == s)

end AuditAction

inductive AuditOutcome where
  | success
  | failure
  deriving DecidableEq, Repr

namespace AuditOutcome

def all : List AuditOutcome := [success, failure]

def code : AuditOutcome → String
  | success => "success"
  | failure => "failure"

def ofCode? (s : String) : Option AuditOutcome := all.find? (·.code == s)

end AuditOutcome

structure AuditEntry where
  tenant : TenantId
  actor : UserId
  action : AuditAction
  entity : EntityId
  outcome : AuditOutcome
  errorCode : Option String
  detail : Option Json

namespace AuditEntry

def start (tenant : TenantId) (actor : UserId) (action : AuditAction) (entity : EntityId) :
    AuditEntry :=
  ⟨tenant, actor, action, entity, .success, none, none⟩

def withDetail (entry : AuditEntry) (detail : Json) : AuditEntry :=
  { entry with detail := some detail }

/-- The message of a failure joins the detail where that is an object, and
replaces it otherwise. -/
def failed (entry : AuditEntry) (f : Failure) : AuditEntry :=
  let members := match entry.detail with
    | some (.obj members) => members
    | _ => []
  { entry with
    outcome := .failure
    errorCode := some f.kind.code
    detail := some (.obj (Json.setMember "error" (.str f.message) members)) }

def finish {α : Type} (entry : AuditEntry) : Except Failure α → AuditEntry
  | .ok _ => entry
  | .error f => entry.failed f

end AuditEntry

end Countinghouse
