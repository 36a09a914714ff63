import Countinghouse.Journal.Validation
import Countinghouse.Policy.Check
import Countinghouse.Text.Blank

/-! # The life of a journal

Whether a journal may be drafted, changed, submitted, approved, sent back or
posted.  Each question is answered from what is recorded of the journal, the
permissions of the actor, the rules of the tenant and the period; the answer is
the action to record, or the refusal. -/

set_option autoImplicit false

namespace Countinghouse

structure Draft where
  period : PeriodId
  totals : Totals
  deriving DecidableEq

structure JournalState where
  status : JournalStatus
  createdBy : UserId
  submittedBy : Option UserId
  approvedBy : Option UserId
  totals : Totals
  deriving DecidableEq

inductive JournalAction where
  | submit (actor : UserId)
  | approve (actor : UserId)
  | reject (actor : UserId) (reason : String)
  | post (actor : UserId)
  deriving DecidableEq

namespace JournalAction

def newStatus : JournalAction → JournalStatus
  | submit _ => .submitted
  | approve _ => .approved
  | reject _ _ => .draft
  | post _ => .posted

def actor : JournalAction → UserId
  | submit actor | approve actor | reject actor _ | post actor => actor

end JournalAction

/-- The draft of lines on a date: its period comes from the calendar and its
totals from the lines. -/
def Draft.prepare (lines : List Line) (date : Date) (periods : List Period) (chart : Chart) :
    Except LedgerError Draft :=
  match Period.find? periods date with
  | none => .error (.noPeriodForDate date)
  | some period =>
      match chart.validate lines with
      | .error e => .error e
      | .ok totals => .ok ⟨period.id, totals⟩

def Draft.create (held : PermissionSet) (lines : List Line) (date : Date) (periods : List Period)
    (chart : Chart) : Except LedgerError Draft := do
  held.require .journalCreate
  Draft.prepare lines date periods chart

def JournalStatus.requireEditable (status : JournalStatus) : Except LedgerError Unit :=
  if status.editable then .ok () else .error (.cannotModify status)

def Draft.edit (status : JournalStatus) (held : PermissionSet) (lines : List Line) (date : Date)
    (periods : List Period) (chart : Chart) : Except LedgerError Draft := do
  held.require .journalCreate
  status.requireEditable
  Draft.prepare lines date periods chart

def JournalStatus.require (status expected target : JournalStatus) : Except LedgerError Unit :=
  if status = expected then .ok () else .error (.invalidTransition status target)

def Period.requireOpen (period : Period) : Except LedgerError Unit :=
  if period.status.allowsPosting then .ok ()
  else .error (.periodClosed period.id period.status)

def Totals.requireBalanced (totals : Totals) : Except LedgerError Unit :=
  if totals.Balanced then .ok () else .error (.unbalanced totals.debit totals.credit)

/-- The permission that posting exercises: the final one where it is needed,
otherwise either that is held, the basic one first. -/
def PermissionSet.toPost (held : PermissionSet) (finalPost : Bool) :
    Except PolicyError Permission :=
  if finalPost then do
    held.require .journalFinalPost
    return .journalFinalPost
  else held.requireAny [.journalPost, .journalFinalPost]

namespace JournalState

/-- Those who prepared the journal: its creator and its submitter. -/
def makers (state : JournalState) : List UserId := state.createdBy :: state.submittedBy.toList

/-- The recorded steps, with the permission each exercised. -/
def priorSteps (state : JournalState) : List PriorStep :=
  ⟨state.createdBy, .journalCreate⟩ ::
    ((state.submittedBy.map fun actor => (⟨actor, .journalSubmit⟩ : PriorStep)).toList ++
      (state.approvedBy.map fun actor => (⟨actor, .journalApprove⟩ : PriorStep)).toList)

def checkDuties (state : JournalState) (actor : UserId) (p : Permission) (rules : List Rule) :
    Except PolicyError Unit :=
  Action.check ⟨actor, p, state.makers, state.priorSteps⟩ rules

def submit (state : JournalState) (actor : UserId) (held : PermissionSet) (rules : List Rule)
    (period : Period) : Except LedgerError JournalAction := do
  held.require .journalSubmit
  state.status.require .draft .submitted
  state.totals.requireBalanced
  state.checkDuties actor .journalSubmit rules
  period.requireOpen
  return .submit actor

def approve (state : JournalState) (actor : UserId) (held : PermissionSet) (rules : List Rule) :
    Except LedgerError JournalAction := do
  held.require .journalApprove
  state.status.require .submitted .approved
  state.checkDuties actor .journalApprove rules
  return .approve actor

def reject (state : JournalState) (actor : UserId) (held : PermissionSet) (reason : String) :
    Except LedgerError JournalAction := do
  held.require .journalApprove
  if Text.allBlank reason then throw .rejectionReasonRequired
  match state.status with
  | .submitted | .approved => return .reject actor reason
  | status => throw (.invalidTransition status .draft)

def post (state : JournalState) (actor : UserId) (held : PermissionSet) (rules : List Rule)
    (finalPost : Bool) (period : Period) : Except LedgerError JournalAction := do
  let exercised ← held.toPost finalPost
  state.status.require .approved .posted
  state.checkDuties actor exercised rules
  period.requireOpen
  return .post actor

def after (state : JournalState) : JournalAction → JournalState
  | .submit actor => { state with status := .submitted, submittedBy := some actor }
  | .approve actor => { state with status := .approved, approvedBy := some actor }
  | .reject _ _ => { state with status := .draft, submittedBy := none, approvedBy := none }
  | .post _ => { state with status := .posted }

end JournalState

end Countinghouse
