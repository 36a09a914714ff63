/-! # Permissions

The closed catalog of what a user may be allowed to do.  A set of permissions is
a list whose members count and whose order and repetitions do not; sets that are
computed are written in the order of the catalog. -/

set_option autoImplicit false

namespace Countinghouse

inductive Permission where
  | journalCreate
  | journalSubmit
  | journalApprove
  | journalPost
  | journalFinalPost
  | periodClose
  | periodLock
  | periodReopen
  | checklistComplete
  | recurringGenerate
  | bankReconcile
  | sodManage
  deriving DecidableEq, Repr

namespace Permission

def all : List Permission :=
  [journalCreate, journalSubmit, journalApprove, journalPost, journalFinalPost, periodClose,
    periodLock, periodReopen, checklistComplete, recurringGenerate, bankReconcile, sodManage]

theorem mem_all (p : Permission) : p ∈ all := by cases p <;> decide

def code : Permission → String
  | journalCreate => "journal.create"
  | journalSubmit => "journal.submit"
  | journalApprove => "journal.approve"
  | journalPost => "journal.post"
  | journalFinalPost => "journal.final_post"
  | periodClose => "period.close"
  | periodLock => "period.lock"
  | periodReopen => "period.reopen"
  | checklistComplete => "period.checklist.complete"
  | recurringGenerate => "recurring.generate"
  | bankReconcile => "bank.reconcile"
  | sodManage => "sod.manage"

def description : Permission → String
  | journalCreate => "Create and edit draft journals"
  | journalSubmit => "Submit journals for approval"
  | journalApprove => "Approve or reject submitted journals"
  | journalPost => "Post approved journals"
  | journalFinalPost => "Post journals on controller-only accounts"
  | periodClose => "Close accounting periods"
  | periodLock => "Lock closed accounting periods"
  | periodReopen => "Reopen closed or locked periods"
  | checklistComplete => "Sign off period-close checklist items"
  | recurringGenerate => "Generate journals from recurring templates"
  | bankReconcile => "Reconcile bank statements"
  | sodManage => "Manage role grants"

/-- The permission with a given code; codes are exact. -/
def ofCode? (s : String) : Option Permission := all.find? (·.code == s)

end Permission

abbrev PermissionSet := List Permission

namespace PermissionSet

def ofHolds (holds : Permission → Bool) : PermissionSet := Permission.all.filter holds

/-- The members of a list, each once, in the order of the catalog. -/
def ofList (ps : List Permission) : PermissionSet := ofHolds fun p => decide (p ∈ ps)

theorem mem_ofHolds {holds : Permission → Bool} {p : Permission} :
    p ∈ ofHolds holds ↔ holds p = true := by
  simp [ofHolds, Permission.mem_all]

theorem mem_ofList {ps : List Permission} {p : Permission} : p ∈ ofList ps ↔ p ∈ ps := by
  simp [ofList, mem_ofHolds]

end PermissionSet

end Countinghouse
