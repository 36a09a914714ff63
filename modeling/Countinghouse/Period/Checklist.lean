import Countinghouse.Calendar.Instant
import Countinghouse.Ident

/-! # The checklist of a period

What has to be signed off before a period is closed.  An item is complete once
it has the time of its completion. -/

set_option autoImplicit false

namespace Countinghouse

structure ChecklistItem where
  code : String
  label : String
  completedBy : Option UserId
  completedAt : Option Instant
  deriving DecidableEq

namespace ChecklistItem

def isComplete (item : ChecklistItem) : Bool := item.completedAt.isSome

def signedOff (item : ChecklistItem) (actor : UserId) (now : Instant) : ChecklistItem :=
  { item with completedBy := some actor, completedAt := some now }

def outstanding (checklist : List ChecklistItem) : List String :=
  (checklist.filter fun item => !item.isComplete).map (·.code)

def baselineLabels : List (String × String) :=
  [("BANK_RECONCILED", "Bank accounts reconciled"),
    ("AP_SUBLEDGER_RECONCILED", "Payables subledger reconciled to control account"),
    ("AR_SUBLEDGER_RECONCILED", "Receivables subledger reconciled to control account"),
    ("ACCRUALS_POSTED", "Accruals and prepayments posted"),
    ("DEPRECIATION_POSTED", "Depreciation run posted"),
    ("TRIAL_BALANCE_REVIEWED", "Trial balance reviewed")]

def baseline : List ChecklistItem :=
  baselineLabels.map fun (code, label) => ⟨code, label, none, none⟩

end ChecklistItem

end Countinghouse
