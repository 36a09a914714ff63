import Countinghouse.Period.Checklist
import Countinghouse.Period.Error
import Countinghouse.Policy.Check

/-! # Closing, locking and reopening

An open period is closed once its checklist is complete, a closed one is locked,
and either is reopened.  Closing a closed period or locking a locked one is
allowed and changes nothing. -/

set_option autoImplicit false

namespace Countinghouse

inductive PeriodAction where
  | transition (start target : PeriodStatus) (actor : UserId) (time : Instant)
  | unchanged (status : PeriodStatus)
  deriving DecidableEq

def PeriodAction.newStatus : PeriodAction → PeriodStatus
  | transition _ target _ _ => target
  | unchanged status => status

inductive SignOff where
  | completed (actor : UserId) (time : Instant)
  | alreadyComplete
  deriving DecidableEq

namespace PeriodStatus

def close (status : PeriodStatus) (actor : UserId) (held : PermissionSet)
    (checklist : List ChecklistItem) (requireChecklist : Bool) (now : Instant) :
    Except PeriodError PeriodAction := do
  held.require .periodClose
  match status with
  | .open =>
      let outstanding := ChecklistItem.outstanding checklist
      if requireChecklist ∧ outstanding ≠ [] then throw (.checklistIncomplete outstanding)
      return .transition status .closed actor now
  | .closed => return .unchanged status
  | .locked => throw (.invalidTransition status .closed)

def lock (status : PeriodStatus) (actor : UserId) (held : PermissionSet) (now : Instant) :
    Except PeriodError PeriodAction := do
  held.require .periodLock
  match status with
  | .closed => return .transition status .locked actor now
  | .locked => return .unchanged status
  | .open => throw (.invalidTransition status .locked)

def reopen (status : PeriodStatus) (actor : UserId) (held : PermissionSet) (now : Instant) :
    Except PeriodError PeriodAction := do
  held.require .periodReopen
  match status with
  | .closed | .locked => return .transition status .open actor now
  | .open => throw (.invalidTransition status .open)

end PeriodStatus

def ChecklistItem.complete (item : ChecklistItem) (actor : UserId) (held : PermissionSet)
    (now : Instant) : Except PeriodError SignOff := do
  held.require .checklistComplete
  if item.isComplete then return .alreadyComplete
  return .completed actor now

end Countinghouse
