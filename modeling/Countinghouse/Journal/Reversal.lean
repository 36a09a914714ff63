import Countinghouse.Journal.Error
import Countinghouse.Policy.Check

/-! # Reversals

A posted journal is corrected by a second journal with every line's sides
exchanged, once. -/

set_option autoImplicit false

namespace Countinghouse.Reversal

/-- Whether a journal may be reversed; `existing` is the reversal it has. -/
def check (journal : JournalId) (status : JournalStatus) (existing : Option JournalId)
    (held : PermissionSet) : Except LedgerError Unit := do
  held.require .journalCreate
  if status ≠ .posted then throw (.invalidTransition status .draft)
  match existing with
  | some reversal => throw (.alreadyReversed journal reversal)
  | none => return ()

def lines (booked : List Line) : List Line := booked.map Line.swap

end Countinghouse.Reversal
