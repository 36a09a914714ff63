import Countinghouse.Ident
import Countinghouse.Text.Casing

/-! # The status of a journal

A journal is drafted, submitted, approved and posted.  Until it is posted it can
be sent back to the draft; a posted journal does not change any more. -/

set_option autoImplicit false

namespace Countinghouse

inductive JournalStatus where
  | draft
  | submitted
  | approved
  | posted
  deriving DecidableEq, Repr

namespace JournalStatus

def all : List JournalStatus := [draft, submitted, approved, posted]

def code : JournalStatus → String
  | draft => "DRAFT"
  | submitted => "SUBMITTED"
  | approved => "APPROVED"
  | posted => "POSTED"

def ofCode? (s : String) : Option JournalStatus := all.find? (·.code == s)

def parse? (s : String) : Option JournalStatus := ofCode? (Text.capitals s)

def editable : JournalStatus → Bool
  | draft => true
  | _ => false

def immutable : JournalStatus → Bool
  | posted => true
  | _ => false

def canBecome : JournalStatus → JournalStatus → Bool
  | draft, submitted => true
  | submitted, approved => true
  | submitted, draft => true
  | approved, posted => true
  | approved, draft => true
  | _, _ => false

end JournalStatus

end Countinghouse
