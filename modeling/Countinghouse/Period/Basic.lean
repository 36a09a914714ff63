import Countinghouse.Calendar.Date
import Countinghouse.Ident
import Countinghouse.Text.Casing

/-! # Accounting periods

A period is a range of dates, both ends included, with a status.  Journals are
submitted and posted only into an open period. -/

set_option autoImplicit false

namespace Countinghouse

inductive PeriodStatus where
  | open
  | closed
  | locked
  deriving DecidableEq, Repr

namespace PeriodStatus

def all : List PeriodStatus := [.open, .closed, .locked]

def code : PeriodStatus → String
  | .open => "OPEN"
  | .closed => "CLOSED"
  | .locked => "LOCKED"

def ofCode? (s : String) : Option PeriodStatus := all.find? (·.code == s)

def parse? (s : String) : Option PeriodStatus := ofCode? (Text.capitals s)

def allowsPosting : PeriodStatus → Bool
  | .open => true
  | _ => false

end PeriodStatus

structure Period where
  id : PeriodId
  start : Date
  finish : Date
  status : PeriodStatus
  deriving DecidableEq

namespace Period

def Contains (p : Period) (date : Date) : Prop := p.start ≤ date ∧ date ≤ p.finish

instance (p : Period) (date : Date) : Decidable (p.Contains date) :=
  inferInstanceAs (Decidable (_ ∧ _))

def Overlaps (p : Period) (start finish : Date) : Prop := p.start ≤ finish ∧ start ≤ p.finish

instance (p : Period) (start finish : Date) : Decidable (p.Overlaps start finish) :=
  inferInstanceAs (Decidable (_ ∧ _))

def find? (periods : List Period) (date : Date) : Option Period :=
  periods.find? fun p => decide (p.Contains date)

end Period

end Countinghouse
