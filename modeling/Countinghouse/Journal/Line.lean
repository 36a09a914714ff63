import Countinghouse.Decimal.Overflow
import Countinghouse.Ident

/-! # Journal lines

A line puts an amount on one side of an account.  The totals of a list of lines
are the sums of its debits and of its credits. -/

set_option autoImplicit false

namespace Countinghouse

structure Dimensions where
  department : Option (Id .dimension)
  project : Option (Id .dimension)
  fund : Option (Id .dimension)
  deriving DecidableEq

def Dimensions.none : Dimensions := ⟨Option.none, Option.none, Option.none⟩

inductive Side where
  | debit
  | credit
  deriving DecidableEq, Repr

structure Line where
  account : AccountId
  debit : Decimal
  credit : Decimal
  memo : Option String
  dimensions : Dimensions
  deriving DecidableEq

namespace Line

/-- The side that holds the amount, unless both or neither do. -/
def side? (line : Line) : Option Side :=
  match line.debit.isZero, line.credit.isZero with
  | false, true => some .debit
  | true, false => some .credit
  | _, _ => none

def amount (line : Line) : Decimal := if line.debit.isZero then line.credit else line.debit

/-- Neither amount is negative, and exactly one is zero. -/
def OneSided (line : Line) : Prop :=
  .zero ≤ line.debit ∧ .zero ≤ line.credit ∧ line.debit.isZero ≠ line.credit.isZero

instance (line : Line) : Decidable line.OneSided :=
  inferInstanceAs (Decidable (_ ∧ _ ∧ ¬ _ = _))

def swap (line : Line) : Line := { line with debit := line.credit, credit := line.debit }

end Line

structure Totals where
  debit : Decimal
  credit : Decimal
  deriving DecidableEq

namespace Totals

def zero : Totals := ⟨.zero, .zero⟩

def Balanced (t : Totals) : Prop := t.debit.Same t.credit

instance (t : Totals) : Decidable t.Balanced := inferInstanceAs (Decidable (Decimal.Same _ _))

def difference (t : Totals) : Except Overflow Decimal := t.debit.minus t.credit

end Totals

end Countinghouse
