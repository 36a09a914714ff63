import Countinghouse.Decimal.Basic

/-! # Sums that may leave the range

Addition and subtraction that report which of the two left the range. -/

set_option autoImplicit false

namespace Countinghouse

inductive Overflow where
  | addition
  | subtraction
  deriving DecidableEq, Repr

def Overflow.message : Overflow → String
  | .addition => "Addition overflowed"
  | .subtraction => "Subtraction overflowed"

namespace Decimal

def plus (a b : Decimal) : Except Overflow Decimal :=
  match a.add? b with
  | some c => .ok c
  | none => .error .addition

def minus (a b : Decimal) : Except Overflow Decimal :=
  match a.sub? b with
  | some c => .ok c
  | none => .error .subtraction

end Decimal

end Countinghouse
