import Countinghouse.Decimal.Basic

/-! # Amounts that can be stored

A stored amount has exactly four places after the point and is smaller than
`10 ^ 15` either way.  An amount is storable when it is such an amount in value,
whatever its scale; storing any other amount rounds it, a half away from zero,
or fails. -/

set_option autoImplicit false

namespace Countinghouse.Decimal

def columnScale : Nat := 4

def columnLimit : Decimal := ⟨10 ^ 15, 0, zero.scale_le, by decide⟩

def FitsScale (a : Decimal) : Prop := a.places ≤ columnScale

instance (a : Decimal) : Decidable a.FitsScale := inferInstanceAs (Decidable (_ ≤ _))

def Storable (a : Decimal) : Prop := a.abs < columnLimit ∧ a.FitsScale

instance (a : Decimal) : Decidable a.Storable := inferInstanceAs (Decidable (_ ∧ _))

/-- The units at four places, rounded where there are more. -/
def columnUnits (a : Decimal) : Int :=
  if a.scale ≤ columnScale then a.unitsAt columnScale
  else roundHalfAway a.units (10 ^ (a.scale - columnScale))

/-- A number of ten-thousandths as a stored amount. -/
def ofColumnUnits? (units : Int) : Option Decimal :=
  if h : units.natAbs < 10 ^ 19 then
    some ⟨units, columnScale, by decide, Nat.lt_of_lt_of_le h (by decide)⟩
  else none

def toColumn? (a : Decimal) : Option Decimal := ofColumnUnits? a.columnUnits

def columnAdd? (a b : Decimal) : Option Decimal := ofColumnUnits? (a.columnUnits + b.columnUnits)

end Countinghouse.Decimal
