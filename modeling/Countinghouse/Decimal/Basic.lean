import Countinghouse.Text.Digits

/-! # Decimal numbers

A decimal is a whole number of units of `10 ^ -scale`, with at most 28 places
after the point and fewer than `2 ^ 96` units either way.  The scale is part of
a decimal's written form but not of its value: `1.5` and `1.50` are equal in
value and written differently.

`Decimal.grains` is the value in units of `10 ^ -28`, a whole number for every
decimal; comparisons and the laws of sums are stated over it. -/

set_option autoImplicit false

namespace Countinghouse

/-- A signed number of units of `10 ^ -scale`. -/
structure Decimal where
  units : Int
  scale : Nat
  scale_le : scale ≤ 28
  units_lt : units.natAbs < 2 ^ 96
  deriving DecidableEq

namespace Decimal

/-- The value in units of `10 ^ -28`. -/
def grains (a : Decimal) : Int := a.units * 10 ^ (28 - a.scale)

/-- Two decimals have the same value, whatever their scales. -/
def Same (a b : Decimal) : Prop := a.grains = b.grains

instance : LE Decimal := ⟨fun a b => a.grains ≤ b.grains⟩
instance : LT Decimal := ⟨fun a b => a.grains < b.grains⟩
instance (a b : Decimal) : Decidable (Same a b) := inferInstanceAs (Decidable (a.grains = b.grains))
instance (a b : Decimal) : Decidable (a ≤ b) := inferInstanceAs (Decidable (a.grains ≤ b.grains))
instance (a b : Decimal) : Decidable (a < b) := inferInstanceAs (Decidable (a.grains < b.grains))

def zero : Decimal := ⟨0, 0, by decide, by decide⟩

instance : Inhabited Decimal := ⟨zero⟩

def ofInt? (n : Int) : Option Decimal :=
  if h : n.natAbs < 2 ^ 96 then some ⟨n, 0, by decide, h⟩ else none

def ofUnits? (units : Int) (scale : Nat) : Option Decimal :=
  if h : scale ≤ 28 ∧ units.natAbs < 2 ^ 96 then some ⟨units, scale, h.1, h.2⟩ else none

def isZero (a : Decimal) : Bool := a.units == 0

def neg (a : Decimal) : Decimal :=
  ⟨-a.units, a.scale, a.scale_le, by rw [Int.natAbs_neg]; exact a.units_lt⟩

instance : Neg Decimal := ⟨neg⟩

def abs (a : Decimal) : Decimal :=
  ⟨a.units.natAbs, a.scale, a.scale_le, by rw [Int.natAbs_natCast]; exact a.units_lt⟩

/-- A quotient rounded to the nearest whole number, a half to the even one. -/
def roundHalfEven (n : Int) (d : Nat) : Int :=
  let q := n.natAbs / d
  let r := n.natAbs % d
  let m := if 2 * r > d ∨ (2 * r = d ∧ q % 2 = 1) then q + 1 else q
  n.sign * m

/-- A quotient rounded to the nearest whole number, a half away from zero. -/
def roundHalfAway (n : Int) (d : Nat) : Int :=
  let q := n.natAbs / d
  let r := n.natAbs % d
  n.sign * (if 2 * r ≥ d then q + 1 else q : Nat)

/-- The units `n` at the first of the scales `scale`, `scale - 1`, … at which
they are in range once the `dropped` places and those above are rounded off. -/
def lowerScale (n : Int) (dropped : Nat) : Nat → Option Decimal
  | 0 => ofUnits? (roundHalfEven n (10 ^ dropped)) 0
  | scale + 1 =>
      match ofUnits? (roundHalfEven n (10 ^ dropped)) (scale + 1) with
      | some a => some a
      | none => lowerScale n (dropped + 1) scale

/-- The decimal nearest to `n` units at `scale`, which gives up places only
when the units are out of range; none if no scale holds it. -/
def fit? (n : Int) (scale : Nat) : Option Decimal := lowerScale n 0 scale

def unitsAt (a : Decimal) (scale : Nat) : Int := a.units * 10 ^ (scale - a.scale)

/-- The sum, or none when it is out of range.  A zero leaves the other side as
it is, scale included, and of two zeros the second is the sum; otherwise the
larger of the two scales is kept as far as the range allows. -/
def add? (a b : Decimal) : Option Decimal :=
  if a.units = 0 then some b
  else if b.units = 0 then some a
  else
    let scale := max a.scale b.scale
    fit? (a.unitsAt scale + b.unitsAt scale) scale

def sub? (a b : Decimal) : Option Decimal := add? a (-b)

/-- Zeros at the end of the places after the point are dropped, the units being
given with the number of places. -/
def trimUnits : Int → Nat → Int × Nat
  | units, 0 => (units, 0)
  | units, scale + 1 =>
      if units % 10 = 0 then trimUnits (units / 10) scale else (units, scale + 1)

def places (a : Decimal) : Nat := (trimUnits a.units a.scale).2

/-- The written form: exactly `scale` digits after the point and at least one
before it. -/
def text (a : Decimal) : String :=
  let digits := Text.padLeft (a.scale + 1) '0' (Nat.toDigits 10 a.units.natAbs)
  let whole := digits.take (digits.length - a.scale)
  let fraction := digits.drop (digits.length - a.scale)
  String.ofList ((if a.units < 0 then ['-'] else []) ++ whole ++
    if a.scale = 0 then [] else '.' :: fraction)

end Decimal

end Countinghouse
