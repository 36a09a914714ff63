import Countinghouse.Decimal.Basic

/-! # Reading decimals

The plain form is an optional sign and digits with at most one point; low
lines may stand between and after digits.  Digits are taken while the scale is
below 28 and the units stay in range.  The first digit after the point that
does not fit decides by itself whether the last unit is rounded up; what
follows it must still be digits or low lines.

A low line right behind the last place ends the digits of a number whose units
were small before that place.  Where they were large, it lets one more digit in if
the units have room for it, and the scale is counted modulo 29.

The form with an exponent is tried when the plain form is not met. -/

set_option autoImplicit false

namespace Countinghouse.Decimal

structure Reading where
  units : Nat
  scale : Nat
  /-- The point has been read. -/
  pointed : Bool
  /-- Some digit has been read. -/
  started : Bool
  /-- The units were large before the last place was read. -/
  large : Bool
  /-- The last place has just been read. -/
  full : Bool

namespace Reading

def start : Reading := ⟨0, 0, false, false, false, false⟩

def largeUnits : Nat := 1844674407370954906

def take (r : Reading) (units : Nat) : Reading :=
  let scale := if r.pointed then r.scale + 1 else r.scale
  let full := r.pointed && 28 ≤ scale
  ⟨units, scale, r.pointed, true, r.large || (!full && largeUnits ≤ units), full⟩

def digitsOrLines (cs : List Char) : Bool :=
  cs.all fun c => c == '_' || (Text.digit? c).isSome

/-- Rounds at the first place that does not fit, by its digit alone; `rest` stands
behind it. -/
def roundAt (r : Reading) (digit : Nat) (rest : List Char) : Option (Nat × Nat) :=
  if !digitsOrLines rest then none
  else if digit < 5 then some (r.units, r.scale)
  else if r.units + 1 < 2 ^ 96 then some (r.units + 1, r.scale)
  else if r.scale = 0 then none
  else some ((r.units + 1 + 4) / 10, r.scale - 1)

def run (r : Reading) : List Char → Option (Nat × Nat)
  | [] => if r.started then some (r.units, r.scale) else none
  | c :: cs =>
      match Text.digit? c with
      | some digit =>
          let units := r.units * 10 + digit
          if r.full then r.roundAt digit cs
          else if units < 2 ^ 96 then run (r.take units) cs
          else if r.pointed then r.roundAt digit cs
          else none
      | none =>
          if c == '_' && r.full then
            if r.large then run { r with full := false } cs else r.roundAt 0 cs
          else if c == '_' && r.started then run r cs
          else if c == '.' && !r.pointed then run { r with pointed := true } cs
          else none

end Reading

def signed? (negative : Bool) (read : Option (Nat × Nat)) : Option Decimal :=
  match read with
  | some (units, scale) => ofUnits? (if negative then -(units : Int) else units) (scale % 29)
  | none => none

def readPlain? (cs : List Char) : Option Decimal :=
  match cs with
  | '-' :: rest => signed? true (Reading.start.run rest)
  | '+' :: rest => signed? false (Reading.start.run rest)
  | _ => signed? false (Reading.start.run cs)

/-- Moves the point of `a` to the left by `n` places.  Where more than 28 places
would be needed, `a` is first rounded to `28 - n` of them, a half away from
zero. -/
def pointLeft? (a : Decimal) (n : Nat) : Option Decimal :=
  if n > 28 then none
  else if a.scale + n ≤ 28 then ofUnits? a.units (a.scale + n)
  else ofUnits? (roundHalfAway a.units (10 ^ (a.scale - (28 - n)))) 28

/-- Moves the point of `a` to the right by `n` places; none may be left. -/
def pointRight? (a : Decimal) (n : Nat) : Option Decimal :=
  if n > 28 then none
  else if n ≤ a.scale then ofUnits? a.units (a.scale - n)
  else ofInt? (a.units * 10 ^ (n - a.scale))

def readExponent? (cs : List Char) : Option Decimal :=
  let isMark := fun c => c == 'e' || c == 'E'
  match readPlain? (cs.takeWhile (!isMark ·)), cs.dropWhile (!isMark ·) with
  | some base, _ :: '-' :: rest =>
      match Text.count? (2 ^ 32) (String.ofList rest) with
      | some n => pointLeft? base n
      | none => none
  | some base, _ :: rest =>
      match Text.count? (2 ^ 32) (String.ofList rest) with
      | some n => pointRight? base n
      | none => none
  | _, _ => none

def read? (s : String) : Option Decimal :=
  match readPlain? s.toList with
  | some a => some a
  | none => readExponent? s.toList

end Countinghouse.Decimal
