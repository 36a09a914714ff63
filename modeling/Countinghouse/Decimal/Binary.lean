import Countinghouse.Text.Digits

/-! # Binary numbers of double precision

A number with a point or an exponent in a document is read as a binary number
of 53 significant bits.  Its digits are first taken as a whole number, at most
20 of them, and then multiplied or divided by a power of ten, each step rounded
to the nearest binary number with ties to the even one.  It is written with the
fewest decimal digits that are nearer to it than to any other. -/

set_option autoImplicit false

namespace Countinghouse

/-- The magnitude `mantissa * 2 ^ exponent`, with a sign of its own. -/
structure Binary where
  negative : Bool
  mantissa : Nat
  exponent : Int
  deriving DecidableEq, Repr

namespace Binary

abbrev Magnitude := Nat × Int

/-- `num / den` in units of `2 ^ exponent`, rounded to the nearest with a half to
the even one. -/
def quotientAt (num den : Nat) (exponent : Int) : Nat :=
  let n := if exponent < 0 then num * 2 ^ exponent.natAbs else num
  let d := if exponent < 0 then den else den * 2 ^ exponent.natAbs
  let q := n / d
  let r := n % d
  if 2 * r > d ∨ (2 * r = d ∧ q % 2 = 1) then q + 1 else q

/-- The exponent at which `num / den` has 53 bits, or the least one. -/
def exponentFor (num den : Nat) : Int :=
  let k : Int := (Nat.log2 num : Int) - (Nat.log2 den : Int)
  let top := if num * 2 ^ (-k).toNat < den * 2 ^ k.toNat then k - 1 else k
  max (top - 52) (-1074)

/-- The magnitude nearest to `num / den`; none beyond the largest. -/
def nearest? (num den : Nat) : Option Magnitude :=
  if num = 0 then some (0, -1074)
  else
    let exponent := exponentFor num den
    let q := quotientAt num den exponent
    let (mantissa, exponent) := if q = 2 ^ 53 then (2 ^ 52, exponent + 1) else (q, exponent)
    if exponent > 971 then none else some (mantissa, exponent)

def times? (a b : Magnitude) : Option Magnitude :=
  let e := a.2 + b.2
  if e < 0 then nearest? (a.1 * b.1) (2 ^ e.natAbs) else nearest? (a.1 * b.1 * 2 ^ e.natAbs) 1

def over? (a b : Magnitude) : Option Magnitude :=
  let e := a.2 - b.2
  if e < 0 then nearest? a.1 (b.1 * 2 ^ e.natAbs) else nearest? (a.1 * 2 ^ e.natAbs) b.1

/-- `digits * 10 ^ power`, in at most three rounded steps: the digits, then one
or two powers of ten. -/
def scaled? (digits : Nat) (power : Int) : Option Magnitude :=
  match nearest? digits 1 with
  | none => none
  | some m =>
      if m.1 = 0 then some m
      else if power > 308 then none
      else if 0 ≤ power then
        match nearest? (10 ^ power.natAbs) 1 with
        | some p => times? m p
        | none => none
      else
        let steps := (power.natAbs - 1) / 308
        match nearest? (10 ^ 308) 1, nearest? (10 ^ (power.natAbs - 308 * steps)) 1 with
        | some big, some p =>
            -- Beyond the third step nothing is left of any number of 20 digits.
            match steps with
            | 0 => over? m p
            | 1 => (over? m big).bind (over? · p)
            | _ => some (0, -1074)
        | _, _ => none

def fraction (m : Magnitude) : Nat × Nat :=
  if m.2 < 0 then (m.1, 2 ^ m.2.natAbs) else (m.1 * 2 ^ m.2.natAbs, 1)

/-- Whether `digits * 10 ^ power` is nearer to the magnitude than to its
neighbours; the ends of the interval belong to an even mantissa. -/
def readsBack (m : Magnitude) (digits : Nat) (power : Int) : Bool :=
  -- The distances to the neighbours are halved; below a power of two the gap is
  -- half as wide.  All is counted in quarters of the unit of the mantissa.
  let low := if m.1 = 2 ^ 52 ∧ m.2 > -1074 then 4 * m.1 - 1 else 4 * m.1 - 2
  let high := 4 * m.1 + 2
  let exponent := m.2 - 2
  let num := digits * (if 0 ≤ power then 10 ^ power.natAbs else 1) *
    (if exponent < 0 then 2 ^ exponent.natAbs else 1)
  let den := (if power < 0 then 10 ^ power.natAbs else 1) *
    (if exponent < 0 then 1 else 2 ^ exponent.natAbs)
  if m.1 % 2 = 0 then low * den ≤ num && num ≤ high * den
  else low * den < num && num < high * den

/-- The decimal exponent of the first digit of `num / den`, searched downwards
from an upper bound. -/
def leadingPower (num den : Nat) : Nat → Int → Int
  | 0, p => p
  | fuel + 1, p =>
      let reached := if 0 ≤ p then den * 10 ^ p.natAbs ≤ num else den ≤ num * 10 ^ p.natAbs
      if reached then p else leadingPower num den fuel (p - 1)

/-- The fewest digits that read back, tried from `count` digits upwards: of the
two neighbours on the grid the nearer one that reads back. -/
def shortestFrom (m : Magnitude) (lead : Int) : Nat → Nat → Nat × Int
  | 0, _ => (0, 0)
  | fuel + 1, count =>
      let power := lead - (count - 1 : Nat)
      let (num, den) := fraction m
      let n := if power < 0 then num * 10 ^ power.natAbs else num
      let d := if power < 0 then den else den * 10 ^ power.natAbs
      let below := n / d
      let nearer := if 2 * (n % d) ≥ d then below + 1 else below
      let further := if 2 * (n % d) ≥ d then below else below + 1
      if readsBack m nearer power then (nearer, power)
      else if readsBack m further power then (further, power)
      else shortestFrom m lead fuel (count + 1)

/-- The shortest digits of a magnitude, without zeros at the end, and the power
of ten of the last of them. -/
def shortest (m : Magnitude) : Nat × Int :=
  if m.1 = 0 then (0, 0)
  else
    let (num, den) := fraction m
    let (digits, power) := shortestFrom m (leadingPower num den 640 309) 20 1
    dropZeros 20 digits power
where
  dropZeros : Nat → Nat → Int → Nat × Int
    | 0, digits, power => (digits, power)
    | fuel + 1, digits, power =>
        if digits ≠ 0 ∧ digits % 10 = 0 then dropZeros fuel (digits / 10) (power + 1)
        else (digits, power)

def signText (a : Binary) : String := if a.negative then "-" else ""

def positional (a : Binary) : String :=
  let (digits, power) := shortest (a.mantissa, a.exponent)
  let cs := Nat.toDigits 10 digits
  let body :=
    if 0 ≤ power then cs ++ List.replicate power.natAbs '0'
    else
      let cs := Text.padLeft (power.natAbs + 1) '0' cs
      cs.take (cs.length - power.natAbs) ++ '.' :: cs.drop (cs.length - power.natAbs)
  a.signText ++ String.ofList body

/-- The shortest digits, with an exponent where the first digit stands more than
16 places before or 5 places behind the point, and at least one place. -/
def text (a : Binary) : String :=
  let (digits, power) := shortest (a.mantissa, a.exponent)
  let cs := Nat.toDigits 10 digits
  let first : Int := cs.length + power
  let body :=
    if digits = 0 then ['0', '.', '0']
    else if 0 ≤ power ∧ first ≤ 16 then cs ++ List.replicate power.natAbs '0' ++ ['.', '0']
    else if 0 < first ∧ first ≤ 16 then cs.take first.natAbs ++ '.' :: cs.drop first.natAbs
    else if -5 < first ∧ first ≤ 0 then
      '0' :: '.' :: List.replicate first.natAbs '0' ++ cs
    else
      let mantissa := match cs with
        | [c] => [c]
        | c :: rest => c :: '.' :: rest
        | [] => []
      mantissa ++ 'e' :: (toString (first - 1)).toList
  a.signText ++ String.ofList body

end Binary

end Countinghouse
