import Countinghouse.Decimal.Binary
import Countinghouse.Text.Casing

/-! # Scalar settings

A setting is written as a truth value, a number or a text, and read as whatever
its place asks for.  Words for yes and no stand for truth values and for one and
zero, in either case. -/

set_option autoImplicit false

namespace Countinghouse

inductive Scalar where
  | bool (value : Bool)
  | int (value : Int)
  | float (value : Binary)
  | text (value : String)

def Binary.rounded (x : Binary) : Nat :=
  let (num, den) := Binary.fraction (x.mantissa, x.exponent)
  (2 * num + den) / (2 * den)

namespace Scalar

def word? (s : String) : Option Bool :=
  if ["true", "on", "yes"].contains s then some true
  else if ["false", "off", "no"].contains s then some false
  else none

def asText : Scalar → String
  | bool true => "true"
  | bool false => "false"
  | int n => toString n
  | float x => x.positional
  | text s => s

/-- A number is true when it is not zero. -/
def asBool? : Scalar → Option Bool
  | bool b => some b
  | int n => some (n != 0)
  | float x => some (x.mantissa != 0)
  | text s =>
      match word? (Text.smalls s) with
      | some b => some b
      | none => if s = "1" then some true else if s = "0" then some false else none

/-- The count before its bound is looked at.  A number with places is rounded and
held in the range of 64 bits. -/
def count? : Scalar → Option Nat
  | bool b => some b.toNat
  | int n => if 0 ≤ n then some n.toNat else none
  | float x => some (if x.negative then 0 else min x.rounded (2 ^ 64 - 1))
  | text s =>
      match word? (Text.smalls s) with
      | some b => some b.toNat
      | none => Text.count? (2 ^ 64) s

def asCount? (bound : Nat) (v : Scalar) : Option Nat :=
  match v.count? with
  | some n => if n < bound then some n else none
  | none => none

end Scalar

end Countinghouse
