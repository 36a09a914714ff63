/-! # Digits

Reading and writing of whole numbers in base ten and base sixteen.  Every
reader takes the characters that are left to read and hands back the rest. -/

set_option autoImplicit false

-- Powers are those of the core library, also where Mathlib's are in sight.
attribute [instance (20000), default_instance 20000] instPowNat

namespace Countinghouse.Text

def digit? (c : Char) : Option Nat :=
  if '0' ≤ c ∧ c ≤ '9' then some (c.toNat - '0'.toNat) else none

def hexDigit? (c : Char) : Option Nat :=
  if '0' ≤ c ∧ c ≤ '9' then some (c.toNat - '0'.toNat)
  else if 'a' ≤ c ∧ c ≤ 'f' then some (c.toNat - 'a'.toNat + 10)
  else if 'A' ≤ c ∧ c ≤ 'F' then some (c.toNat - 'A'.toNat + 10)
  else none

def ofDigits (ds : List Nat) : Nat := ds.foldl (fun acc d => acc * 10 + d) 0

def digitRun : List Char → List Nat × List Char
  | [] => ([], [])
  | c :: cs =>
      match digit? c with
      | some d => let (ds, rest) := digitRun cs; (d :: ds, rest)
      | none => ([], c :: cs)

def digitsUpTo : Nat → List Char → List Nat × List Char
  | 0, cs => ([], cs)
  | _ + 1, [] => ([], [])
  | limit + 1, c :: cs =>
      match digit? c with
      | some d => let (ds, rest) := digitsUpTo limit cs; (d :: ds, rest)
      | none => ([], c :: cs)

/-- Exactly `count` digits of base sixteen, appended to the value `acc`. -/
def hexRun : Nat → Nat → List Char → Option (Nat × List Char)
  | 0, acc, cs => some (acc, cs)
  | _ + 1, _, [] => none
  | count + 1, acc, c :: cs =>
      match hexDigit? c with
      | some d => hexRun count (acc * 16 + d) cs
      | none => none

/-- A count as it is written in a query: an optional plus sign, then digits,
with a value below `bound`. -/
def count? (bound : Nat) (s : String) : Option Nat :=
  let digits := match s.toList with
    | '+' :: cs => digitRun cs
    | cs => digitRun cs
  match digits with
  | ([], _) => none
  | (ds, []) => if ofDigits ds < bound then some (ofDigits ds) else none
  | _ => none

def padLeft (width : Nat) (fill : Char) (cs : List Char) : List Char :=
  List.replicate (width - cs.length) fill ++ cs

def padded (width n : Nat) : String :=
  String.ofList (padLeft width '0' (Nat.toDigits 10 n))

end Countinghouse.Text
