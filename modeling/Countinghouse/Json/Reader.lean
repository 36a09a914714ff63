import Countinghouse.Json.Basic
import Countinghouse.Text.Bytes

/-! # Reading documents

The bytes of a text are read from the left, each as the character of its number.
Where they stop being a document the value read so far is kept, with `Json.unread`
in the place of what could not be read, so that a reader of records can tell a
value of the wrong shape from a text that breaks off before or after it.  Strings
and numbers that stand for no value are kept as `Json.unfit`: they are a fault only
where their value is asked for.

Whole numbers that fit 64 bits, signed or not, are kept exactly; all other
numbers are binary numbers. -/

set_option autoImplicit false

namespace Countinghouse.Json

def isSpace (c : Char) : Bool := c == ' ' || c == '\t' || c == '\n' || c == '\r'

def skipSpace (cs : List Char) : List Char := cs.dropWhile isSpace

def unit? (a b c d : Char) : Option Nat := (Text.hexRun 4 0 [a, b, c, d]).map (·.1)

/-- The bytes of a string as far as they are read, in reverse; `fit` as long as they
stand for a value. -/
structure Spelled where
  bytes : List UInt8
  fit : Bool
  /-- What makes the string unfit shows only at its end. -/
  late : Bool

namespace Spelled

def empty : Spelled := ⟨[], true, true⟩

def add (s : Spelled) (c : Char) : Spelled :=
  { s with bytes := (Text.bytes (String.singleton c)).reverse ++ s.bytes }

def keep (s : Spelled) (c : Char) : Spelled := { s with bytes := UInt8.ofNat c.toNat :: s.bytes }

/-- An escape that stands for no character.  The first of them decides whether it
shows only at the end. -/
def spoil (s : Spelled) (late : Bool) : Spelled :=
  if s.fit then { s with fit := false, late := late } else s

def value? (s : Spelled) : Option String :=
  if s.fit then Text.ofBytes? s.bytes.reverse else none

def toJson (s : Spelled) : Json :=
  match s.value? with
  | some text => .str text
  | none => .unfit s.late

end Spelled

def isHigh (unit : Nat) : Bool := 0xD800 ≤ unit && unit < 0xDC00

def isLow (unit : Nat) : Bool := 0xDC00 ≤ unit && unit < 0xE000

/-- The rest of a string behind its opening quote; `read` holds what comes before.
Two halves of a character stand one behind the other. -/
def stringRest (read : Spelled) : List Char → Option (Spelled × List Char)
  | [] => none
  | '"' :: rest => some (read, rest)
  | '\\' :: 'u' :: a :: b :: c :: d :: '\\' :: 'u' :: e :: f :: g :: h :: rest =>
      match unit? a b c d, unit? e f g h with
      | some first, some second =>
          if isHigh first && isLow second then
            let code := 0x10000 + (first - 0xD800) * 1024 + (second - 0xDC00)
            stringRest (read.add (Char.ofNat code)) rest
          else if isHigh first || isLow first then
            stringRest (read.spoil false) ('\\' :: 'u' :: e :: f :: g :: h :: rest)
          else
            stringRest (read.add (Char.ofNat first)) ('\\' :: 'u' :: e :: f :: g :: h :: rest)
      | _, _ => none
  | '\\' :: 'u' :: a :: b :: c :: d :: rest =>
      match unit? a b c d with
      | some unit =>
          if isHigh unit || isLow unit then
            stringRest (read.spoil (isHigh unit && rest.head? == some '"')) rest
          else stringRest (read.add (Char.ofNat unit)) rest
      | none => none
  | '\\' :: c :: rest =>
      match c with
      | '"' => stringRest (read.keep '"') rest
      | '\\' => stringRest (read.keep '\\') rest
      | '/' => stringRest (read.keep '/') rest
      | 'b' => stringRest (read.keep (Char.ofNat 8)) rest
      | 'f' => stringRest (read.keep (Char.ofNat 12)) rest
      | 'n' => stringRest (read.keep '\n') rest
      | 'r' => stringRest (read.keep '\r') rest
      | 't' => stringRest (read.keep '\t') rest
      | _ => none
  | c :: rest => if c.toNat < 32 then none else stringRest (read.keep c) rest

/-- The digits before the point as one number, as far as it fits 64 bits, and
how many digits are left over. -/
def wholeDigits (ds : List Nat) : Nat × Nat :=
  ds.foldl (fun (n, left) d =>
    if left = 0 ∧ n * 10 + d < 2 ^ 64 then (n * 10 + d, 0) else (n, left + 1)) (0, 0)

/-- Digits behind the point appended to `n` as far as it fits 64 bits, and how
many were. -/
def placeDigits (n taken : Nat) : List Nat → Nat × Nat
  | [] => (n, taken)
  | d :: ds => if n * 10 + d < 2 ^ 64 then placeDigits (n * 10 + d) (taken + 1) ds else (n, taken)

def floatOf (negative : Bool) (digits : Nat) (power : Int) : Json :=
  match Binary.scaled? digits power with
  | some (mantissa, exponent) => .float ⟨negative, mantissa, exponent⟩
  | none => .unfit true

def exponent? (cs : List Char) : Option (Int × List Char) :=
  let signed := match cs with
    | '+' :: rest => (false, rest)
    | '-' :: rest => (true, rest)
    | _ => (false, cs)
  match Text.digitRun signed.2 with
  | ([], _) => none
  | (ds, rest) =>
      let n : Int := Text.ofDigits ds
      some (if signed.1 then -n else n, rest)

def numberTail (negative : Bool) (digits : Nat) (power : Int) (cs : List Char) :
    Option (Json × List Char) :=
  match cs with
  | 'e' :: rest | 'E' :: rest =>
      match exponent? rest with
      | some (e, rest') => some (floatOf negative digits (power + e), rest')
      | none => none
  | _ => some (floatOf negative digits power, cs)

def number? (negative : Bool) (cs : List Char) : Option (Json × List Char) :=
  match Text.digitRun cs with
  | ([], _) => none
  | (0 :: _ :: _, _) => none
  | (ds, rest) =>
      let (digits, left) := wholeDigits ds
      match rest with
      | '.' :: rest' =>
          match Text.digitRun rest' with
          | ([], _) => none
          | (places, rest'') =>
              let (digits, taken) := placeDigits digits 0 places
              numberTail negative digits ((left : Int) - taken) rest''
      | 'e' :: _ | 'E' :: _ => numberTail negative digits left rest
      | _ =>
          if left = 0 ∧ !negative then some (.int digits, rest)
          else if left = 0 ∧ negative ∧ 0 < digits ∧ digits ≤ 2 ^ 63 then
            some (.int (-(digits : Int)), rest)
          else some (floatOf negative digits left, rest)

mutual

/-- One value, and what follows it unless the text stops being a document.  The
first argument bounds the number of steps; the length of the text is enough. -/
def readValue : Nat → List Char → Json × Option (List Char)
  | 0, _ => (.unread, none)
  | steps + 1, cs =>
      match skipSpace cs with
      | '\x7b' :: rest =>
          match skipSpace rest with
          | '\x7d' :: rest' => (.obj [], some rest')
          | rest' => let (members, more) := readMembers steps rest'; (.obj members, more)
      | '[' :: rest =>
          match skipSpace rest with
          | ']' :: rest' => (.arr [], some rest')
          | rest' => let (items, more) := readItems steps rest'; (.arr items, more)
      | '"' :: rest =>
          match stringRest .empty rest with
          | some (s, rest') => (s.toJson, some rest')
          | none => (.unread, none)
      | 'n' :: 'u' :: 'l' :: 'l' :: rest => (.null, some rest)
      | 't' :: 'r' :: 'u' :: 'e' :: rest => (.bool true, some rest)
      | 'f' :: 'a' :: 'l' :: 's' :: 'e' :: rest => (.bool false, some rest)
      | '-' :: rest =>
          match number? true rest with
          | some (v, rest') => (v, some rest')
          | none => (.unread, none)
      | rest =>
          match number? false rest with
          | some (v, rest') => (v, some rest')
          | none => (.unread, none)

def readItems : Nat → List Char → List Json × Option (List Char)
  | 0, _ => ([.unread], none)
  | steps + 1, cs =>
      match readValue steps cs with
      | (v, none) => ([v], none)
      | (v, some rest) =>
          match skipSpace rest with
          | ',' :: rest' => let (items, more) := readItems steps rest'; (v :: items, more)
          | ']' :: rest' => ([v], some rest')
          | _ => ([v, .unread], none)

def readMembers : Nat → List Char → List (String × Json) × Option (List Char)
  | 0, _ => ([("", .unread)], none)
  | steps + 1, cs =>
      match skipSpace cs with
      | '"' :: rest =>
          match stringRest .empty rest with
          | none => ([("", .unread)], none)
          | some (name, rest') =>
              let member (v : Json) : String × Json :=
                match name.value? with
                | some text => (text, v)
                | none => ("", .misnamed (.unfit name.late) v)
              match skipSpace rest' with
              | ':' :: rest'' =>
                  match readValue steps rest'' with
                  | (v, none) => ([member v], none)
                  | (v, some after) =>
                      match skipSpace after with
                      | ',' :: after' =>
                          let (members, more) := readMembers steps after'
                          (member v :: members, more)
                      | '\x7d' :: after' => ([member v], some after')
                      | _ => ([member v, ("", .unread)], none)
              | _ => ([member .unread], none)
      | rest => ([("", .misnamed (readValue steps rest).1 .unread)], none)

end

/-- Bytes as a document: the value read, and whether nothing but blanks follows
it. -/
def readBytes (bytes : List UInt8) : Json × Bool :=
  let cs := bytes.map fun b => Char.ofNat b.toNat
  match readValue (2 * cs.length + 2) cs with
  | (v, some rest) => (v, (skipSpace rest).isEmpty)
  | (v, none) => (v, false)

def read (s : String) : Json × Bool := readBytes (Text.bytes s)

def parseBytes? (bytes : List UInt8) : Option Json :=
  match readBytes bytes with
  | (v, true) => if v.complete then some v else none
  | _ => none

def parse? (s : String) : Option Json := parseBytes? (Text.bytes s)

end Countinghouse.Json
