import Countinghouse.Calendar.Date

/-! # Instants

A moment in coordinated universal time, to the second.  Instants are read in
the form of RFC 3339, with a blank in place of the `T` and blanks around the
numbers allowed, and written with the offset `+00:00`.  An instant that is read
falls on a date, in universal time too; the sixtieth second of a minute is held as
the one before it. -/

set_option autoImplicit false

namespace Countinghouse

/-- Seconds since the start of 1970. -/
structure Instant where
  seconds : Int
  deriving DecidableEq, Repr

namespace Instant

instance : LE Instant := ⟨fun a b => a.seconds ≤ b.seconds⟩
instance (a b : Instant) : Decidable (a ≤ b) := inferInstanceAs (Decidable (a.seconds ≤ b.seconds))

def skipFraction? (cs : List Char) : Option (List Char) :=
  match cs with
  | '.' :: rest =>
      match Text.digitRun rest with
      | ([], _) => none
      | (_, rest') => some rest'
  | _ => some cs

def skipColons (cs : List Char) : List Char :=
  cs.dropWhile fun c => c = ':' || Text.isBlank c

def twoDigits? (cs : List Char) : Option (Nat × List Char) :=
  match Text.digitsUpTo 2 cs with
  | ([a, b], rest) => some (10 * a + b, rest)
  | _ => none

/-- The distance from universal time in seconds, under a day either way. -/
def readOffset? (cs : List Char) : Option (Int × List Char) :=
  match cs with
  | 'Z' :: rest | 'z' :: rest => some (0, rest)
  | sign :: rest =>
      if sign.toLower = 'u' && (rest.take 2).map Char.toLower = ['t', 'c'] then
        some (0, rest.drop 2)
      else if sign = '+' || sign = '-' || sign.toNat = 0x2212 then do
        let (hours, rest) ← twoDigits? rest
        let (minutes, rest) ← twoDigits? (skipColons rest)
        if hours < 24 ∧ minutes < 60 then
          let offset : Int := hours * 3600 + minutes * 60
          some (if sign = '+' then offset else -offset, rest)
        else none
      else none
  | [] => none

def readTime? (cs : List Char) : Option (Int × List Char) := do
  let (hour, cs) ← Date.readPair? cs
  let cs ← Date.readMark? ':' cs
  let (minute, cs) ← Date.readPair? cs
  let cs ← Date.readMark? ':' cs
  let (second, cs) ← Date.readPair? cs
  let cs ← skipFraction? cs
  if hour < 24 ∧ minute < 60 ∧ second ≤ 60 then
    some ((hour * 3600 + minute * 60 + min second 59 : Nat), cs)
  else none

def read? (s : String) : Option Instant := do
  let (date, cs) ← Date.readFront? s.toList
  let cs ← match cs with
    | 'T' :: rest | 't' :: rest | ' ' :: rest => some rest
    | _ => none
  let (time, cs) ← readTime? cs
  let (offset, cs) ← readOffset? (Text.skipBlanks cs)
  let seconds := date.day * 86400 + time - offset
  if (Text.skipBlanks cs).isEmpty && (Date.ofDay? (seconds / 86400)).isSome then some ⟨seconds⟩
  else none

def date (t : Instant) : Date :=
  let day := t.seconds / 86400
  if h : -96465292 ≤ day ∧ day ≤ 95026236 then ⟨day, h.1, h.2⟩
  else if day < 0 then ⟨-96465292, by decide, by decide⟩
  else ⟨95026236, by decide, by decide⟩

def text (t : Instant) : String :=
  let second := (t.seconds % 86400).toNat
  t.date.text ++ "T" ++ Text.padded 2 (second / 3600) ++ ":" ++
    Text.padded 2 (second / 60 % 60) ++ ":" ++ Text.padded 2 (second % 60) ++ "+00:00"

end Instant

end Countinghouse
