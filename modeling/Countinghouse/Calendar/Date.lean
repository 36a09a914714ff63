import Countinghouse.Text.Blank
import Countinghouse.Text.Digits

/-! # Dates

A date is a day of the Gregorian calendar, carried back and forth over all
years from -262143 to 262142.  It is stored as the number of days since the
first of January 1970, so that order and succession are those of the integers;
year, month and day are computed for reading and writing. -/

set_option autoImplicit false

namespace Countinghouse

/-- A day between the first of January -262143 and the last of December 262142. -/
structure Date where
  day : Int
  first_le : -96465292 ≤ day
  le_last : day ≤ 95026236
  deriving DecidableEq

namespace Date

instance : LE Date := ⟨fun a b => a.day ≤ b.day⟩
instance : LT Date := ⟨fun a b => a.day < b.day⟩
instance (a b : Date) : Decidable (a ≤ b) := inferInstanceAs (Decidable (a.day ≤ b.day))
instance (a b : Date) : Decidable (a < b) := inferInstanceAs (Decidable (a.day < b.day))

theorem ext_day {a b : Date} (h : a.day = b.day) : a = b := by
  cases a; cases b; cases h; rfl

def ofDay? (n : Int) : Option Date :=
  if h : -96465292 ≤ n ∧ n ≤ 95026236 then some ⟨n, h.1, h.2⟩ else none

def next? (a : Date) : Option Date := ofDay? (a.day + 1)

def previous? (a : Date) : Option Date := ofDay? (a.day - 1)

def isLeap (year : Int) : Bool :=
  year % 4 == 0 && (year % 100 != 0 || year % 400 == 0)

def monthLength (year : Int) : Nat → Nat
  | 2 => if isLeap year then 29 else 28
  | 4 | 6 | 9 | 11 => 30
  | _ => 31

/-- Days before the first of a month, counted from the first of March: five
months take 153 days. -/
def daysBeforeMonth (fromMarch : Int) : Int := (153 * fromMarch + 2) / 5

/-- The day number of a civil date.  Years are counted from March, so that the
leap day ends its year, and 400 years have 146097 days. -/
def dayNumber (year : Int) (month day : Nat) : Int :=
  let y := if month ≤ 2 then year - 1 else year
  let fromMarch : Int := if month ≤ 2 then month + 9 else month - 3
  let era := y / 400
  let yearOfEra := y % 400
  era * 146097 + yearOfEra * 365 + yearOfEra / 4 - yearOfEra / 100 +
    daysBeforeMonth fromMarch + day - 1 - 719468

def ofCivil? (year : Int) (month day : Nat) : Option Date :=
  if 1 ≤ month ∧ month ≤ 12 ∧ 1 ≤ day ∧ day ≤ monthLength year month then
    ofDay? (dayNumber year month day)
  else none

def civil (a : Date) : Int × Nat × Nat :=
  let shifted := a.day + 719468
  let era := shifted / 146097
  let dayOfEra := shifted % 146097
  let yearOfEra := (dayOfEra - dayOfEra / 1460 + dayOfEra / 36524 - dayOfEra / 146096) / 365
  let dayOfYear := dayOfEra - (365 * yearOfEra + yearOfEra / 4 - yearOfEra / 100)
  let fromMarch := (5 * dayOfYear + 2) / 153
  let day := dayOfYear - daysBeforeMonth fromMarch + 1
  let month := if fromMarch < 10 then fromMarch + 3 else fromMarch - 9
  let year := yearOfEra + era * 400 + if month ≤ 2 then 1 else 0
  (year, month.toNat, day.toNat)

/-- `YYYY-MM-DD`; years outside 0 to 9999 have a sign and at least four digits. -/
def text (a : Date) : String :=
  let (year, month, day) := a.civil
  let yearText :=
    if year < 0 then "-" ++ Text.padded 4 year.natAbs
    else if year ≤ 9999 then Text.padded 4 year.toNat
    else "+" ++ Text.padded 4 year.toNat
  yearText ++ "-" ++ Text.padded 2 month ++ "-" ++ Text.padded 2 day

/-- A year: up to four digits, or a sign and any number of digits. -/
def readYear? (cs : List Char) : Option (Int × List Char) :=
  match cs with
  | '-' :: rest =>
      match Text.digitRun rest with
      | ([], _) => none
      | (ds, rest') => some (-(Text.ofDigits ds : Int), rest')
  | '+' :: rest =>
      match Text.digitRun rest with
      | ([], _) => none
      | (ds, rest') => some ((Text.ofDigits ds : Int), rest')
  | _ =>
      match Text.digitsUpTo 4 cs with
      | ([], _) => none
      | (ds, rest') => some ((Text.ofDigits ds : Int), rest')

def readPair? (cs : List Char) : Option (Nat × List Char) :=
  match Text.digitsUpTo 2 (Text.skipBlanks cs) with
  | ([], _) => none
  | (ds, rest) => some (Text.ofDigits ds, rest)

def readMark? (mark : Char) (cs : List Char) : Option (List Char) :=
  match Text.skipBlanks cs with
  | [] => none
  | c :: rest => if c = mark then some rest else none

def readFront? (cs : List Char) : Option (Date × List Char) := do
  let (year, cs) ← readYear? (Text.skipBlanks cs)
  let cs ← readMark? '-' cs
  let (month, cs) ← readPair? cs
  let cs ← readMark? '-' cs
  let (day, cs) ← readPair? cs
  let date ← ofCivil? year month day
  return (date, cs)

def read? (s : String) : Option Date :=
  match readFront? s.toList with
  | some (date, rest) => if (Text.skipBlanks rest).isEmpty then some date else none
  | none => none

end Date

end Countinghouse
