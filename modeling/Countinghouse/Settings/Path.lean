import Countinghouse.Text.Digits

/-! # Paths to settings

A setting is found by a path: a name, then steps to a key of a table, written
after a dot, or to a place of a list, written in square brackets.  Places that are
written with a minus sign count from the end of the list. -/

set_option autoImplicit false

namespace Countinghouse

inductive Step where
  | key (name : String)
  | place (index : Int)
  deriving DecidableEq, Repr

/-- A path starts at a key of the table that holds all settings. -/
structure Path where
  root : String
  steps : List Step
  deriving DecidableEq, Repr

namespace Path

def isNameChar (c : Char) : Bool := c.isAlphanum || c == '_' || c == '-'

def name? (cs : List Char) : Option (String × List Char) :=
  match cs.takeWhile isNameChar with
  | [] => none
  | name => some (String.ofList name, cs.dropWhile isNameChar)

def skipBlanks (cs : List Char) : List Char := cs.dropWhile fun c => c == ' ' || c == '\t'

/-- A place up to its closing bracket, held in 64 bits with a sign. -/
def place? (cs : List Char) : Option (Int × List Char) :=
  let (negative, digits) := match skipBlanks cs with
    | '-' :: rest => (true, rest)
    | rest => (false, rest)
  match Text.digitRun digits with
  | ([], _) => none
  | (ds, rest) =>
      let index : Int := if negative then -Text.ofDigits ds else Text.ofDigits ds
      match skipBlanks rest with
      | ']' :: rest => if -2 ^ 63 ≤ index ∧ index < 2 ^ 63 then some (index, rest) else none
      | _ => none

def step? : List Char → Option (Step × List Char)
  | '.' :: cs => (name? cs).map fun (name, rest) => (.key name, rest)
  | '[' :: cs => (place? cs).map fun (index, rest) => (.place index, rest)
  | _ => none

def steps? : Nat → List Char → Option (List Step)
  | _, [] => some []
  | 0, _ :: _ => none
  | fuel + 1, cs =>
      match step? cs with
      | some (step, rest) => (steps? fuel rest).map (step :: ·)
      | none => none

/-- The path that a text writes.  A text that writes none is itself the key at the
root. -/
def ofText (s : String) : Path :=
  let path? := do
    let (root, rest) ← name? s.toList
    let steps ← steps? rest.length rest
    return Path.mk root steps
  path?.getD ⟨s, []⟩

end Path

end Countinghouse
