import Countinghouse.Text.Digits

/-! # Identifiers

An identifier is a 128-bit number that names one thing of one kind.  The kind
is part of the type, so an account cannot stand where a journal is meant.
Identifiers are ordered by their sixteen bytes, which is the order of the
numbers.

They are read, in either case, with hyphens, without hyphens, in braces, or
behind `urn:uuid:`, and always written in small letters with hyphens. -/

set_option autoImplicit false

namespace Countinghouse

/-- The kinds of things that have identifiers.  `entity` is any of them. -/
inductive Kind where
  | tenant | user | role | account | journal | journalLine | period | checklistItem
  | template | rule | bankAccount | statementLine | payment | auditRecord | generation
  | dimension | entity
  deriving DecidableEq, Repr

structure Id (kind : Kind) where
  value : Nat
  value_lt : value < 2 ^ 128
  deriving DecidableEq

abbrev TenantId := Id .tenant
abbrev UserId := Id .user
abbrev RoleId := Id .role
abbrev AccountId := Id .account
abbrev JournalId := Id .journal
abbrev PeriodId := Id .period
abbrev TemplateId := Id .template
abbrev RuleId := Id .rule
abbrev BankAccountId := Id .bankAccount
abbrev StatementLineId := Id .statementLine
abbrev PaymentId := Id .payment
abbrev EntityId := Id .entity

namespace Id

variable {kind : Kind}

instance : LE (Id kind) := ⟨fun a b => a.value ≤ b.value⟩
instance : LT (Id kind) := ⟨fun a b => a.value < b.value⟩
instance (a b : Id kind) : Decidable (a ≤ b) := inferInstanceAs (Decidable (a.value ≤ b.value))
instance (a b : Id kind) : Decidable (a < b) := inferInstanceAs (Decidable (a.value < b.value))

theorem ext_value {a b : Id kind} (h : a.value = b.value) : a = b := by
  cases a; cases b; cases h; rfl

def nil : Id kind := ⟨0, by decide⟩

instance : Inhabited (Id kind) := ⟨nil⟩

/-- The identifier with the value of `n` in 128 bits. -/
def ofNat (n : Nat) : Id kind := ⟨n % 2 ^ 128, Nat.mod_lt _ (by decide)⟩

/-- The same sixteen bytes, naming a thing of another kind. -/
def recast {other : Kind} (a : Id kind) : Id other := ⟨a.value, a.value_lt⟩

def hexGroups : List Nat → Nat → List Char → Option (Nat × List Char)
  | [], acc, cs => some (acc, cs)
  | count :: counts, acc, '-' :: cs =>
      match Text.hexRun count acc cs with
      | some (acc', rest) => hexGroups counts acc' rest
      | none => none
  | _ :: _, _, _ => none

def ofHyphenated? (cs : List Char) : Option Nat :=
  match Text.hexRun 8 0 cs with
  | some (acc, rest) =>
      match hexGroups [4, 4, 4, 12] acc rest with
      | some (value, []) => some value
      | _ => none
  | none => none

def ofSimple? (cs : List Char) : Option Nat :=
  match Text.hexRun 32 0 cs with
  | some (value, []) => some value
  | _ => none

/-- What an identifier is written in.  Only a bare one may lack its hyphens. -/
inductive Wrapping where
  | bare
  | braces
  | urn
  deriving DecidableEq, Repr

def unwrap (cs : List Char) : Wrapping × List Char :=
  if (cs.take 9).map Char.toLower = "urn:uuid:".toList then (.urn, cs.drop 9)
  else
    match cs with
    | '{' :: rest =>
        match rest.reverse with
        | '}' :: inner => (.braces, inner.reverse)
        | _ => (.bare, cs)
    | _ => (.bare, cs)

def valueOf? (cs : List Char) : Option Nat :=
  let (wrapping, inner) := unwrap cs
  match ofHyphenated? inner with
  | some value => some value
  | none => if wrapping = .bare then ofSimple? inner else none

def read? (s : String) : Option (Id kind) :=
  match valueOf? s.toList with
  | some value => if h : value < 2 ^ 128 then some ⟨value, h⟩ else none
  | none => none

/-- The first character that is neither a digit of base sixteen nor a hyphen, and
its place, counted from `place`. -/
def strayChar? (place : Nat) : List Char → Option (Char × Nat)
  | [] => none
  | c :: cs =>
      if c = '-' ∨ (Text.hexDigit? c).isSome then strayChar? (place + 1) cs else some (c, place)

/-- The first of some groups that has another length than it should, with its number,
the length it should have and the one it has. -/
def strayGroup? (number : Nat) : List (Nat × Nat) → Option (Nat × Nat × Nat)
  | [] => none
  | (expected, length) :: rest =>
      if expected = length then strayGroup? (number + 1) rest else some (number, expected, length)

/-- Why a text is no identifier: a character, the number of digits or of groups, or
the length of a group. -/
def flaw (s : String) : String :=
  let (wrapping, inner) := unwrap s.toList
  let front := match wrapping with
    | .bare => 0
    | .braces => 1
    | .urn => 9
  match strayChar? front inner with
  | some (c, place) =>
      "invalid character: found `" ++ String.singleton c ++ "` at " ++ toString place
  | none =>
      let groups := (String.ofList inner).splitOn "-"
      if groups.length = 1 ∧ wrapping = .bare then
        "invalid length: expected length 32 for simple format, found " ++ toString s.length
      else if groups.length ≠ 5 then
        "invalid group count: expected 5, found " ++ toString groups.length
      else
        match strayGroup? 0 ([8, 4, 4, 4, 12].zip (groups.map String.length)) with
        | some (number, expected, length) =>
            "invalid group length in group " ++ toString number ++ ": expected " ++
              toString expected ++ ", found " ++ toString length
        | none => "failed to parse a UUID"

/-- The written form: groups of 8, 4, 4, 4 and 12 digits. -/
def text (a : Id kind) : String :=
  let cs := Text.padLeft 32 '0' (Nat.toDigits 16 a.value)
  String.ofList (cs.take 8 ++ '-' :: (cs.drop 8).take 4 ++ '-' :: (cs.drop 12).take 4 ++
    '-' :: (cs.drop 16).take 4 ++ '-' :: cs.drop 20)

def insertOnce (a : Id kind) : List (Id kind) → List (Id kind)
  | [] => [a]
  | b :: rest =>
      if a < b then a :: b :: rest
      else if a = b then b :: rest
      else b :: insertOnce a rest

def sorted (ids : List (Id kind)) : List (Id kind) := ids.foldr insertOnce []

end Id

end Countinghouse
