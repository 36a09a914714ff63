import Countinghouse.Calendar.Instant
import Countinghouse.Decimal.Reader
import Countinghouse.Ident
import Countinghouse.Json.Reader

/-! # Records in documents

Values of the library are read from documents member by member, in the order
of the document, so that of two faults the one that stands first decides.  A
fault is either a value of the wrong shape or the place where the text stops
being a document.

A record may be written as an object, or as an array of its fields in the order
in which they are declared.  Members with unknown names are skipped; a known
name may stand only once. -/

set_option autoImplicit false

namespace Countinghouse.Json

inductive Fault where
  /-- The text is no document from here on. -/
  | malformed
  /-- An array of this length goes on behind the last field of a record. -/
  | surplus (length : Nat)
  /-- The document has another shape than the value asked for. -/
  | mismatch (reason : String)
  deriving DecidableEq, Repr

def Fault.reason : Fault → String
  | malformed => "invalid document"
  | surplus length => "invalid length " ++ toString length ++ ", expected fewer elements in array"
  | mismatch reason => reason

abbrev Decoder (α : Type) := Json → Except Fault α

variable {α β : Type}

def wrong (expected : String) (v : Json) : Except Fault α :=
  match v with
  | .unread | .unfit _ | .misnamed _ _ => .error .malformed
  | v => .error (.mismatch ("invalid type: " ++ v.kind ++ ", expected " ++ expected))

/-- What was read from a value, or the fault that it is none of those asked for. -/
def required (expected : String) (v : Json) (read : Option α) : Except Fault α :=
  match read with
  | some a => .ok a
  | none => .error (.mismatch ("invalid value: " ++ v.kind ++ ", expected " ++ expected))

def asJson : Decoder Json := fun v => if v.complete then .ok v else .error .malformed

def asString : Decoder String
  | .str s => .ok s
  | v => wrong "a string" v

def asBool : Decoder Bool
  | .bool b => .ok b
  | v => wrong "a boolean" v

/-- A whole number from `low` up to, but without, `bound`. -/
def asIntegerIn (low bound : Int) : Decoder Int
  | .int n => required "an integer" (.int n) (if low ≤ n ∧ n < bound then some n else none)
  | v => wrong "an integer" v

def asNat (bound : Nat) : Decoder Nat := fun v => (asIntegerIn 0 bound v).map Int.toNat

def asText (expected : String) (read : String → Option α) : Decoder α
  | .str s => required expected (.str s) (read s)
  | v => wrong expected v

def asId {kind : Kind} : Decoder (Id kind)
  | .str s =>
      match Id.read? s with
      | some id => .ok id
      | none => .error (.mismatch ("UUID parsing failed: " ++ Id.flaw s))
  | v => wrong "a UUID string" v

def asDate : Decoder Date := asText "a date" Date.read?

def asInstant : Decoder Instant := asText "a date and time" Instant.read?

/-- An amount: a string, a whole number, or a binary number by its shortest
digits. -/
def asDecimal : Decoder Decimal := fun v =>
  let expected := "a Decimal type representing a fixed-point number"
  match v with
  | .str s => required expected v (Decimal.read? s)
  | .int n => required expected v (Decimal.ofInt? n)
  | .float x => required expected v (Decimal.readPlain? x.positional.toList)
  | v => wrong expected v

/-- One of a fixed set of names, as a string or as the one member, null, of an
object.  Any other value is no document in the place of a name. -/
def asName (read : String → Option α) : Decoder α := fun v =>
  let expected := "one of the names"
  match v with
  | .str s => required expected v (read s)
  | .obj (("", .misnamed name _) :: _) => wrong expected name
  | .obj ((name, member) :: rest) =>
      match read name, member with
      | none, _ => required expected (.str name) none
      | some a, .null => if rest.isEmpty then .ok a else .error .malformed
      | some _, member => wrong "null" member
  | _ => .error .malformed

def asOption (decode : Decoder α) : Decoder (Option α)
  | .null => .ok none
  | v => (decode v).map some

def asList (decode : Decoder α) : Decoder (List α)
  | .arr items => items.mapM decode
  | v => wrong "a sequence" v

def asPair (first : Decoder α) (second : Decoder β) : Decoder (α × β)
  | .arr [a, b] => do return (← first a, ← second b)
  | v => wrong "a pair" v

structure Field where
  name : String
  /-- The field may be left off at the end of an array. -/
  trailing : Bool
  check : Json → Except Fault Unit

structure Record (α : Type) where
  fields : List Field
  build : (String → Option Json) → Except Fault α

namespace Record

def both (f : Record (α → β)) (a : Record α) : Record β where
  fields := f.fields ++ a.fields
  build := fun find =>
    match f.build find with
    | .error e => .error e
    | .ok g =>
        match a.build find with
        | .error e => .error e
        | .ok x => .ok (g x)

instance : Functor Record where
  map f a := ⟨a.fields, fun find => (a.build find).map f⟩

instance : Seq Record where
  seq f a := both f (a ())

def field (name : String) (trailing : Bool) (decode : Decoder α) (missing : Option α) :
    Record α where
  fields := [⟨name, trailing, fun v => (decode v).map fun _ => ()⟩]
  build := fun find =>
    match find name, missing with
    | some v, _ => decode v
    | none, some a => .ok a
    | none, none => .error (.mismatch ("missing field `" ++ name ++ "`"))

def need (name : String) (decode : Decoder α) : Record α := field name false decode none

def maybe (name : String) (decode : Decoder α) : Record (Option α) :=
  field name false (asOption decode) (some none)

def orElse (name : String) (decode : Decoder α) (default : α) : Record α :=
  field name true decode (some default)

/-- The members of an object, checked in their order.  `seen` holds the known
names so far. -/
def checkMembers (fields : List Field) (seen : List String) :
    List (String × Json) → Except Fault Unit
  | [] => .ok ()
  | (_, .misnamed _ _) :: _ => .error .malformed
  | (name, v) :: rest =>
      match fields.find? (·.name == name) with
      | some field =>
          if seen.contains name then .error (.mismatch ("duplicate field `" ++ name ++ "`"))
          else
            match field.check v with
            | .error e => .error e
            | .ok _ => checkMembers fields (name :: seen) rest
      | none => if v.formed then checkMembers fields seen rest else .error .malformed

/-- The items of an array, checked against the fields in their order, as members
of an object.  `place` counts the fields so far. -/
def placeItems (title : String) (place : Nat) :
    List Field → List Json → Except Fault (List (String × Json))
  | [], [] => .ok []
  | [], rest => .error (.surplus (place + rest.length))
  | field :: fields, [] =>
      if field.trailing then placeItems title (place + 1) fields []
      else
        .error (.mismatch ("invalid length " ++ toString place ++ ", expected " ++ title ++
          " with " ++ count (place + fields.length + 1)))
  | field :: fields, v :: rest =>
      match field.check v with
      | .error e => .error e
      | .ok _ => (placeItems title (place + 1) fields rest).map ((field.name, v) :: ·)
where
  count (n : Nat) : String := toString n ++ if n = 1 then " element" else " elements"

def decodeAs (title : String) (record : Record α) : Decoder α
  | .obj members => do
      checkMembers record.fields [] members
      record.build fun name => (members.find? (·.1 == name)).map (·.2)
  | .arr items => do
      let members ← placeItems title 0 record.fields items
      record.build fun name => (members.find? (·.1 == name)).map (·.2)
  | v => wrong title v

def decode (record : Record α) : Decoder α := record.decodeAs "a record"

end Record

end Countinghouse.Json
