import Countinghouse.Decimal.Binary
import Countinghouse.Text.Quoted

/-! # Documents

The values of JSON documents.  Objects keep their members in order, repeated
names included.

Three marks are made by the reader only.  `Json.unread` is the place where a text
stops being a document, always the last thing that was read.  `Json.unfit` is a
string or a number in form that stands for no value.  `Json.misnamed` is a member
whose name is no text.  A value without marks is complete; one without `unread` has
the form of a document, and can be passed over. -/

set_option autoImplicit false

namespace Countinghouse

inductive Json where
  | null
  | bool (value : Bool)
  | int (value : Int)
  | float (value : Binary)
  | str (value : String)
  | arr (items : List Json)
  | obj (members : List (String × Json))
  | unread
  /-- Escapes without a character, bytes without a text, a number beyond the range;
  `late` where only the end of the value shows it. -/
  | unfit (late : Bool)
  /-- A member with what stands in the place of its name. -/
  | misnamed (name value : Json)
  deriving Inhabited

namespace Json

mutual

def complete : Json → Bool
  | .unread | .unfit _ | .misnamed _ _ => false
  | .arr items => completeItems items
  | .obj members => completeMembers members
  | _ => true

def completeItems : List Json → Bool
  | [] => true
  | v :: rest => complete v && completeItems rest

def completeMembers : List (String × Json) → Bool
  | [] => true
  | (_, v) :: rest => complete v && completeMembers rest

end

mutual

/-- The value has the form of a document. -/
def formed : Json → Bool
  | .unread => false
  | .arr items => formedItems items
  | .obj members => formedMembers members
  | .misnamed _ v => formed v
  | _ => true

def formedItems : List Json → Bool
  | [] => true
  | v :: rest => formed v && formedItems rest

def formedMembers : List (String × Json) → Bool
  | [] => true
  | (_, v) :: rest => formed v && formedMembers rest

end

mutual

def depth : Json → Nat
  | .arr items => depthItems items + 1
  | .obj members => depthMembers members + 1
  | _ => 0

def depthItems : List Json → Nat
  | [] => 0
  | v :: rest => max (depth v) (depthItems rest)

def depthMembers : List (String × Json) → Nat
  | [] => 0
  | (_, v) :: rest => max (depth v) (depthMembers rest)

end

mutual

def ordered : Json → Json
  | .arr items => .arr (orderedItems items)
  | .obj members => .obj ((orderedMembers members).mergeSort fun a b => decide (a.1 ≤ b.1))
  | v => v

def orderedItems : List Json → List Json
  | [] => []
  | v :: rest => ordered v :: orderedItems rest

def orderedMembers : List (String × Json) → List (String × Json)
  | [] => []
  | (name, v) :: rest => (name, ordered v) :: orderedMembers rest

end

def kind : Json → String
  | .null => "null"
  | .bool b => "boolean `" ++ toString b ++ "`"
  | .int n => "integer `" ++ toString n ++ "`"
  | .float x => "floating point `" ++ x.text ++ "`"
  | .str s => "string " ++ Text.quoted s
  | .arr _ => "sequence"
  | _ => "map"

def escaped (c : Char) : List Char :=
  match c with
  | '"' => ['\\', '"']
  | '\\' => ['\\', '\\']
  | '\n' => ['\\', 'n']
  | '\r' => ['\\', 'r']
  | '\t' => ['\\', 't']
  | _ =>
      if c.toNat = 8 then ['\\', 'b']
      else if c.toNat = 12 then ['\\', 'f']
      else if c.toNat < 32 then
        '\\' :: 'u' :: Text.padLeft 4 '0' (Nat.toDigits 16 c.toNat)
      else [c]

def quoted (s : String) : String := "\"" ++ String.ofList (s.toList.flatMap escaped) ++ "\""

mutual

def text : Json → String
  | .null => "null"
  | .bool true => "true"
  | .bool false => "false"
  | .int n => toString n
  | .float x => x.text
  | .str s => quoted s
  | .arr [] => "[]"
  | .arr (v :: rest) => "[" ++ text v ++ textItems rest
  | .obj [] => "\x7b\x7d"
  | .obj ((k, v) :: rest) => "\x7b" ++ quoted k ++ ":" ++ text v ++ textMembers rest
  | .unread | .unfit _ | .misnamed _ _ => ""

def textItems : List Json → String
  | [] => "]"
  | v :: rest => "," ++ text v ++ textItems rest

def textMembers : List (String × Json) → String
  | [] => "\x7d"
  | (k, v) :: rest => "," ++ quoted k ++ ":" ++ text v ++ textMembers rest

end

/-- The member of an object with a given name, the last one where it is
repeated. -/
def member? (name : String) : Json → Option Json
  | .obj members => (members.reverse.find? (·.1 == name)).map (·.2)
  | _ => none

def setMember (name : String) (value : Json) (members : List (String × Json)) :
    List (String × Json) :=
  members.filter (·.1 != name) ++ [(name, value)]

def ofOption {α : Type} (write : α → Json) : Option α → Json
  | none => .null
  | some a => write a

def ofList {α : Type} (write : α → Json) (as : List α) : Json := .arr (as.map write)

def ofNat (n : Nat) : Json := .int n

end Json

end Countinghouse
