import Countinghouse.Text.Bytes
import Countinghouse.Text.Digits

/-! # Addresses

The address of a request is a path of segments and a query of names with values.
Both may hold bytes written as a percent sign and two digits of base sixteen; in a
query a plus sign is a blank. -/

set_option autoImplicit false

namespace Countinghouse.Address

/-- The bytes of a text, those behind a percent sign included.  A percent sign
without two digits stands for itself. -/
def unescape : List UInt8 → List UInt8
  | 0x25 :: a :: b :: rest =>
      match Text.hexDigit? (Char.ofNat a.toNat), Text.hexDigit? (Char.ofNat b.toNat) with
      | some x, some y => UInt8.ofNat (16 * x + y) :: unescape rest
      | _, _ => 0x25 :: unescape (a :: b :: rest)
  | c :: rest => c :: unescape rest
  | [] => []

def segment? (s : String) : Option String := Text.ofBytes? (unescape (Text.bytes s))

/-- A name or a value of a query as a text.  Bytes that are no text are shown by
marks. -/
def queryText (s : String) : String :=
  Text.shown (unescape ((Text.bytes s).map fun c => if c = 0x2B then 0x20 else c))

def splitFirst (mark : Char) (s : String) : String × Option String :=
  match s.splitOn (String.singleton mark) with
  | [] => (s, none)
  | [_] => (s, none)
  | first :: rest => (first, some (String.intercalate (String.singleton mark) rest))

def parameters (query : String) : List (String × String) :=
  ((query.splitOn "&").filter (!·.isEmpty)).map fun part =>
    let (name, value) := splitFirst '=' part
    (queryText name, queryText (value.getD ""))

def split (target : String) : List String × List (String × String) :=
  let (target, _) := splitFirst '#' target
  let (path, query) := splitFirst '?' target
  ((path.splitOn "/").drop 1, parameters (query.getD ""))

/-- A value that a query may have once; none where it is repeated or cannot be
read. -/
def parameter? {α : Type} (name : String) (read : String → Option α)
    (parameters : List (String × String)) : Option (Option α) :=
  match parameters.filter (·.1 == name) with
  | [] => some none
  | [(_, value)] => (read value).map some
  | _ => none

end Countinghouse.Address
