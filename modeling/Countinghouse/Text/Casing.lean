/-! # Capital and small letters

Status codes are read without regard to case.  Both tables follow the Unicode
case mappings as far as these lead into ASCII: a character whose capital form
holds a character outside ASCII is left as it is, because no code of this
library holds one. -/

set_option autoImplicit false

namespace Countinghouse.Text

/-- The capital form of a character.  Ligatures and the sharp s have capital
forms of several letters. -/
def capital (c : Char) : List Char :=
  match c.toNat with
  | 0x00DF => ['S', 'S']
  | 0x0131 => ['I']
  | 0x017F => ['S']
  | 0xFB00 => ['F', 'F']
  | 0xFB01 => ['F', 'I']
  | 0xFB02 => ['F', 'L']
  | 0xFB03 => ['F', 'F', 'I']
  | 0xFB04 => ['F', 'F', 'L']
  | 0xFB05 => ['S', 'T']
  | 0xFB06 => ['S', 'T']
  | _ => [c.toUpper]

/-- The small form of a character; the Kelvin sign is a capital k. -/
def small (c : Char) : Char :=
  if c.toNat = 0x212A then 'k' else c.toLower

def capitals (s : String) : String := String.ofList (s.toList.flatMap capital)

def smalls (s : String) : String := String.ofList (s.toList.map small)

end Countinghouse.Text
