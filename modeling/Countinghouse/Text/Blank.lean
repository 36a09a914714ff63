/-! # Blank characters

The characters that separate words without being written, and the trimming of
them at the ends of a text.  A rejection reason made of blanks alone is no
reason, and a date may be surrounded by blanks. -/

set_option autoImplicit false

namespace Countinghouse.Text

def isBlank (c : Char) : Bool :=
  let n := c.toNat
  (9 ≤ n && n ≤ 13) || n == 0x20 || n == 0x85 || n == 0xA0 || n == 0x1680 ||
    (0x2000 ≤ n && n ≤ 0x200A) || n == 0x2028 || n == 0x2029 || n == 0x202F ||
    n == 0x205F || n == 0x3000

def skipBlanks (cs : List Char) : List Char := cs.dropWhile isBlank

def allBlank (s : String) : Bool := s.toList.all isBlank

end Countinghouse.Text
