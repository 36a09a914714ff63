/-! # Bytes in sixty-four letters

Bytes are written six bits a character, in the alphabet that is safe in names of
files and addresses, without padding.  A text is read only if it is what writing
gives: no character outside the alphabet, no lone character at the end, and no
bits left over that are not zero. -/

set_option autoImplicit false

namespace Countinghouse.Base64

def alphabet : List Char :=
  "ABCDEFGHIJKLMNOPQRSTUVWXYZabcdefghijklmnopqrstuvwxyz0123456789-_".toList

def sextet? (c : Char) : Option Nat :=
  let n := c.toNat
  if 'A' ≤ c ∧ c ≤ 'Z' then some (n - 65)
  else if 'a' ≤ c ∧ c ≤ 'z' then some (n - 71)
  else if '0' ≤ c ∧ c ≤ '9' then some (n + 4)
  else if c = '-' then some 62
  else if c = '_' then some 63
  else none

def letter (sextet : Nat) : Char := alphabet.getD sextet 'A'

/-- Three bytes in four characters; one byte in two, two bytes in three. -/
def encodeBytes : List UInt8 → List Char
  | [] => []
  | [a] =>
      let n := a.toNat * 16
      [letter (n / 64), letter (n % 64)]
  | [a, b] =>
      let n := (a.toNat * 256 + b.toNat) * 4
      [letter (n / 4096), letter (n / 64 % 64), letter (n % 64)]
  | a :: b :: c :: rest =>
      let n := (a.toNat * 256 + b.toNat) * 256 + c.toNat
      letter (n / 262144) :: letter (n / 4096 % 64) :: letter (n / 64 % 64) :: letter (n % 64) ::
        encodeBytes rest

def encode (bytes : List UInt8) : String := String.ofList (encodeBytes bytes)

def decodeSextets? : List Nat → Option (List UInt8)
  | [] => some []
  | [_] => none
  | [a, b] => if b % 16 = 0 then some [UInt8.ofNat (a * 4 + b / 16)] else none
  | [a, b, c] =>
      if c % 4 = 0 then
        some [UInt8.ofNat (a * 4 + b / 16), UInt8.ofNat (b % 16 * 16 + c / 4)]
      else none
  | a :: b :: c :: d :: rest =>
      (decodeSextets? rest).map fun bytes =>
        UInt8.ofNat (a * 4 + b / 16) :: UInt8.ofNat (b % 16 * 16 + c / 4) ::
          UInt8.ofNat (c % 4 * 64 + d) :: bytes

def decode? (s : String) : Option (List UInt8) := (s.toList.mapM sextet?).bind decodeSextets?

end Countinghouse.Base64
