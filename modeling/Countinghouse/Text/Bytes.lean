/-! # Texts as bytes

Texts travel as bytes in UTF-8.  Bytes that are no text can still be shown: they
are taken one by one, and where a byte cannot go on with the character begun
before it, a mark stands for what was begun. -/

set_option autoImplicit false

namespace Countinghouse.Text

def bytes (s : String) : List UInt8 := s.toUTF8.toList

def ofBytes? (bytes : List UInt8) : Option String := String.fromUTF8? ⟨bytes.toArray⟩

def broken : Char := '\uFFFD'

structure Begun where
  value : Nat
  /-- How many bytes are missing. -/
  missing : Nat
  /-- The next byte lies from here … -/
  low : UInt8
  /-- … up to here. -/
  high : UInt8

namespace Begun

/-- The character that a byte begins. -/
def first? (b : UInt8) : Option Begun :=
  if b < 0x80 then some ⟨b.toNat, 0, 0, 0⟩
  else if b < 0xC2 then none
  else if b < 0xE0 then some ⟨b.toNat - 0xC0, 1, 0x80, 0xBF⟩
  else if b < 0xF0 then
    some ⟨b.toNat - 0xE0, 2, if b = 0xE0 then 0xA0 else 0x80, if b = 0xED then 0x9F else 0xBF⟩
  else if b < 0xF5 then
    some ⟨b.toNat - 0xF0, 3, if b = 0xF0 then 0x90 else 0x80, if b = 0xF4 then 0x8F else 0xBF⟩
  else none

def next? (begun : Begun) (b : UInt8) : Option Begun :=
  if begun.low ≤ b ∧ b ≤ begun.high then
    some ⟨begun.value * 64 + (b.toNat - 0x80), begun.missing - 1, 0x80, 0xBF⟩
  else none

end Begun

def shownAfter (begun : Option Begun) : List UInt8 → List Char
  | [] => if begun.isSome then [broken] else []
  | b :: rest =>
      match begun.bind (·.next? b) with
      | some c =>
          if c.missing = 0 then Char.ofNat c.value :: shownAfter none rest
          else shownAfter (some c) rest
      | none =>
          let cut := if begun.isSome then [broken] else []
          match Begun.first? b with
          | some c =>
              if c.missing = 0 then cut ++ Char.ofNat c.value :: shownAfter none rest
              else cut ++ shownAfter (some c) rest
          | none => cut ++ broken :: shownAfter none rest

/-- Bytes as a text, with marks where they are none. -/
def shown (bytes : List UInt8) : String := String.ofList (shownAfter none bytes)

end Countinghouse.Text
