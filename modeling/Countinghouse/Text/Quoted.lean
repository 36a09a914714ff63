import Countinghouse.Text.Digits
import Countinghouse.Text.Unseen

/-! # Quoted texts

A text as it is shown in a message: between quotes, with quotes and backslashes
behind a backslash, and characters that are not seen written by their numbers. -/

set_option autoImplicit false

namespace Countinghouse.Text

def shownChar (c : Char) : List Char :=
  match c with
  | '"' => ['\\', '"']
  | '\\' => ['\\', '\\']
  | '\n' => ['\\', 'n']
  | '\r' => ['\\', 'r']
  | '\t' => ['\\', 't']
  | _ =>
      if c.toNat = 0 then ['\\', '0']
      else if isUnseen c then
        '\\' :: 'u' :: '\x7b' :: Nat.toDigits 16 c.toNat ++ ['\x7d']
      else [c]

def quoted (s : String) : String := "\"" ++ String.ofList (s.toList.flatMap shownChar) ++ "\""

end Countinghouse.Text
