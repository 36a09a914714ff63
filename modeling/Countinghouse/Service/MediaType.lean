import Countinghouse.Service.Address
import Countinghouse.Text.Casing

/-! # Media types

A request declares what its body is by a media type: a type, a subtype and
parameters.  Two kinds are documents: the subtype `json`, and any subtype that has
`json` as its base or as its suffix, where the last plus sign divides the two. -/

set_option autoImplicit false

namespace Countinghouse.MediaType

def isTokenChar (c : Char) : Bool := c.isAlphanum || "!#$%&'*+-.^_`|~".toList.contains c

def isToken (s : String) : Bool := !s.isEmpty && s.toList.all isTokenChar

/-- What follows a value: a token, or a text in quotes with blanks behind it.  A
quote is a character of the text where it stands first in it. -/
def afterValue? : List Char → Option (List Char)
  | '"' :: _ :: cs =>
      match cs.dropWhile (· != '"') with
      | '"' :: rest => some (rest.dropWhile (· == ' '))
      | _ => none
  | cs => some (cs.dropWhile isTokenChar)

/-- Names with values, with a mark between them and blanks before the names.  Nothing
need follow the last mark, and only the last value may be empty.  The first argument
bounds the number of parameters; the length of the text is enough. -/
def areParameters : Nat → List Char → Bool
  | 0, _ => false
  | steps + 1, cs =>
      let cs := cs.dropWhile (· == ' ')
      if cs.isEmpty then true
      else
        match cs.takeWhile isTokenChar, cs.dropWhile isTokenChar with
        | [], _ => false
        | _, '=' :: ';' :: _ => false
        | _, '=' :: value =>
            match afterValue? value with
            | some [] => true
            | some (';' :: rest) => areParameters steps rest
            | _ => false
        | _, _ => false

/-- The part of a subtype before its last plus sign, and the part behind it.  A plus
sign at the front divides nothing. -/
def splitSubtype (subtype : String) : String × Option String :=
  match (subtype.splitOn "+").reverse with
  | [] | [_] | [_, ""] => (subtype, none)
  | suffix :: base => (String.intercalate "+" base.reverse, some suffix)

def isJson (s : String) : Bool :=
  let (name, parameters) := Address.splitFirst ';' s
  let name := Text.smalls name
  let subtype := String.ofList (name.toList.drop "application/".length)
  let (base, suffix) := splitSubtype subtype
  s.toList.all (fun c => ' ' ≤ c && c ≤ '~') && name.startsWith "application/" &&
    isToken subtype && (base == "json" || suffix == some "json") &&
    match parameters with
    | some parameters => areParameters (parameters.length + 1) parameters.toList
    | none => true

end Countinghouse.MediaType
