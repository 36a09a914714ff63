import Countinghouse.Json.Record

/-! # Headers of tokens

The header of a token names the algorithm of its code.  What else it may hold is
looked at but not used: texts, lists of texts, and the key that the code was made
with.  Members that are not known must be texts. -/

set_option autoImplicit false

namespace Countinghouse.Token

open Json

def algorithms : List String :=
  ["HS256", "HS384", "HS512", "ES256", "ES384", "RS256", "RS384", "RS512", "PS256", "PS384",
    "PS512", "EdDSA"]

def curves : List String := ["P-256", "P-384", "P-521", "Ed25519"]

/-- A document may have this many arrays and objects one inside the other, itself
included. -/
def deepest : Nat := 127

def oneOf (names : List String) : Decoder String := asName fun s => names.find? (· == s)

def shape (fields : List (Record Unit)) : Record Unit :=
  fields.foldr (fun field more => (fun _ _ => ()) <$> field <*> more) ⟨[], fun _ => .ok ()⟩

def present {α : Type} (decode : Decoder α) (name : String) : Record Unit :=
  (fun _ => ()) <$> .need name decode

def allowed {α : Type} (decode : Decoder α) (name : String) : Record Unit :=
  (fun _ => ()) <$> .maybe name decode

def keyRemarks : Record Unit :=
  shape (["use", "kid", "x5u", "x5t", "x5t#S256"].map (allowed asString) ++
    ["key_ops", "x5c"].map (allowed (asList asString)) ++ [allowed (asName some) "alg"])

def keyTypes : List (Record Unit) :=
  let ofType (type : String) (parts : List (Record Unit)) : Record Unit :=
    shape (present (oneOf [type]) "kty" :: parts)
  let text := present asString
  let curve := present (oneOf curves) "crv"
  [ofType "EC" [curve, text "x", text "y"], ofType "RSA" [text "n", text "e"],
    ofType "oct" [text "k"], ofType "OKP" [curve, text "x"]]

/-- A key of one of the types, inside a header. -/
def asKey : Decoder Unit := fun v =>
  match v with
  | .obj _ => do
      keyRemarks.decode v
      if v.depth < deepest && keyTypes.any fun key => (key.decode v).isOk then return ()
      else throw (.mismatch "no type of key has these parts")
  | v => wrong "a key" v

def header : Record String :=
  (fun alg _ => alg) <$> .need "alg" (oneOf algorithms) <*>
    shape (["typ", "cty", "jku", "kid", "x5u", "x5t", "x5t#S256", "enc", "zip", "url",
        "nonce"].map (allowed asString) ++
      ["x5c", "crit"].map (allowed (asList asString)) ++ [allowed asKey "jwk"])

def algorithm? : Json → Option String
  | .obj members =>
      let isExtra := fun (name, v) =>
        header.fields.any (·.name == name) || (asString v).isOk
      if members.all isExtra then (header.decode (.obj members)).toOption else none
  | _ => none

end Countinghouse.Token
