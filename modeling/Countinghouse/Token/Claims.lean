import Countinghouse.Token.Base64
import Countinghouse.Token.Digest
import Countinghouse.Token.Header

/-! # Access tokens

A token has three parts between points: a header that names the algorithm, the
claims, and a code over both under the secret of the service.  It says which user
acts in which tenant, and until when.  A token is good for a minute after it has
expired, and never if it is meant for another audience. -/

set_option autoImplicit false

namespace Countinghouse

structure Claims where
  user : UserId
  tenant : TenantId
  /-- Seconds since the start of 1970. -/
  issued : Int
  expires : Int
  deriving DecidableEq

inductive TokenError where
  | invalidToken
  | base64
  | json
  | invalidAlgorithm
  | invalidSignature
  | missingClaim
  | invalidAudience
  | expired
  deriving DecidableEq, Repr

namespace TokenError

def reason : TokenError → String
  | invalidToken => "InvalidToken"
  | base64 => "Base64 error"
  | json => "JSON error"
  | invalidAlgorithm => "InvalidAlgorithm"
  | invalidSignature => "InvalidSignature"
  | missingClaim => "Missing required claim"
  | invalidAudience => "InvalidAudience"
  | expired => "ExpiredSignature"

def message : TokenError → String
  | expired => "token has expired"
  | e => "failed to decode token: " ++ e.reason

def name : TokenError → String
  | expired => "Expired"
  | _ => "DecodingError"

end TokenError

namespace Token

open Json

def claims : Record Claims :=
  Claims.mk <$> .need "sub" asId <*> .need "tid" asId <*> .need "iat" asInt64
    <*> .need "exp" asInt64
where
  asInt64 : Decoder Int := asIntegerIn (-(2 ^ 63)) (2 ^ 63)

/-- A claim that is passed over as a whole: its value, or a fault that its end
shows. -/
def isPassable (v : Json) : Bool :=
  match v with
  | .unfit late => late
  | v => v.complete && v.depth < deepest

/-- A time before which a token is not good is not looked at, but it is read as a
single value: nothing is read inside an array or an object. -/
def isFlat : Json → Bool
  | .arr items => items.isEmpty
  | .obj members => members.isEmpty
  | v => isPassable v

/-- The claims that any token may make are made once each, by values that can be
passed over. -/
def areRegistered (members : List (String × Json)) : Bool :=
  ["exp", "nbf", "sub", "iss", "aud"].all (fun name =>
    (members.filter (·.1 == name)).length ≤ 1) &&
  members.all fun (name, v) =>
    if name = "nbf" then isFlat v
    else if name = "iss" ∨ name = "aud" then isPassable v
    else true

def hasAudience (payload : Json) : Bool :=
  match payload.member? "aud" with
  | some (.str _) => true
  | some (.arr items) => items.all fun item =>
      match item with
      | .str _ => true
      | _ => false
  | _ => false

def splitLast? (s : String) : Option (String × String) :=
  match (s.splitOn ".").reverse with
  | last :: part :: parts => some (String.intercalate "." (part :: parts).reverse, last)
  | _ => none

def part (s : String) : Except TokenError (List UInt8) :=
  match Base64.decode? s with
  | some bytes => .ok bytes
  | none => .error .base64

/-- The claims of a payload, which has to be an object, and the payload itself. -/
def payload (bytes : List UInt8) : Except TokenError (Claims × Json) :=
  match Json.readBytes bytes with
  | (.obj members, true) =>
      match claims.decode (.obj members) with
      | .ok c => if areRegistered members then .ok (c, .obj members) else .error .json
      | .error _ => .error .json
  | _ => .error .json

/-- Seconds for which an expired token is still good. -/
def leeway : Int := 60

def check (bytes : List UInt8) (now : Instant) : Except TokenError Claims := do
  let (c, document) ← payload bytes
  if c.expires < 0 then throw .missingClaim
  if c.expires < now.seconds - leeway then throw .expired
  if hasAudience document then throw .invalidAudience
  return c

/-- The claims of a token, if it was signed with the secret and is good at the
moment `now`. -/
def validate (secret : String) (now : Instant) (token : String) : Except TokenError Claims :=
  match splitLast? token with
  | none => .error .invalidToken
  | some (signed, signature) =>
      match splitLast? signed with
      | none => .error .invalidToken
      | some (header, claims) => do
          match (Json.parseBytes? (← part header)).bind algorithm? with
          | none => throw .json
          | some alg => if alg ≠ "HS256" then throw .invalidAlgorithm
          if (← part signature) ≠ Digest.authenticate (Text.bytes secret) (Text.bytes signed) then
            throw .invalidSignature
          check (← part claims) now

def sign (secret : String) (c : Claims) : String :=
  let header : Json := .obj [("typ", .str "JWT"), ("alg", .str "HS256")]
  let payload : Json := .obj [("sub", .str c.user.text), ("tid", .str c.tenant.text),
    ("iat", .int c.issued), ("exp", .int c.expires)]
  let written (v : Json) : String := Base64.encode (Text.bytes v.text)
  let signed := written header ++ "." ++ written payload
  signed ++ "." ++ Base64.encode (Digest.authenticate (Text.bytes secret) (Text.bytes signed))

end Token

end Countinghouse
