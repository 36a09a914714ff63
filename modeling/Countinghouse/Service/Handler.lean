import Countinghouse.Service.Call
import Countinghouse.Token.Claims

/-! # The service

A request is answered from the store and leaves a store.  A path that names
nothing is answered before anyone is asked who they are; all else but the state of
health needs a token, and is done by its user in its tenant. -/

set_option autoImplicit false

namespace Countinghouse

structure Service where
  /-- The secret that tokens are signed with. -/
  secret : String
  ledger : LedgerSettings
  outage : Outage

/-- When a request comes in, and the first identifier it may give to a new row. -/
structure Arrival where
  time : Instant
  base : Nat

namespace Service

def version : String := "0.1.0"

def defaultSecret : String := "change-me-in-production"

def bare (status : Nat) : Response := ⟨status, none⟩

def unauthorized (name message : String) : Response :=
  ⟨401, some (.obj [("error", .str name), ("message", .str message)])⟩

def bearer? (header : String) : Option String :=
  if header.toList.all fun c => c = '\t' || (' ' ≤ c && c ≤ '~') then
    if header.startsWith "Bearer " || header.startsWith "bearer " then
      some (String.ofList (header.toList.drop 7))
    else none
  else none

def authenticate (service : Service) (now : Instant) (authorization : Option String) :
    Except Response Claims :=
  match authorization.bind bearer? with
  | none =>
      .error (unauthorized "missing_token" "Authorization header with Bearer token is required")
  | some token =>
      match Token.validate service.secret now token with
      | .ok claims => .ok claims
      | .error .expired => .error (unauthorized "token_expired" "Token has expired")
      | .error _ => .error (unauthorized "invalid_token" "Invalid or malformed token")

def health (service : Service) : Response :=
  let (status, database) :=
    if service.outage = .all then ("degraded", "down") else ("healthy", "up")
  ⟨200, some (.obj [("status", .str status), ("version", .str version),
    ("database", .str database)])⟩

def context (service : Service) (arrival : Arrival) (claims : Claims) : Context :=
  ⟨claims.tenant, claims.user, arrival.time, arrival.base, service.ledger, service.outage⟩

def perform (ctx : Context) (store : Store) : Call → Store × Response
  | .query query => (store, query.respond ctx store)
  | .command command => command.perform ctx store

def answerFor (service : Service) (arrival : Arrival) (store : Store) (req : Request)
    (resource : Resource) : Store × Response :=
  match service.authenticate arrival.time req.authorization with
  | .error response => (store, response)
  | .ok claims =>
      match resource.read req with
      | .error rejection => (store, bare rejection.status)
      | .ok call => perform (service.context arrival claims) store call

def answer (service : Service) (arrival : Arrival) (store : Store) (req : Request) :
    Store × Response :=
  if req.method = "OPTIONS" then (store, bare 200)
  else
    match Resource.ofPath? req.segments with
    | none => (store, bare Rejection.notFound.status)
    | some .health =>
        if Method.ofName req.method = .get then (store, service.health)
        else (store, bare Rejection.methodNotAllowed.status)
    | some resource => service.answerFor arrival store req resource

/-- Answers a request; the head of an answer has no body. -/
def handle (service : Service) (arrival : Arrival) (store : Store) (req : Request) :
    Store × Response :=
  let (store, response) := service.answer arrival store req
  if req.method = "HEAD" then (store, { response with body := none }) else (store, response)

end Service

end Countinghouse
