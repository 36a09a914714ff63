import Countinghouse.Service.Command
import Countinghouse.Service.MediaType
import Countinghouse.Service.Resource

/-! # Reading requests

A request on a resource is read to a command or a query: first the method, then
the identifiers of the path, then the query or the body.  What cannot be read is
rejected with a bare status. -/

set_option autoImplicit false

namespace Countinghouse

open Json

structure Request where
  method : String
  /-- The path with the query. -/
  target : String
  authorization : Option String
  contentType : Option String
  body : String

inductive Rejection where
  | badRequest
  | notFound
  | methodNotAllowed
  | unsupportedMediaType
  | unprocessable
  deriving DecidableEq, Repr

def Rejection.status : Rejection → Nat
  | badRequest => 400
  | notFound => 404
  | methodNotAllowed => 405
  | unsupportedMediaType => 415
  | unprocessable => 422

inductive Method where
  | get
  | post
  | put
  | patch
  | other
  deriving DecidableEq, Repr

/-- Whoever asks for the head of an answer asks for the answer. -/
def Method.ofName : String → Method
  | "GET" | "HEAD" => get
  | "POST" => post
  | "PUT" => put
  | "PATCH" => patch
  | _ => other

inductive Call where
  | query (query : Query)
  | command (command : Command)

namespace Request

def document {α : Type} (req : Request) (record : Record α) : Except Rejection α :=
  let (v, whole) := Json.read req.body
  match record.decode v with
  | .error (.mismatch _) => .error .unprocessable
  | .error _ => .error .badRequest
  | .ok a => if whole then .ok a else .error .badRequest

def read {α : Type} (req : Request) (record : Record α) : Except Rejection α :=
  match req.contentType with
  | some type => if MediaType.isJson type then req.document record else .error .unsupportedMediaType
  | none => .error .unsupportedMediaType

def readOptional {α : Type} (req : Request) (record : Record α) (missing : α) :
    Except Rejection α :=
  match req.contentType with
  | some _ => req.read record
  | none => .ok missing

def segments (req : Request) : List String := (Address.split req.target).1

def parameter {α : Type} (req : Request) (name : String) (read : String → Option α) :
    Except Rejection (Option α) :=
  match Address.parameter? name read (Address.split req.target).2 with
  | some value => .ok value
  | none => .error .badRequest

def needed {α : Type} (req : Request) (name : String) (read : String → Option α) :
    Except Rejection α := do
  match ← req.parameter name read with
  | some value => return value
  | none => throw .badRequest

end Request

def readSegment (s : String) : Except Rejection String :=
  match Address.segment? s with
  | some t => .ok t
  | none => .error .badRequest

def readId {kind : Kind} (s : String) : Except Rejection (Id kind) := do
  match Id.read? (← readSegment s) with
  | some id => return id
  | none => throw .badRequest

def JournalInput.record : Record JournalInput :=
  JournalInput.mk <$> .need "journalDate" asDate <*> .maybe "description" asString
    <*> .need "lines" (asList Line.decode)

def PeriodInput.record : Record PeriodInput :=
  PeriodInput.mk <$> .maybe "name" asString <*> .need "startDate" asDate <*> .need "endDate" asDate

def TemplateInput.record : Record TemplateInput :=
  TemplateInput.mk <$> .need "name" asString <*> .need "schedule" Schedule.decode
    <*> .need "lines" (asList Line.decode)

namespace Resource

def journalsQuery (req : Request) : Except Rejection Query := do
  let status ← req.parameter "status" some
  let inPeriod ← req.parameter "periodId" Id.read?
  let page ← req.parameter "page" (Text.count? (2 ^ 32))
  let perPage ← req.parameter "perPage" (Text.count? (2 ^ 32))
  let first := PageRequest.first
  return .journals status inPeriod ⟨page.getD first.page, perPage.getD first.perPage⟩

def read (resource : Resource) (req : Request) : Except Rejection Call :=
  let query (q : Query) : Except Rejection Call := return .query q
  let command (c : Command) : Except Rejection Call := return .command c
  match resource, Method.ofName req.method with
  | journals, .get => do query (← journalsQuery req)
  | journals, .post => do command (.createJournal (← req.read JournalInput.record))
  | journal id, .get => do query (.journal (← readId id))
  | journal id, .put => do
      let id ← readId id
      command (.updateJournal id (← req.read JournalInput.record))
  | submission id, .post => do command (.submitJournal (← readId id))
  | approval id, .post => do command (.approveJournal (← readId id))
  | rejection id, .post => do
      let id ← readId id
      command (.rejectJournal id (← req.read (.need "reason" asString)))
  | posting id, .post => do command (.postJournal (← readId id))
  | reversal id, .post => do
      let id ← readId id
      command (.reverseJournal id (← req.readOptional (.maybe "reversalDate" asDate) none))
  | periods, .get => query .periods
  | periods, .post => do command (.createPeriod (← req.read PeriodInput.record))
  | period id, .get => do query (.period (← readId id))
  | closing id, .patch => do command (.closePeriod (← readId id))
  | locking id, .patch => do command (.lockPeriod (← readId id))
  | reopening id, .patch => do command (.reopenPeriod (← readId id))
  | completion id code, .patch => do
      let id ← readId id
      command (.completeItem id (← readSegment code))
  | balances id, .get => do query (.balances (← readId id))
  | permissions, .get => query .permissions
  | roles, .get => query .roles
  | roles, .post => do
      command (← req.read (Command.createRole <$> .need "name" asString
        <*> .maybe "description" asString))
  | rolePermissions id, .post => do
      let id ← readId id
      command (.grantPermission id (← req.read (.need "permission" asString)))
  | userRoles id, .post => do
      let id ← readId id
      command (.assignRole id (← req.read (.need "roleId" asId)))
  | userPermissions id, .get => do query (.userPermissions (← readId id))
  | conflicts, .get => query .conflicts
  | templates, .get => query .templates
  | templates, .post => do command (.createTemplate (← req.read TemplateInput.record))
  | template id, .get => do query (.template (← readId id))
  | generation id, .post => do
      let id ← readId id
      command (.generateJournal id (← req.read (.need "periodId" asId)))
  | bankMatch, .post => do
      command (← req.read (Command.matchLine <$> .need "statementLineId" asId
        <*> .need "paymentId" asId))
  | candidates bank line, .get => do query (.candidates (← readId bank) (← readId line))
  | summary bank, .get => do
      let bank ← readId bank
      let asOf ← req.needed "asOf" Date.read?
      query (.summary bank asOf (← req.needed "closingBalance" Decimal.read?))
  | adjustment bank, .post => do
      let bank ← readId bank
      command (← req.read (Command.createAdjustment bank <$> .need "asOf" asDate
        <*> .need "closingBalance" asDecimal <*> .need "offsetAccountId" asId))
  | audit, .get => do query (.audit (← req.needed "entityId" Id.read?))
  | _, _ => .error .methodNotAllowed

end Resource

end Countinghouse
