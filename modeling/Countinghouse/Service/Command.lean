import Countinghouse.Service.Document
import Countinghouse.Store.Trail

/-! # Commands and queries

What a caller can ask for.  A query reads the store.  A command may change it, and
every attempt at one leaves an audit record, whether it succeeds or not; a command
that fails changes nothing else. -/

set_option autoImplicit false

namespace Countinghouse

inductive Query where
  | journals (status : Option String) (inPeriod : Option PeriodId) (page : PageRequest)
  | journal (id : JournalId)
  | periods
  | period (id : PeriodId)
  | balances (period : PeriodId)
  | permissions
  | roles
  | userPermissions (user : UserId)
  | conflicts
  | templates
  | template (id : TemplateId)
  | candidates (bank : BankAccountId) (line : StatementLineId)
  | summary (bank : BankAccountId) (asOf : Date) (closing : Decimal)
  | audit (entity : EntityId)

inductive Command where
  | createJournal (input : JournalInput)
  | updateJournal (id : JournalId) (input : JournalInput)
  | submitJournal (id : JournalId)
  | approveJournal (id : JournalId)
  | rejectJournal (id : JournalId) (reason : String)
  | postJournal (id : JournalId)
  | reverseJournal (id : JournalId) (date : Option Date)
  | createPeriod (input : PeriodInput)
  | closePeriod (id : PeriodId)
  | lockPeriod (id : PeriodId)
  | reopenPeriod (id : PeriodId)
  | completeItem (period : PeriodId) (code : String)
  | createRole (name : String) (description : Option String)
  | grantPermission (role : RoleId) (code : String)
  | assignRole (user : UserId) (role : RoleId)
  | createTemplate (input : TemplateInput)
  | generateJournal (template : TemplateId) (period : PeriodId)
  | matchLine (line : StatementLineId) (payment : PaymentId)
  | createAdjustment (bank : BankAccountId) (asOf : Date) (closing : Decimal) (offset : AccountId)

structure Response where
  status : Nat
  body : Option Json

def Failure.response (f : Failure) : Response := ⟨f.kind.status, some f.body⟩

def asFailure {ε α : Type} [Refusal ε] (r : Except ε α) : Except Failure α :=
  r.mapError Refusal.failure

namespace Query

def statusOf? : Option String → Except Failure (Option JournalStatus)
  | none => .ok none
  | some s =>
      match JournalStatus.parse? s with
      | some status => .ok (some status)
      | none => .error ⟨.validation, "Unknown journal status: " ++ s⟩

def run (ctx : Context) (store : Store) : Query → Except Failure Json
  | journals status inPeriod page => do
      let status ← statusOf? status
      let (rows, total) ← asFailure (store.listJournals ctx ⟨status, inPeriod⟩ page)
      return page.response (rows.map fun j => .obj j.members) total
  | journal id => (asFailure (store.getJournal ctx id)).map JournalView.toJson
  | periods =>
      (asFailure (store.listPeriods ctx)).map (Json.ofList fun row => .obj row.members)
  | period id => (asFailure (store.getPeriod ctx id)).map PeriodView.toJson
  | balances id => (asFailure (store.periodBalances ctx id)).map (Json.ofList Balance.withNet)
  | permissions => .ok (.ofList Permission.catalogEntry Permission.all)
  | roles => (asFailure (store.listRoles ctx)).map (Json.ofList RoleView.toJson)
  | userPermissions user => (asFailure (store.userPermissions ctx user)).map PermissionSet.toJson
  | conflicts => (asFailure (store.conflicts ctx)).map Conflicts.toJson
  | templates => (asFailure (store.listTemplates ctx)).map (Json.ofList StoredTemplate.toJson)
  | template id => (asFailure (store.getTemplate ctx id)).map StoredTemplate.toJson
  | candidates bank line =>
      (asFailure (store.candidates ctx bank line)).map (Json.ofList Payment.toJson)
  | summary bank asOf closing =>
      (asFailure (store.bankSummary ctx bank asOf closing)).map Summary.toJson
  | audit entity =>
      match store.recordsOf ctx entity with
      | .ok rows => .ok (.ofList AuditRecord.toJson rows)
      | .error f => .error ⟨.database, f.text⟩

def respond (ctx : Context) (store : Store) (query : Query) : Response :=
  match query.run ctx store with
  | .ok body => ⟨200, some body⟩
  | .error f => f.response

end Query

/-- What a command did. -/
structure Done where
  store : Store
  body : Json
  /-- The row that the command created. -/
  created : Option EntityId

/-- How a command ended.  A grant may come with the conflicts it was warned of or
refused for. -/
structure Ending where
  result : Except Failure Done
  conflicts : Option Conflicts

namespace Command

def action : Command → AuditAction
  | createJournal _ => .journalCreate
  | updateJournal _ _ => .journalUpdate
  | submitJournal _ => .journalSubmit
  | approveJournal _ => .journalApprove
  | rejectJournal _ _ => .journalReject
  | postJournal _ => .journalPost
  | reverseJournal _ _ => .journalReverse
  | createPeriod _ => .periodCreate
  | closePeriod _ => .periodClose
  | lockPeriod _ => .periodLock
  | reopenPeriod _ => .periodReopen
  | completeItem _ _ => .checklistComplete
  | createRole _ _ => .roleCreate
  | grantPermission _ _ => .grantPermission
  | assignRole _ _ => .assignRole
  | createTemplate _ => .templateCreate
  | generateJournal _ _ => .recurringGenerate
  | matchLine _ _ => .bankMatch
  | createAdjustment _ _ _ _ => .bankAdjustment

/-- What the command is about; a row that does not exist yet has no identifier. -/
def entity : Command → EntityId
  | createJournal _ | createPeriod _ | createRole _ _ | createTemplate _ => Id.nil
  | updateJournal id _ | submitJournal id | approveJournal id | rejectJournal id _
  | postJournal id | reverseJournal id _ => id.recast
  | closePeriod id | lockPeriod id | reopenPeriod id | completeItem id _ => id.recast
  | grantPermission role _ => role.recast
  | assignRole user _ => user.recast
  | generateJournal template _ => template.recast
  | matchLine line _ => line.recast
  | createAdjustment bank _ _ _ => bank.recast

/-- What the audit record says besides, given the conflicts of a grant. -/
def detail? (ledger : LedgerSettings) (conflicts : Option Conflicts) : Command → Option Json
  | rejectJournal _ reason => some (.obj [("reason", .str reason)])
  | createPeriod input =>
      some (.obj [("startDate", input.start.toJson), ("endDate", input.finish.toJson)])
  | closePeriod _ => some (.obj [("requireChecklist", .bool ledger.requireChecklist)])
  | completeItem _ code => some (.obj [("code", .str code)])
  | grantPermission _ code => some (.obj (("permission", .str code) :: conflictMembers))
  | assignRole _ role => some (.obj (("roleId", role.toJson) :: conflictMembers))
  | generateJournal _ period => some (.obj [("periodId", period.toJson)])
  | matchLine _ payment => some (.obj [("paymentId", payment.toJson)])
  | createAdjustment _ asOf closing offset =>
      some (.obj [("asOf", asOf.toJson), ("closingBalance", closing.toJson),
        ("offsetAccountId", offset.toJson)])
  | _ => none
where
  conflictMembers : List (String × Json) :=
    match conflicts with
    | some c => [("conflicts", c.toJson)]
    | none => []

/-- The status of success: drafting or creating something answers otherwise than
changing it. -/
def successStatus : Command → Nat
  | createJournal _ | reverseJournal _ _ | createPeriod _ | createRole _ _ | createTemplate _
  | generateJournal _ _ | createAdjustment _ _ _ _ => 201
  | _ => 200

def changed {ε α : Type} [Refusal ε] (body : α → Json) (r : Except ε (Store × α)) : Ending :=
  ⟨(asFailure r).map fun (store, a) => ⟨store, body a, none⟩, none⟩

def created {ε α : Type} [Refusal ε] (body : α → Json) (id : α → EntityId)
    (r : Except ε (Store × α)) : Ending :=
  ⟨(asFailure r).map fun (store, a) => ⟨store, body a, some (id a)⟩, none⟩

def granted (r : Except PolicyError (Store × GrantOutcome)) : Ending where
  result := (asFailure r).map fun (store, outcome) => ⟨store, outcome.granted, none⟩
  conflicts := match r with
    | .ok (_, .warned conflicts) => some conflicts
    | .error (.grantConflicts conflicts) => some conflicts
    | _ => none

def run (ctx : Context) (store : Store) : Command → Ending
  | createJournal input =>
      created JournalView.toJson (fun v => v.journal.id.recast) (store.createJournal ctx input)
  | updateJournal id input => changed JournalView.toJson (store.updateJournal ctx id input)
  | submitJournal id => changed JournalView.toJson (store.submitJournal ctx id)
  | approveJournal id => changed JournalView.toJson (store.approveJournal ctx id)
  | rejectJournal id reason => changed JournalView.toJson (store.rejectJournal ctx id reason)
  | postJournal id => changed JournalView.toJson (store.postJournal ctx id)
  | reverseJournal id date => changed JournalView.toJson (store.reverseJournal ctx id date)
  | createPeriod input =>
      created PeriodView.toJson (fun v => v.period.period.id.recast) (store.createPeriod ctx input)
  | closePeriod id => changed PeriodView.toJson (store.closePeriod ctx id)
  | lockPeriod id => changed PeriodView.toJson (store.lockPeriod ctx id)
  | reopenPeriod id => changed PeriodView.toJson (store.reopenPeriod ctx id)
  | completeItem id code => changed ChecklistItem.toJson (store.completeItem ctx id code)
  | createRole name description =>
      created (fun role => RoleView.toJson ⟨role, []⟩) (fun role => role.id.recast)
        (store.createRole ctx name description)
  | grantPermission role code =>
      granted (match Permission.ofCode? code with
        | some p => store.grantPermission ctx role p
        | none => .error (.unknownPermission code))
  | assignRole user role => granted (store.assignRole ctx user role)
  | createTemplate input =>
      created StoredTemplate.toJson (fun row => row.id.recast) (store.createTemplate ctx input)
  | generateJournal template period =>
      changed JournalView.toJson (store.generateJournal ctx template period)
  | matchLine line payment =>
      changed StoredStatementLine.toJson (store.matchLine ctx line payment)
  | createAdjustment bank asOf closing offset =>
      changed JournalView.toJson (store.createAdjustment ctx bank asOf closing offset)

/-- The audit record of an attempt. -/
def entry (ctx : Context) (command : Command) (ending : Ending) : AuditEntry :=
  let start := AuditEntry.start ctx.tenant ctx.user command.action command.entity
  let start := match command.detail? ctx.ledger ending.conflicts with
    | some detail => start.withDetail detail
    | none => start
  let entry := start.finish ending.result
  match ending.result with
  | .ok ⟨_, _, some id⟩ => { entry with entity := id }
  | _ => entry

def perform (ctx : Context) (store : Store) (command : Command) : Store × Response :=
  let ending := command.run ctx store
  let entry := command.entry ctx ending
  match ending.result with
  | .ok done => (done.store.addRecord ctx entry, ⟨command.successStatus, some done.body⟩)
  | .error f => (store.addRecord ctx entry, f.response)

end Command

end Countinghouse
