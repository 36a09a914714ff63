import Countinghouse.Proofs.Service.Mediation

/-! # Attempts are recorded

Every attempt at a command leaves one record, which agrees with the request and with the answer.
An attempt that fails leaves nothing else. -/

set_option autoImplicit false

namespace Countinghouse

/-- The identifiers of the rows of which the action creates one. -/
def Store.idsFor (store : Store) : AuditAction → Option (List EntityId)
  | .journalCreate => some (store.journals.map (·.id.recast))
  | .periodCreate => some (store.periods.map (·.period.id.recast))
  | .roleCreate => some (store.roles.map (·.id.recast))
  | .templateCreate => some (store.templates.map (·.id.recast))
  | _ => none

/-- What a record of the command is about: what the path names, the statement line of a match, or
the row that was created, if there is one. -/
inductive Concerns (before after : Store) (resource : Resource) (method : Method)
    (command : Command) (outcome : AuditOutcome) : EntityId → Prop where
  | named {action : AuditAction} {segment : String} {id : EntityId}
      (recorded : resource.recordedAs method = some (action, some segment))
      (read : readId segment = .ok id) :
      Concerns before after resource method command outcome id
  | matched {line : StatementLineId} {payment : PaymentId}
      (asked : command = .matchLine line payment) :
      Concerns before after resource method command outcome line.recast
  | created {ids : List EntityId} {id : EntityId}
      (creates : before.idsFor command.action = some ids) (succeeded : outcome = .success)
      (fresh : id ∉ ids) (stored : after.idsFor command.action = some (ids ++ [id])) :
      Concerns before after resource method command outcome id
  | uncreated {ids : List EntityId} (creates : before.idsFor command.action = some ids)
      (failed : outcome = .failure) :
      Concerns before after resource method command outcome Id.nil

/-- One record was added, which agrees with the request and the answer, and an attempt that failed
changed nothing else. -/
structure Recorded (before after : Store) (response : Response) (claims : Claims)
    (resource : Resource) (method : Method) (command : Command) (record : AuditRecord) : Prop where
  appended : after.auditRecords = before.auditRecords ++ [record]
  tenant : record.entry.tenant = claims.tenant
  actor : record.entry.actor = claims.user
  action : ∃ segment?, resource.recordedAs method = some (record.entry.action, segment?)
  entity : Concerns before after resource method command record.entry.outcome record.entry.entity
  outcome : record.entry.outcome = .success ↔ 200 ≤ response.status ∧ response.status < 300
  errorCode : record.entry.outcome = .failure → ∃ code body,
    record.entry.errorCode = some code ∧ response.body = some body ∧
      body.member? "error" = some (.str code)
  unchanged : record.entry.outcome = .failure → after.withoutTrail = before.withoutTrail

/-! ## Entries -/

structure AuditEntry.Of (ctx : Context) (command : Command) (entry : AuditEntry) : Prop where
  tenant : entry.tenant = ctx.tenant
  actor : entry.actor = ctx.user
  action : entry.action = command.action

namespace Command

variable {ctx : Context} {command : Command} {ending : Ending} {store : Store} {done : Done}

theorem entry_ok (ctx : Context) (command : Command) (ended : ending.result = .ok done) :
    (command.entry ctx ending).Of ctx command ∧
      (command.entry ctx ending).entity = done.created.getD command.entity ∧
      (command.entry ctx ending).outcome = .success := by
  obtain ⟨after, body, created⟩ := done
  simp only [entry, ended]
  cases command.detail? ctx.ledger ending.conflicts <;> cases created <;>
    exact ⟨⟨rfl, rfl, rfl⟩, rfl, rfl⟩

theorem entry_error (ctx : Context) (command : Command) {f : Failure}
    (ended : ending.result = .error f) :
    (command.entry ctx ending).Of ctx command ∧
      (command.entry ctx ending).entity = command.entity ∧
      (command.entry ctx ending).outcome = .failure ∧
      (command.entry ctx ending).errorCode = some f.kind.code := by
  simp only [entry, ended]
  cases command.detail? ctx.ledger ending.conflicts <;> exact ⟨⟨rfl, rfl, rfl⟩, rfl, rfl, rfl⟩

/-! ## Created rows -/

theorem recast_not_mem {α : Type} {kind : Kind} {rows : List α} {key : α → Id kind} {id : Id kind}
    (fresh : ∀ row ∈ rows, key row ≠ id) :
    (id.recast : EntityId) ∉ rows.map fun row => ((key row).recast : EntityId) := by
  rw [List.mem_map]
  rintro ⟨row, present, same⟩
  have values : ((key row).recast : EntityId).value = (id.recast : EntityId).value := by rw [same]
  exact fresh row present (Id.ext_value values)

theorem run_created (succeeded : (command.run ctx store).result = .ok done) :
    match store.idsFor command.action with
    | some ids => ∃ id, done.created = some id ∧ id ∉ ids ∧
        done.store.idsFor command.action = some (ids ++ [id])
    | none => done.created = none := by
  have did := (Store.command_did succeeded).2
  generalize done.store = after, done.created = created at did ⊢
  cases did with
  | created drafted =>
    refine ⟨_, rfl, recast_not_mem (drafted.isNew ▸ drafted.fresh), ?_⟩
    simp [Store.idsFor, action, Store.withDraft]
  | opened opened =>
    refine ⟨_, rfl, recast_not_mem (opened.isNew ▸ opened.fresh), ?_⟩
    simp [Store.idsFor, action, Store.insertPeriod]
  | roleCreated fresh =>
    refine ⟨_, rfl, recast_not_mem fresh, ?_⟩
    simp [Store.idsFor, action]
  | installed installed =>
    refine ⟨_, rfl, recast_not_mem installed.fresh, ?_⟩
    simp [Store.idsFor, action]
  | _ => rfl

end Command

/-! ## Answers -/

theorem FailureKind.status_range (kind : FailureKind) : ¬ kind.status < 300 := by
  cases kind <;> decide

theorem Failure.body_error (f : Failure) : f.body.member? "error" = some (.str f.kind.code) := by
  simp [Failure.body, Json.member?]

theorem Command.successStatus_range (command : Command) :
    200 ≤ command.successStatus ∧ command.successStatus < 300 := by
  cases command <;> simp [successStatus]

namespace Service

variable {service : Service} {arrival : Arrival} {store : Store} {req : Request} {claims : Claims}
  {command : Command} {resource : Resource} {ctx : Context}

/-- Where the path does not name what a command is about, it is a match or creates something. -/
theorem read_entity (store : Store) (decoded : resource.read req = .ok (.command command)) :
    ∃ segment?, resource.recordedAs (Method.ofName req.method) = some (command.action, segment?) ∧
      ((∃ segment, segment? = some segment ∧ readId segment = .ok command.entity ∧
          store.idsFor command.action = none) ∨
        (∃ line payment, command = .matchLine line payment) ∨
        ∃ ids, store.idsFor command.action = some ids ∧ command.entity = Id.nil) := by
  obtain ⟨segment?, recorded, read⟩ := Resource.read_command decoded
  have named_iff := Resource.recordedAs_named_iff recorded
  refine ⟨segment?, recorded, ?_⟩
  cases segment? with
  | some segment =>
    refine Or.inl ⟨segment, rfl, read segment rfl, ?_⟩
    cases command <;> simp [Command.action] at named_iff <;> rfl
  | none =>
    have unnamed := named_iff.mp rfl
    cases command with
    | matchLine line payment => exact Or.inr (Or.inl ⟨line, payment, rfl⟩)
    | createJournal _ | createPeriod _ | createRole _ _ | createTemplate _ =>
      exact Or.inr (Or.inr ⟨_, rfl, rfl⟩)
    | _ => simp [Command.action] at unnamed

theorem concerns_failed {after : Store} (decoded : resource.read req = .ok (.command command)) :
    Concerns store after resource (Method.ofName req.method) command .failure
      command.entity := by
  obtain ⟨segment?, recordedAs, about⟩ := read_entity store decoded
  rcases about with ⟨segment, rfl, read, _⟩ | ⟨line, payment, rfl⟩ | ⟨ids, creates, isNil⟩
  · exact .named recordedAs read
  · exact .matched rfl
  · rw [isNil]
    exact .uncreated creates rfl

theorem concerns_succeeded {done : Done} (records : List AuditRecord)
    (decoded : resource.read req = .ok (.command command))
    (ended : (command.run ctx store).result = .ok done) :
    Concerns store { done.store with auditRecords := records } resource
      (Method.ofName req.method) command .success (done.created.getD command.entity) := by
  have created := Command.run_created ended
  obtain ⟨segment?, recordedAs, about⟩ := read_entity store decoded
  rcases about with ⟨segment, rfl, read, none⟩ | ⟨line, payment, rfl⟩ | ⟨ids, creates, isNil⟩
  · rw [none] at created
    have created : done.created = .none := created
    rw [created]
    exact .named recordedAs read
  · have created : done.created = none := created
    rw [created]
    exact .matched rfl
  · rw [creates] at created
    obtain ⟨id, isNew, fresh, stored⟩ := created
    rw [isNew]
    exact .created creates rfl fresh stored

theorem perform_recorded (decoded : resource.read req = .ok (.command command))
    (reachable : ¬ ctx.outage.Covers .auditRecords) (sameTenant : claims.tenant = ctx.tenant)
    (sameUser : claims.user = ctx.user) :
    ∃ record, Recorded store (command.perform ctx store).1 (command.perform ctx store).2 claims
      resource (Method.ofName req.method) command record := by
  obtain ⟨segment?, recordedAs, _⟩ := Resource.read_command decoded
  have added : ∀ (middle : Store) entry, middle.addRecord ctx entry =
      { middle with auditRecords := middle.auditRecords ++ [⟨ctx.newId 0, entry, ctx.now⟩] } := by
    intro middle entry
    have used : ctx.use .auditRecords = .ok () := Context.use_ok_iff.mpr reachable
    rw [Store.addRecord, used]
  cases ended : (command.run ctx store).result with
  | error f =>
    obtain ⟨of, entity, outcome, errorCode⟩ := command.entry_error ctx ended
    simp only [Command.perform, ended, added, Failure.response]
    refine ⟨_, rfl, of.tenant.trans sameTenant.symm, of.actor.trans sameUser.symm,
      ⟨segment?, by rw [of.action, recordedAs]⟩, ?_, ?_, ?_, ?_⟩
    · rw [entity, outcome]
      exact concerns_failed decoded
    · simp [outcome, FailureKind.status_range]
    · exact fun _ => ⟨_, _, errorCode, rfl, f.body_error⟩
    · exact fun _ => rfl
  | ok done =>
    obtain ⟨of, entity, outcome⟩ := command.entry_ok ctx ended
    have trail := (Store.command_accepted ended).trail
    simp only [Command.perform, ended, added]
    refine ⟨_, by rw [trail], of.tenant.trans sameTenant.symm, of.actor.trans sameUser.symm,
      ⟨segment?, by rw [of.action, recordedAs]⟩, ?_, ?_, ?_, ?_⟩
    · rw [entity, outcome]
      exact concerns_succeeded _ decoded ended
    · simp [outcome, command.successStatus_range]
    · intro failed
      rw [outcome] at failed
      cases failed
    · intro failed
      rw [outcome] at failed
      cases failed

/-- Every authenticated request that asks for a command leaves one record, which says who asked for
what, about what, and with what outcome; and if it fails, it says why, and the request leaves
nothing else.  A request to see something leaves nothing at all. -/
theorem handle_recorded (service : Service) (arrival : Arrival) (store : Store) (req : Request) :
    (∀ claims resource command,
      service.authenticate arrival.time req.authorization = .ok claims →
      Resource.ofPath? req.segments = some resource →
      resource.read req = .ok (.command command) →
      ¬ service.outage.Covers .auditRecords →
      ∃ record, Recorded store (service.handle arrival store req).1
        (service.handle arrival store req).2 claims resource (Method.ofName req.method) command
        record) ∧
    (Method.ofName req.method = .get → (service.handle arrival store req).1 = store) := by
  refine ⟨?_, handle_get⟩
  intro claims resource command authenticated named decoded reachable
  have asks : service.Asks arrival req claims command :=
    ⟨authenticate_ok_iff.mp authenticated, resource, named, decoded⟩
  rw [handle_command asks]
  exact perform_recorded decoded reachable rfl rfl

/-- The sample request succeeds; where roles hold nothing, it is refused. -/
theorem sampleBooks_recorded :
    ∃ resource record refused,
      Recorded (sampleBooks true)
        (sampleService.handle sampleArrival (sampleBooks true) sampleRequest).1
        (sampleService.handle sampleArrival (sampleBooks true) sampleRequest).2
        Token.sampleClaims resource .post (.submitJournal (Id.ofNat 10)) record ∧
      record.entry.outcome = .success ∧
      Recorded powerlessBooks (sampleService.handle sampleArrival powerlessBooks sampleRequest).1
        (sampleService.handle sampleArrival powerlessBooks sampleRequest).2
        Token.sampleClaims resource .post (.submitJournal (Id.ofNat 10)) refused ∧
      refused.entry.outcome = .failure := by
  obtain ⟨token, resource, named, decoded⟩ := sampleRequest_asks
  obtain ⟨record, recorded⟩ := (handle_recorded sampleService sampleArrival (sampleBooks true)
    sampleRequest).1 _ resource _ (authenticate_ok_iff.mpr token) named decoded id
  obtain ⟨refused, refusal⟩ := (handle_recorded sampleService sampleArrival powerlessBooks
    sampleRequest).1 _ resource _ (authenticate_ok_iff.mpr token) named decoded id
  have accepted : (sampleService.handle sampleArrival (sampleBooks true)
      sampleRequest).2.status = 200 := by
    rw [handle_command sampleRequest_asks]
    cbv
  have denied : (sampleService.handle sampleArrival powerlessBooks sampleRequest).2.status =
      403 := by
    rw [handle_command sampleRequest_asks]
    decide +kernel
  have succeeded : record.entry.outcome = .success := by
    rw [recorded.outcome, accepted]
    decide
  have failed : refused.entry.outcome = .failure := by
    cases outcome : refused.entry.outcome with
    | failure => rfl
    | success =>
      rw [refusal.outcome, denied] at outcome
      exact absurd outcome.2 (by decide)
  exact ⟨resource, record, refused, recorded, succeeded, refusal, failed⟩

end Service

end Countinghouse
