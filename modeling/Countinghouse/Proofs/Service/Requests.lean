import Countinghouse.Proofs.Json.Records
import Countinghouse.Proofs.Text.Splitting
import Countinghouse.Service.Handler

/-! # What a request asks for

Only a request that is authenticated, on a path and with a method of a command, and that can be
read, does anything to the store. -/

set_option autoImplicit false

namespace Countinghouse

/-! ## Identifiers and bodies -/

theorem Id.read?_recast {kind other : Kind} {s : String} {id : Id kind}
    (read : Id.read? s = some id) : Id.read? s = some (id.recast : Id other) := by
  unfold Id.read? at read ⊢
  split at read
  case h_2 => cases read
  split at read
  case isFalse => cases read
  rename_i value _ bounded
  obtain rfl := Option.some.inj read
  exact dif_pos bounded

theorem readId_recast {kind other : Kind} {segment : String} {id : Id kind}
    (read : readId segment = .ok id) : readId segment = .ok (id.recast : Id other) := by
  simp only [readId, bind_ok_iff] at read ⊢
  obtain ⟨text, readable, read⟩ := read
  refine ⟨text, readable, ?_⟩
  split at read
  case h_2 => simp only [throw_ok_iff] at read
  rename_i parsed
  rw [Id.read?_recast parsed, pure_ok_iff.mp read]
  rfl

theorem Request.read_ok {α : Type} {req : Request} {record : Json.Record α} {a : α}
    (read : req.read record = .ok a) : ∃ find, record.build find = .ok a := by
  unfold Request.read at read
  split at read
  case h_2 => cases read
  split at read
  case isFalse => cases read
  simp only [document] at read
  split at read
  · cases read
  · cases read
  rename_i decoded
  split at read
  case isFalse => cases read
  cases read
  exact Json.Record.decode_ok decoded

/-! ## Paths and methods -/

theorem Address.splitFirst_absent {mark : Char} {s : String} (absent : mark ∉ s.toList) :
    splitFirst mark s = (s, none) := by
  unfold splitFirst
  rw [Text.splitOn_mark, List.splitOn_eq_singleton absent, List.map_singleton]

theorem Request.segments_eq {req : Request} (noFragment : '#' ∉ req.target.toList)
    (noQuery : '?' ∉ req.target.toList) :
    req.segments = ((req.target.toList.splitOn '/').map String.ofList).drop 1 := by
  rw [← Text.splitOn_mark]
  simp only [segments, Address.split, Address.splitFirst_absent noFragment,
    Address.splitFirst_absent noQuery]
  rfl

namespace Resource

/-- What an attempt is recorded as: the action, and the segment of the path that names what it is
about, unless that is created or stands in the body. -/
def recordedAs : Resource → Method → Option (AuditAction × Option String)
  | journals, .post => some (.journalCreate, none)
  | journal id, .put => some (.journalUpdate, some id)
  | submission id, .post => some (.journalSubmit, some id)
  | approval id, .post => some (.journalApprove, some id)
  | rejection id, .post => some (.journalReject, some id)
  | posting id, .post => some (.journalPost, some id)
  | reversal id, .post => some (.journalReverse, some id)
  | periods, .post => some (.periodCreate, none)
  | closing id, .patch => some (.periodClose, some id)
  | locking id, .patch => some (.periodLock, some id)
  | reopening id, .patch => some (.periodReopen, some id)
  | completion id _, .patch => some (.checklistComplete, some id)
  | roles, .post => some (.roleCreate, none)
  | rolePermissions id, .post => some (.grantPermission, some id)
  | userRoles id, .post => some (.assignRole, some id)
  | templates, .post => some (.templateCreate, none)
  | generation id, .post => some (.recurringGenerate, some id)
  | bankMatch, .post => some (.bankMatch, none)
  | adjustment bank, .post => some (.bankAdjustment, some bank)
  | _, _ => none

variable {resource : Resource} {req : Request} {command : Command}

theorem recordedAs_get (resource : Resource) : resource.recordedAs .get = none := by
  cases resource <;> rfl

theorem recordedAs_other (resource : Resource) : resource.recordedAs .other = none := by
  cases resource <;> rfl

/-- The path names what an attempt is about, unless that is created or stands in the body. -/
theorem recordedAs_named_iff {method : Method} {action : AuditAction} {segment? : Option String}
    (recorded : resource.recordedAs method = some (action, segment?)) :
    segment? = none ↔
      action ∈ [.journalCreate, .periodCreate, .roleCreate, .templateCreate, .bankMatch] := by
  unfold recordedAs at recorded
  split at recorded <;> cases recorded <;> simp

theorem read_command (decoded : resource.read req = .ok (.command command)) :
    ∃ segment?, resource.recordedAs (Method.ofName req.method) = some (command.action, segment?) ∧
      ∀ segment ∈ segment?, readId segment = .ok command.entity := by
  unfold read at decoded
  generalize Method.ofName req.method = method at decoded
  have named {kind : Kind} {segment : String} {id : Id kind} (read : readId segment = .ok id) :
      ∀ other ∈ some segment, readId other = .ok (id.recast : EntityId) := by
    rintro _ ⟨⟩
    exact readId_recast read
  cases method with
  | get =>
    cases resource <;>
      simp only [bind_ok_iff, pure_ok_iff, reduceCtorEq, and_false, exists_false] at decoded
  | put =>
    cases resource with
    | journal id =>
      simp only [bind_ok_iff, pure_ok_iff, Call.command.injEq] at decoded
      obtain ⟨_, read, _, _, rfl⟩ := decoded
      exact ⟨_, rfl, named read⟩
    | _ => cases decoded
  | patch =>
    cases resource with
    | closing id | locking id | reopening id =>
      simp only [bind_ok_iff, pure_ok_iff, Call.command.injEq] at decoded
      obtain ⟨_, read, rfl⟩ := decoded
      exact ⟨_, rfl, named read⟩
    | completion id code =>
      simp only [bind_ok_iff, pure_ok_iff, Call.command.injEq] at decoded
      obtain ⟨_, read, _, _, rfl⟩ := decoded
      exact ⟨_, rfl, named read⟩
    | _ => cases decoded
  | post =>
    cases resource with
    | journals | periods | templates =>
      simp only [bind_ok_iff, pure_ok_iff, Call.command.injEq] at decoded
      obtain ⟨_, _, rfl⟩ := decoded
      exact ⟨none, rfl, nofun⟩
    | roles | bankMatch =>
      simp only [bind_ok_iff, pure_ok_iff, Call.command.injEq] at decoded
      obtain ⟨_, read, rfl⟩ := decoded
      obtain ⟨_, built⟩ := Request.read_ok read
      simp only [Json.Record.build_seq_iff, Json.Record.build_map_iff] at built
      obtain ⟨_, _, ⟨_, _, rfl⟩, _, rfl⟩ := built
      exact ⟨none, rfl, nofun⟩
    | submission id | approval id | posting id =>
      simp only [bind_ok_iff, pure_ok_iff, Call.command.injEq] at decoded
      obtain ⟨_, read, rfl⟩ := decoded
      exact ⟨_, rfl, named read⟩
    | rejection id | reversal id | rolePermissions id | userRoles id | generation id =>
      simp only [bind_ok_iff, pure_ok_iff, Call.command.injEq] at decoded
      obtain ⟨_, read, _, _, rfl⟩ := decoded
      exact ⟨_, rfl, named read⟩
    | adjustment bank =>
      simp only [bind_ok_iff, pure_ok_iff, Call.command.injEq] at decoded
      obtain ⟨_, read, _, body, rfl⟩ := decoded
      obtain ⟨_, built⟩ := Request.read_ok body
      simp only [Json.Record.build_seq_iff, Json.Record.build_map_iff] at built
      obtain ⟨_, _, ⟨_, _, ⟨_, _, rfl⟩, _, rfl⟩, _, rfl⟩ := built
      exact ⟨_, rfl, named read⟩
    | _ => cases decoded
  | other => cases resource <;> cases decoded

end Resource

/-! ## Answers -/

namespace Service

variable {service : Service} {arrival : Arrival} {store : Store} {req : Request} {claims : Claims}
  {command : Command}

/-- The request carries a token that is good when it comes in, and asks for the command. -/
structure Asks (service : Service) (arrival : Arrival) (req : Request) (claims : Claims)
    (command : Command) : Prop where
  token : ∃ token, req.authorization.bind bearer? = some token ∧
    Token.validate service.secret arrival.time token = .ok claims
  reads : ∃ resource, Resource.ofPath? req.segments = some resource ∧
    resource.read req = .ok (.command command)

theorem authenticate_ok_iff {authorization : Option String} {claims : Claims} :
    service.authenticate arrival.time authorization = .ok claims ↔
      ∃ token, authorization.bind bearer? = some token ∧
        Token.validate service.secret arrival.time token = .ok claims := by
  unfold authenticate
  cases authorization.bind bearer? with
  | none => simp
  | some token =>
    simp only [Option.some.injEq, exists_eq_left']
    cases Token.validate service.secret arrival.time token with
    | ok validated => simp
    | error flaw => cases flaw <;> simp

theorem handle_store (service : Service) (arrival : Arrival) (store : Store) (req : Request) :
    (service.handle arrival store req).1 = (service.answer arrival store req).1 := by
  simp only [handle]
  split <;> rfl

/-- A request leaves the store as it is, or what the command that it asks for leaves. -/
theorem handle_cases (service : Service) (arrival : Arrival) (store : Store) (req : Request) :
    (service.handle arrival store req).1 = store ∨
      ∃ claims command, service.Asks arrival req claims command ∧
        (service.handle arrival store req).1 =
          (command.perform (service.context arrival claims) store).1 := by
  rw [handle_store]
  unfold answer
  split
  · exact Or.inl rfl
  split
  · exact Or.inl rfl
  · split
    · exact Or.inl rfl
    · exact Or.inl rfl
  rename_i resource _ named
  unfold answerFor
  cases authenticated : service.authenticate arrival.time req.authorization with
  | error response => exact Or.inl rfl
  | ok claims =>
    cases decoded : resource.read req with
    | error rejection => exact Or.inl rfl
    | ok call =>
      cases call with
      | query query => exact Or.inl rfl
      | command command =>
        exact Or.inr ⟨claims, command,
          ⟨authenticate_ok_iff.mp authenticated, resource, named, decoded⟩, rfl⟩

theorem handle_command (asks : service.Asks arrival req claims command) :
    service.handle arrival store req =
      command.perform (service.context arrival claims) store := by
  obtain ⟨token, resource, named, decoded⟩ := asks
  obtain ⟨_, recorded, _⟩ := Resource.read_command decoded
  have notOptions : req.method ≠ "OPTIONS" := by
    intro isOptions
    rw [isOptions, show Method.ofName "OPTIONS" = .other from rfl,
      Resource.recordedAs_other] at recorded
    cases recorded
  have notHead : req.method ≠ "HEAD" := by
    intro isHead
    rw [isHead, show Method.ofName "HEAD" = .get from rfl, Resource.recordedAs_get] at recorded
    cases recorded
  have notHealth : resource ≠ .health := by
    rintro rfl
    cases recorded
  have answered : service.answer arrival store req =
      service.answerFor arrival store req resource := by
    unfold answer
    rw [if_neg notOptions, named]
    cases resource with
    | health => exact absurd rfl notHealth
    | _ => rfl
  simp only [handle, answered, answerFor, authenticate_ok_iff.mpr token, decoded, perform,
    if_neg notHead]

theorem handle_get (isGet : Method.ofName req.method = .get) :
    (service.handle arrival store req).1 = store := by
  rcases service.handle_cases arrival store req with same | ⟨claims, command, asks, _⟩
  · exact same
  · obtain ⟨_, resource, _, decoded⟩ := asks
    obtain ⟨_, recorded, _⟩ := Resource.read_command decoded
    rw [isGet, Resource.recordedAs_get] at recorded
    cases recorded

end Service

end Countinghouse
