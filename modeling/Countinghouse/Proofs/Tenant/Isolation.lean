import Countinghouse.Proofs.Store.Balances
import Countinghouse.Proofs.Tenant.Confined
import Countinghouse.Proofs.Token.Signing

/-! # Tenants are isolated

An answer depends on nothing but the rows of the tenant it is given to and the rules of all, and a
request changes nothing but rows of the tenant it is made for. -/

set_option autoImplicit false

namespace Countinghouse

open Store

variable {store : Store} {ctx : Context} {tenant : TenantId}

/-! ## Queries -/

theorem Query.respond_own (owned : store.Owned) (query : Query) :
    query.respond ctx (store.own ctx.tenant) = query.respond ctx store := by
  unfold Query.respond
  have same : query.run ctx (store.own ctx.tenant) = query.run ctx store := by
    cases query with
    | journals status inPeriod page => simp only [Query.run, listJournals_own]
    | journal id => simp only [Query.run, getJournal_own owned]
    | periods => simp only [Query.run, listPeriods_own]
    | period id => simp only [Query.run, getPeriod_own]
    | balances id => simp only [Query.run, periodBalances_own]
    | permissions => rfl
    | roles => simp only [Query.run, listRoles_own]
    | userPermissions user => simp only [Query.run, userPermissions_own]
    | conflicts => simp only [Query.run, conflicts_own]
    | templates => simp only [Query.run, listTemplates_own]
    | template id => simp only [Query.run, getTemplate_own]
    | candidates bank line => simp only [Query.run, candidates_own]
    | summary bank asOf closing => simp only [Query.run, bankSummary_own owned]
    | audit entity => simp only [Query.run, recordsOf_own]
  rw [same]

/-! ## Commands -/

/-- What two commands did: the same but for the rows that the second does not have. -/
structure Done.Same (tenant : TenantId) (before : Store) (done done' : Done) : Prop where
  confined : Confined tenant before done.store done'.store
  body : done'.body = done.body
  created : done'.created = done.created

structure Ending.Same (tenant : TenantId) (before : Store) (ending ending' : Ending) : Prop where
  result : Agree (Done.Same tenant before) ending.result ending'.result
  conflicts : ending'.conflicts = ending.conflicts

namespace Command

theorem changed_same {ε α : Type} [Refusal ε] {r r' : Except ε (Store × α)}
    (agree : Agree (Answered tenant store) r r') (body : α → Json) :
    Ending.Same tenant store (changed body r) (changed body r') := by
  refine ⟨?_, rfl⟩
  cases agree with
  | refused cause => exact .refused _
  | done results =>
    apply Agree.done
    refine ⟨results.confined, ?_, rfl⟩
    exact congrArg body results.answer

theorem created_same {ε α : Type} [Refusal ε] {r r' : Except ε (Store × α)}
    (agree : Agree (Answered tenant store) r r') (body : α → Json) (id : α → EntityId) :
    Ending.Same tenant store (created body id r) (created body id r') := by
  refine ⟨?_, rfl⟩
  cases agree with
  | refused cause => exact .refused _
  | done results =>
    apply Agree.done
    refine ⟨results.confined, ?_, ?_⟩
    · exact congrArg body results.answer
    · exact congrArg (fun a => some (id a)) results.answer

theorem granted_same {r r' : Except PolicyError (Store × GrantOutcome)}
    (agree : Agree (Answered tenant store) r r') :
    Ending.Same tenant store (granted r) (granted r') := by
  cases agree with
  | refused cause => exact ⟨.refused _, rfl⟩
  | @done a b results =>
    obtain ⟨after, outcome⟩ := a
    obtain ⟨kept, outcome'⟩ := b
    obtain ⟨confined, same⟩ := results
    obtain rfl : outcome' = outcome := same
    refine ⟨.done ⟨confined, rfl, rfl⟩, ?_⟩
    cases outcome' <;> rfl

theorem run_same (owned : store.Owned) (unused : store.Unused ctx) (command : Command) :
    Ending.Same ctx.tenant store (command.run ctx store)
      (command.run ctx (store.own ctx.tenant)) := by
  cases command with
  | createJournal input =>
    simp only [run]
    exact created_same (createJournal_confined unused input) _ _
  | updateJournal id input => exact changed_same (updateJournal_confined owned id input) _
  | submitJournal id => exact changed_same (submitJournal_confined owned id) _
  | approveJournal id => exact changed_same (approveJournal_confined owned id) _
  | rejectJournal id reason => exact changed_same (rejectJournal_confined owned id reason) _
  | postJournal id => exact changed_same (postJournal_confined owned id) _
  | reverseJournal id date => exact changed_same (reverseJournal_confined owned unused id date) _
  | createPeriod input =>
    simp only [run]
    exact created_same (createPeriod_confined unused input) _ _
  | closePeriod id => exact changed_same (movePeriod_confined owned id _) _
  | lockPeriod id => exact changed_same (movePeriod_confined owned id _) _
  | reopenPeriod id => exact changed_same (movePeriod_confined owned id _) _
  | completeItem id code => exact changed_same (completeItem_confined id code) _
  | createRole name description =>
    simp only [run]
    exact created_same (createRole_confined unused name description) _ _
  | grantPermission role code =>
    simp only [run]
    cases Permission.ofCode? code with
    | some p => exact granted_same (grantPermission_confined owned role p)
    | none => exact granted_same (.refused _)
  | assignRole user role => exact granted_same (assignRole_confined owned user role)
  | createTemplate input =>
    simp only [run]
    exact created_same (createTemplate_confined unused input) _ _
  | generateJournal template period =>
    exact changed_same (generateJournal_confined owned unused template period) _
  | matchLine line payment => exact changed_same (matchLine_confined owned line payment) _
  | createAdjustment bank asOf closing offset =>
    exact changed_same (createAdjustment_confined owned unused bank asOf closing offset) _

theorem entry_same {ending ending' : Ending} (same : Ending.Same tenant store ending ending')
    (ctx : Context) (command : Command) :
    command.entry ctx ending' = command.entry ctx ending := by
  obtain ⟨result, conflicts⟩ := ending
  obtain ⟨result', conflicts'⟩ := ending'
  obtain ⟨results, rfl⟩ := same
  cases results with
  | refused cause => rfl
  | @done done done' sameDone =>
    obtain ⟨after, body, created⟩ := done
    obtain ⟨kept, body', created'⟩ := done'
    obtain ⟨_, _, sameCreated⟩ := sameDone
    obtain rfl : created' = created := sameCreated
    cases created' <;> rfl

theorem entry_tenant (ctx : Context) (command : Command) (ending : Ending) :
    (command.entry ctx ending).tenant = ctx.tenant := by
  have finished : ∀ start : AuditEntry,
      (start.finish ending.result).tenant = start.tenant := by
    intro start
    cases ending.result <;> rfl
  simp only [entry]
  cases command.detail? ctx.ledger ending.conflicts with
  | none => split <;> exact finished _
  | some detail => split <;> exact finished _

end Command

theorem Store.Confined.addRecord {middle part : Store}
    (first : Confined ctx.tenant store middle part) {entry : AuditEntry}
    (ofTenant : entry.tenant = ctx.tenant) :
    Confined ctx.tenant store (middle.addRecord ctx entry) (part.addRecord ctx entry) := by
  rw [first.own]
  apply first.trans
  unfold Store.addRecord
  split
  · constructor
    · simp [Store.own, ofTenant]
    · intro other differ
      simp [Store.own, ofTenant, differ.symm]
  · exact .refl ..

theorem Command.perform_confined (owned : store.Owned) (unused : store.Unused ctx)
    (command : Command) :
    Answered ctx.tenant store (command.perform ctx store)
      (command.perform ctx (store.own ctx.tenant)) := by
  have same := run_same owned unused command
  have ofTenant := command.entry_tenant ctx (command.run ctx store)
  simp only [perform, entry_same same]
  generalize command.entry ctx (command.run ctx store) = entry at ofTenant
  generalize command.run ctx store = ending at same
  generalize command.run ctx (store.own ctx.tenant) = ending' at same
  obtain ⟨result, conflicts⟩ := ending
  obtain ⟨result', conflicts'⟩ := ending'
  obtain ⟨results, _⟩ := same
  cases results with
  | refused cause => exact ⟨(Confined.refl ctx.tenant store).addRecord ofTenant, rfl⟩
  | done sameDone =>
    refine ⟨sameDone.confined.addRecord ofTenant, ?_⟩
    simp only [sameDone.body]

/-! ## Requests -/

namespace Service

variable {service : Service} {arrival : Arrival} {req : Request} {claims : Claims}

/-- A request is answered from what its tenant owns, and changes nothing else. -/
theorem handle_confined
    (authenticated : service.authenticate arrival.time req.authorization = .ok claims)
    (owned : store.Owned) (unused : store.Unused (service.context arrival claims)) :
    Answered claims.tenant store (service.handle arrival store req)
      (service.handle arrival (store.own claims.tenant) req) := by
  have performed : ∀ call, Answered claims.tenant store
      (perform (service.context arrival claims) store call)
      (perform (service.context arrival claims) (store.own claims.tenant) call) := by
    intro call
    cases call with
    | query query => exact ⟨.refl .., query.respond_own owned⟩
    | command command => exact command.perform_confined owned unused
  have answeredFor : ∀ resource, Answered claims.tenant store
      (service.answerFor arrival store req resource)
      (service.answerFor arrival (store.own claims.tenant) req resource) := by
    intro resource
    simp only [answerFor, authenticated]
    cases resource.read req with
    | error rejection => exact ⟨.refl .., rfl⟩
    | ok call => exact performed call
  have answered : Answered claims.tenant store (service.answer arrival store req)
      (service.answer arrival (store.own claims.tenant) req) := by
    unfold answer
    -- Whatever is answered before the token is looked at is answered without the store.
    split
    · exact ⟨.refl .., rfl⟩
    · split
      · exact ⟨.refl .., rfl⟩
      · split
        · exact ⟨.refl .., rfl⟩
        · exact ⟨.refl .., rfl⟩
      · exact answeredFor _
  simp only [handle]
  split
  · exact ⟨answered.confined, by rw [answered.answer]⟩
  · exact ⟨answered.confined, answered.answer⟩

/-- Two stores that hold the same rows of a tenant give the same answer to a request that is made
for it, hold the same rows of it afterwards, and keep all rows of every other tenant.  The time of
the request and the identifiers that it gives to new rows are the same for both, and no other
tenant has used these. -/
theorem handle_isolated {first second : Store}
    (authenticated : service.authenticate arrival.time req.authorization = .ok claims)
    (owned : first.Owned) (owned' : second.Owned)
    (unused : first.Unused (service.context arrival claims))
    (unused' : second.Unused (service.context arrival claims))
    (same : first.own claims.tenant = second.own claims.tenant) :
    (service.handle arrival first req).2 = (service.handle arrival second req).2 ∧
      (service.handle arrival first req).1.own claims.tenant =
        (service.handle arrival second req).1.own claims.tenant ∧
      ∀ other, other ≠ claims.tenant →
        (service.handle arrival first req).1.own other = first.own other ∧
          (service.handle arrival second req).1.own other = second.own other := by
  have onFirst := handle_confined authenticated owned unused
  have onSecond := handle_confined authenticated owned' unused'
  rw [← same] at onSecond
  refine ⟨?_, ?_, ?_⟩
  · rw [← onFirst.answer, onSecond.answer]
  · rw [← onFirst.confined.own, onSecond.confined.own]
  · intro other differ
    exact ⟨onFirst.confined.others other differ, onSecond.confined.others other differ⟩

/-- The books of a tenant with a draft, and of a second tenant with a draft in a period and on
accounts of its own if it is there.  The first user acts in both. -/
def sampleBooks (second : Bool) : Store :=
  let draft (tenant : TenantId) (id : Nat) (period : PeriodId) : Journal :=
    ⟨Id.ofNat id, tenant, period, JournalState.samplePeriod.start, none, JournalState.sample, none,
      none, none, none, ⟨1728000000⟩, ⟨1728000000⟩⟩
  let lines (tenant : TenantId) (journal account : Nat) : List StoredLine :=
    [⟨Id.ofNat (journal + 1), tenant, Id.ofNat journal, 1,
        ⟨Id.ofNat account, JournalState.sample.totals.debit, .zero, none, .none⟩⟩,
      ⟨Id.ofNat (journal + 2), tenant, Id.ofNat journal, 2,
        ⟨Id.ofNat (account + 1), .zero, JournalState.sample.totals.debit, none, .none⟩⟩]
  let first : Store :=
    { newBooks with
      journals := [draft (Id.ofNat 1) 10 (Id.ofNat 1)]
      journalLines := lines (Id.ofNat 1) 10 1 }
  if second then
    { first with
      userRoles := ⟨Id.ofNat 2, Id.ofNat 1, Id.ofNat 2⟩ :: first.userRoles
      rolePermissions := ⟨Id.ofNat 2, Id.ofNat 2, Permission.code .journalApprove⟩ ::
        first.rolePermissions
      accounts := ⟨Id.ofNat 2, Id.ofNat 3, .asset, true, true, false⟩ ::
        ⟨Id.ofNat 2, Id.ofNat 4, .asset, true, true, false⟩ :: first.accounts
      periods := ⟨Id.ofNat 2, { JournalState.samplePeriod with id := Id.ofNat 2 }, "other", none,
        none, none⟩ :: first.periods
      journals := draft (Id.ofNat 2) 20 (Id.ofNat 2) :: first.journals
      journalLines := lines (Id.ofNat 2) 20 3 ++ first.journalLines }
  else first

def sampleService : Service := ⟨"k", .default, .none⟩

def sampleRequest : Request :=
  ⟨"POST", "/api/v1/journals/" ++ (Id.ofNat 10 : JournalId).text ++ "/submit",
    some ("Bearer " ++ Token.sign sampleService.secret Token.sampleClaims), none, ""⟩

def sampleArrival : Arrival := ⟨⟨1728000000⟩, 100⟩

theorem sampleBooks_isolated :
    (sampleService.handle sampleArrival (sampleBooks false) sampleRequest).2 =
        (sampleService.handle sampleArrival (sampleBooks true) sampleRequest).2 ∧
      (sampleService.handle sampleArrival (sampleBooks true) sampleRequest).1.own (Id.ofNat 2) =
        (sampleBooks true).own (Id.ofNat 2) := by
  have authenticated : sampleService.authenticate sampleArrival.time sampleRequest.authorization =
      .ok Token.sampleClaims := authenticate_sign Token.sampleClaims_good
  have owned : (sampleBooks false).Owned := by constructor <;> decide
  have owned' : (sampleBooks true).Owned := by constructor <;> decide
  have unused : (sampleBooks false).Unused
      (sampleService.context sampleArrival Token.sampleClaims) := by
    constructor <;> decide
  have unused' : (sampleBooks true).Unused
      (sampleService.context sampleArrival Token.sampleClaims) := by
    constructor <;> decide
  have same : (sampleBooks false).own Token.sampleClaims.tenant =
      (sampleBooks true).own Token.sampleClaims.tenant := by
    rfl
  obtain ⟨answers, _, others⟩ :=
    handle_isolated authenticated owned owned' unused unused' same
  exact ⟨answers, (others (Id.ofNat 2) (by decide)).2⟩

end Service

end Countinghouse
