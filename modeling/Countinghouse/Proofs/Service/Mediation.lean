import Countinghouse.Proofs.Service.Requests
import Countinghouse.Proofs.Store.Accepted
import Countinghouse.Proofs.Tenant.Isolation

/-! # Requests are mediated

A request changes nothing but the trail, or it carries a good token and asks for a command that
the user of the token was permitted in the store that the request met. -/

set_option autoImplicit false

namespace Countinghouse

theorem Command.perform_permitted {store : Store} (charted : store.Charted) (ctx : Context)
    (command : Command) :
    command.Permitted store ctx.tenant ctx.user ∨
      (command.perform ctx store).1.withoutTrail = store.withoutTrail := by
  rcases store.after_cases ⟨ctx, command⟩ with
    ⟨done, records, succeeded, reached⟩ | ⟨_, records, _, reached⟩
  · exact Or.inl ((Store.command_accepted succeeded).permitted charted)
  · refine Or.inr ?_
    change (store.after ⟨ctx, command⟩).withoutTrail = store.withoutTrail
    rw [reached]
    rfl

namespace Service

/-- Whatever changes more than the trail was asked for with a good token, and permitted to the user
of the token in the store before the request.  One who holds no permission changes nothing
else. -/
theorem handle_mediated (service : Service) (arrival : Arrival) (store : Store)
    (charted : store.Charted) (req : Request) :
    ((service.handle arrival store req).1.withoutTrail ≠ store.withoutTrail →
      ∃ claims command, service.Asks arrival req claims command ∧
        command.Permitted store claims.tenant claims.user) ∧
    ∀ claims, service.authenticate arrival.time req.authorization = .ok claims →
      (∀ p, ¬ store.Allows claims.tenant claims.user p) →
        (service.handle arrival store req).1.withoutTrail = store.withoutTrail := by
  have mediated : (service.handle arrival store req).1.withoutTrail = store.withoutTrail ∨
      ∃ claims command, service.Asks arrival req claims command ∧
        command.Permitted store claims.tenant claims.user := by
    rcases service.handle_cases arrival store req with same | ⟨claims, command, asks, performed⟩
    · exact Or.inl (congrArg Store.withoutTrail same)
    · rw [performed]
      rcases command.perform_permitted charted (service.context arrival claims) with
        permitted | same
      · exact Or.inr ⟨claims, command, asks, permitted⟩
      · exact Or.inl same
  refine ⟨mediated.resolve_left, ?_⟩
  intro claims authenticated powerless
  refine mediated.resolve_right ?_
  rintro ⟨claims', command, asks, permitted⟩
  have authenticated' := authenticate_ok_iff.mpr asks.token
  obtain rfl := Except.ok.inj (authenticated.symm.trans authenticated')
  obtain ⟨p, allowed⟩ := permitted.some
  exact powerless p allowed

theorem sampleRequest_asks :
    sampleService.Asks sampleArrival sampleRequest Token.sampleClaims
      (.submitJournal (Id.ofNat 10)) := by
  have target : sampleRequest.target =
      "/api/v1/journals/00000000-0000-0000-0000-00000000000a/submit" := by decide +kernel
  have segments : sampleRequest.segments =
      ["api", "v1", "journals", "00000000-0000-0000-0000-00000000000a", "submit"] := by
    rw [Request.segments_eq (by rw [target]; decide) (by rw [target]; decide), target]
    decide +kernel
  have read : readId "00000000-0000-0000-0000-00000000000a" = .ok (Id.ofNat 10 : JournalId) := by
    decide +kernel
  refine ⟨authenticate_ok_iff.mp (authenticate_sign Token.sampleClaims_good),
    .submission "00000000-0000-0000-0000-00000000000a", ?_, ?_⟩
  · rw [segments]
    rfl
  · unfold Resource.read
    rw [show Method.ofName sampleRequest.method = .post from rfl]
    simp only [read]
    rfl

def powerlessBooks : Store := { sampleBooks true with rolePermissions := [] }

theorem sampleBooks_mediated :
    ((sampleService.handle sampleArrival (sampleBooks true) sampleRequest).1.withoutTrail ≠
        (sampleBooks true).withoutTrail ∧
      ∃ claims command, sampleService.Asks sampleArrival sampleRequest claims command ∧
        command.Permitted (sampleBooks true) claims.tenant claims.user) ∧
    (sampleService.handle sampleArrival powerlessBooks sampleRequest).1.withoutTrail =
      powerlessBooks.withoutTrail := by
  have charted : (sampleBooks true).Charted := by constructor <;> decide
  have changes : (sampleService.handle sampleArrival (sampleBooks true)
      sampleRequest).1.withoutTrail ≠ (sampleBooks true).withoutTrail := by
    rw [handle_command sampleRequest_asks]
    intro same
    have statuses := congrArg (fun books => books.journals.map (·.state.status)) same
    have before : (sampleBooks true).withoutTrail.journals.map (·.state.status) =
        [.draft, .draft] := by cbv
    have submitted : ((Command.submitJournal (Id.ofNat 10)).perform
        (sampleService.context sampleArrival Token.sampleClaims)
          (sampleBooks true)).1.withoutTrail.journals.map (·.state.status) =
        [.draft, .submitted] := by cbv
    rw [before, submitted] at statuses
    cases statuses
  constructor
  · exact ⟨changes, (handle_mediated sampleService sampleArrival _ charted sampleRequest).1 changes⟩
  · have charted' : powerlessBooks.Charted := by constructor <;> decide
    refine (handle_mediated sampleService sampleArrival _ charted' sampleRequest).2
      Token.sampleClaims (authenticate_sign Token.sampleClaims_good) ?_
    rintro p ⟨_, _, _, _, _, given, _⟩
    cases given

end Service

end Countinghouse
