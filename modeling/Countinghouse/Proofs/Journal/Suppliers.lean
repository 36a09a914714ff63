import Countinghouse.Proofs.Journal.Duties

/-! # Who supplied the lines

A draft has the lines that were written last, by whoever wrote them; an edit leaves no trace of
its actor.  An approval is held against the creator and the submitter only, and at that time the
submitter on record is the latest one.  So a user who supplied the lines by an edit approves them
like anyone else, unless they also created the journal or submitted it. -/

set_option autoImplicit false

namespace Countinghouse

namespace JournalRequest

def isEdit : JournalRequest → Bool
  | edit _ _ _ _ _ _ => true
  | _ => false

def isSubmission : JournalRequest → Bool
  | submit _ _ _ _ => true
  | _ => false

/-- The user whose creation or latest accepted edit supplied the lines. -/
def supplier (creator : UserId) (accepted : List JournalRequest) : UserId :=
  accepted.foldl (fun last request => if request.isEdit then request.actor else last) creator

def lastSubmitter? (accepted : List JournalRequest) : Option UserId :=
  accepted.foldl (fun last request => if request.isSubmission then some request.actor else last)
    none

theorem lastSubmitter?_append (accepted : List JournalRequest) (request : JournalRequest) :
    lastSubmitter? (accepted ++ [request]) =
      if request.isSubmission then some request.actor else lastSubmitter? accepted := by
  rw [lastSubmitter?, List.foldl_append]
  rfl

end JournalRequest

namespace JournalState

open JournalRequest

def NoSupplierApproves (creator : UserId) (totals : Totals) (requests : List JournalRequest) :
    Prop :=
  ∀ earlier actor held rules later, requests = earlier ++ .approve actor held rules :: later →
    ∀ after, ((created creator totals).run earlier).answer (.approve actor held rules) = .ok after →
      actor ≠ supplier creator ((created creator totals).accepted earlier)

theorem submittedBy_step {state after : JournalState} {request : JournalRequest}
    (step : state.Step request after) (sent : after.status ≠ .draft) :
    after.submittedBy = (if request.isSubmission then some request.actor else state.submittedBy) ∧
      (request.isSubmission = false → state.status ≠ .draft) := by
  cases step with
  | edit permitted status prepared => exact absurd status sent
  | submit permitted status balanced separated isOpen => exact ⟨rfl, by simp [isSubmission]⟩
  | approve permitted status separated => exact ⟨rfl, by simp [status]⟩
  | reject permitted reasoned status => exact absurd rfl sent
  | post permitted status separated isOpen => exact ⟨rfl, by simp [status]⟩

theorem submittedBy_run (creator : UserId) (totals : Totals) (requests : List JournalRequest)
    (sent : ((created creator totals).run requests).status ≠ .draft) :
    ((created creator totals).run requests).submittedBy =
      lastSubmitter? ((created creator totals).accepted requests) := by
  induction requests using List.reverseRecOn with
  | nil => exact absurd rfl sent
  | append_singleton requests request ih =>
    rw [run_append] at sent ⊢
    rw [accepted_append]
    rw [run, run] at sent ⊢
    rcases next_cases ((created creator totals).run requests) request with
      ⟨answered, step⟩ | ⟨⟨refusal, answered⟩, same⟩
    · obtain ⟨recorded, before⟩ := submittedBy_step step sent
      rw [answered, lastSubmitter?_append, recorded]
      cases submission : request.isSubmission with
      | true => rfl
      | false => exact ih (before submission)
    · rw [same] at sent ⊢
      rw [answered, ih sent, List.append_nil]

theorem approve_accepted_iff {state : JournalState} (lawful : state.Lawful) (actor : UserId)
    (held : PermissionSet) (rules : List Rule) :
    (∃ after, state.answer (.approve actor held rules) = .ok after) ↔
      .journalApprove ∈ held ∧ state.status = .submitted ∧ actor ∉ state.makers := by
  rw [accepted_iff_recorded_apart rfl rfl]
  refine ⟨And.left, fun ready => ⟨ready, ?_⟩⟩
  obtain ⟨_, status, stranger⟩ := ready
  have unapproved := (lawful.submitted status).2
  rw [makers, List.mem_cons, not_or] at stranger
  intro step recorded clashes
  rw [priorSteps, unapproved, List.mem_cons] at recorded
  rcases recorded with rfl | recorded
  · exact stranger.1 clashes.1.symm
  · cases submitter : state.submittedBy with
    | none => simp [submitter] at recorded
    | some user =>
      obtain rfl : step = ⟨user, .journalSubmit⟩ := by simpa [submitter] using recorded
      obtain rfl : user = actor := clashes.1
      exact stranger.2 (by simp [submitter])

theorem approve_accepted_run_iff (creator : UserId) (totals : Totals)
    (requests : List JournalRequest) (actor : UserId) (held : PermissionSet) (rules : List Rule) :
    (∃ after, ((created creator totals).run requests).answer (.approve actor held rules) =
        .ok after) ↔
      .journalApprove ∈ held ∧ ((created creator totals).run requests).status = .submitted ∧
        actor ≠ creator ∧
        lastSubmitter? ((created creator totals).accepted requests) ≠ some actor := by
  have lawful : ((created creator totals).run requests).Lawful :=
    lawful_run (lawful_of_draft rfl rfl rfl) requests
  have creatorKept : ((created creator totals).run requests).createdBy = creator :=
    createdBy_run (created creator totals) requests
  rw [approve_accepted_iff lawful, makers, List.mem_cons, not_or, creatorKept, Option.mem_toList]
  refine and_congr_right fun _ => and_congr_right fun status => and_congr_right fun _ => ?_
  rw [submittedBy_run creator totals requests (by simp [status])]

/-- At any time, neither the creator nor the latest submitter approves; one who supplied the
lines approves them exactly when they are neither of the two and the approval is due. -/
theorem supplier_approves_iff (creator : UserId) (totals : Totals)
    (requests : List JournalRequest) :
    let state := (created creator totals).run requests
    let accepted := (created creator totals).accepted requests
    (∀ actor held rules after, state.answer (.approve actor held rules) = .ok after →
        actor ≠ creator ∧ lastSubmitter? accepted ≠ some actor) ∧
      ∀ held rules,
        (∃ after, state.answer (.approve (supplier creator accepted) held rules) = .ok after) ↔
          .journalApprove ∈ held ∧ state.status = .submitted ∧
            supplier creator accepted ≠ creator ∧
            lastSubmitter? accepted ≠ some (supplier creator accepted) := by
  intro state accepted
  constructor
  · intro actor held rules after answered
    exact ((approve_accepted_run_iff creator totals requests actor held rules).mp
      ⟨after, answered⟩).2.2
  · intro held rules
    exact approve_accepted_run_iff creator totals requests (supplier creator accepted) held rules

/-- A journal whose lines someone else rewrites before its creator submits it. -/
def rewritten : List JournalRequest :=
  let amount : Decimal := ⟨70, 0, Decimal.zero.scale_le, by decide⟩
  let account (id : Nat) : Account := ⟨Id.ofNat id, .asset, true, true, false⟩
  [.edit (Id.ofNat 2) [.journalCreate]
      [⟨Id.ofNat 1, amount, .zero, none, .none⟩, ⟨Id.ofNat 2, .zero, amount, none, .none⟩]
      samplePeriod.start [samplePeriod] (Chart.ofList [account 1, account 2]),
    .submit (Id.ofNat 1) [.journalSubmit] Rule.baseline samplePeriod]

/-- With the baseline rules, a user who rewrote the lines of a journal approves it. -/
theorem rewriter_approves :
    ¬ NoSupplierApproves (Id.ofNat 1) sample.totals
      (rewritten ++ [.approve (Id.ofNat 2) [.journalApprove] Rule.baseline]) := by
  intro none_approves
  exact none_approves rewritten (Id.ofNat 2) [.journalApprove] Rule.baseline [] rfl _ rfl rfl

end JournalState

end Countinghouse
