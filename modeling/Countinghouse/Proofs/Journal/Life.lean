import Countinghouse.Proofs.Journal.Step

/-! # What holds all the life of a journal

Whatever is asked of a journal, in any order and by anyone: who submitted and who
approved it is on record exactly while it counts, totals are equal from submission
on, the approver is neither the creator nor the submitter, and what is posted stays
as it is. -/

set_option autoImplicit false

namespace Countinghouse

namespace JournalState

/-- What is on record fits the status. -/
structure Lawful (state : JournalState) : Prop where
  draft : state.status = .draft → state.submittedBy = none ∧ state.approvedBy = none
  submitted : state.status = .submitted → state.submittedBy ≠ none ∧ state.approvedBy = none
  approved : state.status = .approved → state.submittedBy ≠ none ∧ state.approvedBy ≠ none
  posted : state.status = .posted → state.submittedBy ≠ none ∧ state.approvedBy ≠ none
  balanced : state.status ≠ .draft → state.totals.Balanced
  fourEyes : ∀ approver, state.approvedBy = some approver →
    approver ≠ state.createdBy ∧ state.submittedBy ≠ some approver

theorem Separated.not_maker {state : JournalState} {actor : UserId} {rules : List Rule}
    (separated : state.Separated actor .journalApprove rules) :
    actor ≠ state.createdBy ∧ state.submittedBy ≠ some actor := by
  have outside : actor ∉ state.createdBy :: state.submittedBy.toList := separated.1 rfl
  rw [List.mem_cons, not_or, Option.mem_toList] at outside
  exact outside

/-- A step keeps what is on record lawful.  Balance is established by the submission
and survives because only a draft changes its totals; the approver is compared with
the makers at the approval, and both are forgotten together. -/
theorem lawful_step (state : JournalState) (request : JournalRequest) (after : JournalState)
    (lawful : state.Lawful) (step : state.Step request after) : after.Lawful := by
  cases step with
  | edit permitted status prepared =>
    obtain ⟨unsubmitted, unapproved⟩ := lawful.draft status
    constructor <;> simp [status, unsubmitted, unapproved]
  | submit permitted status balanced separated isOpen =>
    obtain ⟨_, unapproved⟩ := lawful.draft status
    constructor <;> simp [unapproved, balanced]
  | approve permitted status separated =>
    have submitted := (lawful.submitted status).1
    have balanced := lawful.balanced (by simp [status])
    obtain ⟨notCreator, notSubmitter⟩ := separated.not_maker
    constructor <;> simp [submitted, balanced, notCreator, notSubmitter]
  | reject permitted reasoned status =>
    constructor <;> simp
  | post permitted status separated isOpen =>
    obtain ⟨submitted, approved⟩ := lawful.approved status
    have balanced := lawful.balanced (by simp [status])
    constructor <;> simp [submitted, approved, balanced]
    exact lawful.fourEyes

theorem lawful_of_draft {state : JournalState} (status : state.status = .draft)
    (unsubmitted : state.submittedBy = none) (unapproved : state.approvedBy = none) :
    state.Lawful := by
  constructor <;> simp [status, unsubmitted, unapproved]

theorem lawful_run {state : JournalState} (lawful : state.Lawful)
    (requests : List JournalRequest) : (state.run requests).Lawful :=
  run_preserves Lawful lawful_step state requests lawful

theorem createdBy_run (state : JournalState) (requests : List JournalRequest) :
    (state.run requests).createdBy = state.createdBy := by
  refine run_preserves (fun reached => reached.createdBy = state.createdBy) ?_ state requests rfl
  intro reached request after same step
  cases step <;> exact same

theorem posted_refuses {state after : JournalState} {request : JournalRequest}
    (posted : state.status = .posted) : ¬ state.Step request after := by
  intro step
  cases step <;> simp_all

theorem posted_run {state : JournalState} (posted : state.status = .posted)
    (requests : List JournalRequest) : state.run requests = state := by
  induction requests with
  | nil => rfl
  | cons request rest ih =>
    rcases next_cases state request with ⟨_, step⟩ | ⟨_, same⟩
    · exact absurd step (posted_refuses posted)
    · rw [run, same, ih]

theorem Step.period_open {state after : JournalState} {request : JournalRequest}
    (step : state.Step request after) (period : Period) (meant : request.period? = some period) :
    period.status = .open := by
  cases step <;> simp [JournalRequest.period?] at meant <;> subst meant <;> assumption

/-- The life of a journal, from the draft on: every state is lawful, whatever was
submitted or posted was so into an open period, and what is posted is final. -/
theorem run_lawful (state : JournalState) (status : state.status = .draft)
    (unsubmitted : state.submittedBy = none) (unapproved : state.approvedBy = none)
    (requests : List JournalRequest) :
    (state.run requests).Lawful ∧
      (state.run requests).createdBy = state.createdBy ∧
      (∀ earlier request later, requests = earlier ++ request :: later →
        ∀ after, (state.run earlier).answer request = .ok after →
          ∀ period, request.period? = some period → period.status = .open) ∧
      ((state.run requests).status = .posted →
        ∀ more, (state.run requests).run more = state.run requests) := by
  refine ⟨?_, ?_, ?_, ?_⟩
  · exact lawful_run (lawful_of_draft status unsubmitted unapproved) requests
  · exact createdBy_run state requests
  · intro earlier request later _ after answered
    exact (answer_ok_iff.mp answered).period_open
  · exact fun posted more => posted_run posted more

def sample : JournalState :=
  ⟨.draft, Id.ofNat 1, none, none,
    ⟨⟨10000, 2, by decide, by decide⟩, ⟨1000000, 4, by decide, by decide⟩⟩⟩

def samplePeriod : Period :=
  ⟨Id.ofNat 1, ⟨20000, by decide, by decide⟩, ⟨20030, by decide, by decide⟩, .open⟩

/-- The sample is submitted, sent back, submitted by someone else, approved and
posted; its makers try to approve it in between. -/
def sampleLife : List JournalRequest :=
  [.submit (Id.ofNat 2) [.journalSubmit] Rule.baseline samplePeriod,
    .approve (Id.ofNat 2) Permission.all Rule.baseline,
    .reject (Id.ofNat 3) [.journalApprove] "wrong account",
    .submit (Id.ofNat 4) [.journalSubmit] Rule.baseline samplePeriod,
    .approve (Id.ofNat 1) [.journalApprove] Rule.baseline,
    .approve (Id.ofNat 5) [.journalApprove] Rule.baseline,
    .post (Id.ofNat 3) [.journalPost] Rule.baseline false samplePeriod]

theorem sampleLife_lawful :
    sample.status = .draft ∧ sample.submittedBy = none ∧ sample.approvedBy = none ∧
      (sample.run sampleLife).status = .posted ∧
      (sample.run sampleLife).approvedBy = some (Id.ofNat 5) ∧
      (sample.run sampleLife).Lawful ∧
      (∀ more, (sample.run sampleLife).run more = sample.run sampleLife) := by
  have posted : (sample.run sampleLife).status = .posted := by decide
  obtain ⟨lawful, _, _, final⟩ := run_lawful sample rfl rfl rfl sampleLife
  exact ⟨rfl, rfl, rfl, posted, by decide, lawful, final posted⟩

end JournalState

end Countinghouse
