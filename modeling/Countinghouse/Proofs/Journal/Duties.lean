import Countinghouse.Proofs.Journal.Life
import Mathlib.Data.List.Induction

/-! # The separation of duties over the life of a journal

A submission, an approval or a posting is held against what its actor did before on
the same journal, as far as that is on record.  The creation always is; a submission
or an approval is until the journal is sent back; an edit or a rejection never is.
`accepted_iff_standing_apart` says exactly which earlier steps decide and which have
lapsed. -/

set_option autoImplicit false

namespace Countinghouse

/-- An active rule keeps the step apart from exercising `p` by the same actor. -/
def PriorStep.Clashes (step : PriorStep) (rules : List Rule) (actor : UserId) (p : Permission) :
    Prop :=
  step.actor = actor ∧ ∃ rule ∈ rules, rule.active = true ∧ rule.Pairs step.permission p

namespace JournalRequest

/-- The permission that a request exercises.  A posting exercises the one selected for
it, and none where none is held. -/
def exercised? : JournalRequest → Option Permission
  | edit _ _ _ _ _ _ => some .journalCreate
  | submit _ _ _ _ => some .journalSubmit
  | approve _ _ _ | reject _ _ _ => some .journalApprove
  | post _ held _ finalPost _ => (held.toPost finalPost).toOption

def step? (request : JournalRequest) : Option PriorStep :=
  request.exercised?.map fun p => ⟨request.actor, p⟩

/-- The rules that a request is held against; edits and rejections are held against none. -/
def rules? : JournalRequest → Option (List Rule)
  | submit _ _ rules _ | approve _ _ rules | post _ _ rules _ _ => some rules
  | _ => none

def isRejection : JournalRequest → Bool
  | reject _ _ _ => true
  | _ => false

def isRecorded : JournalRequest → Bool
  | submit _ _ _ _ | approve _ _ _ => true
  | _ => false

def stands (request : JournalRequest) (since : List JournalRequest) : Bool :=
  request.isRecorded && !since.any isRejection

/-- The steps of accepted requests that are still on record. -/
def standing : List JournalRequest → List PriorStep
  | [] => []
  | request :: rest =>
      if request.stands rest then request.step?.toList ++ standing rest else standing rest

/-- The steps of accepted requests that are not on record, or not any more. -/
def lapsed : List JournalRequest → List PriorStep
  | [] => []
  | request :: rest =>
      if request.stands rest then lapsed rest else request.step?.toList ++ lapsed rest

end JournalRequest

namespace JournalState

open JournalRequest

def created (creator : UserId) (totals : Totals) : JournalState :=
  ⟨.draft, creator, none, none, totals⟩

def creation (creator : UserId) : PriorStep := ⟨creator, .journalCreate⟩

def stepsTaken (creator : UserId) (totals : Totals) (requests : List JournalRequest) :
    List PriorStep :=
  creation creator :: ((created creator totals).accepted requests).filterMap step?

/-- All that a submission, an approval or a posting needs besides the rules. -/
def Ready (state : JournalState) : JournalRequest → Prop
  | .submit _ held _ period =>
      .journalSubmit ∈ held ∧ state.status = .draft ∧ state.totals.Balanced ∧
        period.status = .open
  | .approve actor held _ =>
      .journalApprove ∈ held ∧ state.status = .submitted ∧ actor ∉ state.makers
  | .post _ held _ finalPost period =>
      (held.toPost finalPost).toOption ≠ none ∧ state.status = .approved ∧ period.status = .open
  | _ => True

/-- Whatever is submitted, approved or posted is apart from all that its actor did
before on the journal. -/
def KeepsDutiesApart (creator : UserId) (totals : Totals) (requests : List JournalRequest) :
    Prop :=
  ∀ earlier request later, requests = earlier ++ request :: later →
    ∀ rules, request.rules? = some rules → ∀ p, request.exercised? = some p →
      ∀ after, ((created creator totals).run earlier).answer request = .ok after →
        ∀ step ∈ stepsTaken creator totals earlier, ¬ step.Clashes rules request.actor p

/-! ## What is on record -/

theorem mem_steps_iff (step : PriorStep) (accepted : List JournalRequest) :
    step ∈ accepted.filterMap step? ↔ step ∈ standing accepted ∨ step ∈ lapsed accepted := by
  induction accepted with
  | nil => simp [standing, lapsed]
  | cons request rest ih =>
    rw [List.filterMap_cons, standing, lapsed]
    cases request.stands rest <;> cases request.step? <;> simp [ih, or_assoc, or_left_comm]

/-- A rejection clears what stands; any other request leaves it, and is added if it
is recorded. -/
theorem standing_append (accepted : List JournalRequest) (request : JournalRequest) :
    standing (accepted ++ [request]) =
      if request.isRejection then []
      else standing accepted ++ if request.isRecorded then request.step?.toList else [] := by
  induction accepted with
  | nil => cases request <;> simp [standing, stands, isRejection, isRecorded]
  | cons first rest ih =>
    have since : first.stands (rest ++ [request]) =
        (first.stands rest && !request.isRejection) := by
      simp [stands, Bool.and_assoc]
    rw [List.cons_append, standing, standing, since, ih]
    cases request.isRejection <;> cases first.stands rest <;> simp

theorem accepted_append (state : JournalState) (requests : List JournalRequest)
    (request : JournalRequest) :
    state.accepted (requests ++ [request]) =
      state.accepted requests ++
        match (state.run requests).answer request with
        | .ok _ => [request]
        | .error _ => [] := by
  induction requests generalizing state with
  | nil => cases answered : state.answer request <;> simp [accepted, run, answered]
  | cons first rest ih =>
    cases answered : state.answer first with
    | ok after => simp [accepted, run, next, answered, ih]
    | error refusal => simp [accepted, run, next, answered, ih]

theorem priorSteps_step {state after : JournalState} {request : JournalRequest}
    (lawful : state.Lawful) (step : state.Step request after) :
    after.priorSteps =
      if request.isRejection then [creation state.createdBy]
      else state.priorSteps ++ if request.isRecorded then request.step?.toList else [] := by
  cases step with
  | edit permitted status prepared => simp [priorSteps, isRejection, isRecorded]
  | submit permitted status balanced separated isOpen =>
    obtain ⟨unsubmitted, unapproved⟩ := lawful.draft status
    simp [priorSteps, isRejection, isRecorded, unsubmitted, unapproved, step?, exercised?, actor]
  | approve permitted status separated =>
    obtain ⟨_, unapproved⟩ := lawful.submitted status
    simp [priorSteps, isRejection, isRecorded, unapproved, step?, exercised?, actor]
  | reject permitted reasoned status => simp [priorSteps, isRejection, creation]
  | post permitted status separated isOpen => simp [priorSteps, isRejection, isRecorded]

/-- What is on record after a run: the creation, and what stands of the accepted
requests. -/
theorem priorSteps_run (creator : UserId) (totals : Totals) (requests : List JournalRequest) :
    ((created creator totals).run requests).priorSteps =
      creation creator :: standing ((created creator totals).accepted requests) := by
  -- From the last request on, because a rejection clears what was recorded before it.
  induction requests using List.reverseRecOn with
  | nil => rfl
  | append_singleton requests request ih =>
    have lawful : ((created creator totals).run requests).Lawful :=
      lawful_run (lawful_of_draft rfl rfl rfl) requests
    have creatorKept := createdBy_run (created creator totals) requests
    rw [run_append, accepted_append]
    rcases next_cases ((created creator totals).run requests) request with
      ⟨answered, step⟩ | ⟨⟨refusal, answered⟩, same⟩
    · rw [answered, standing_append]
      rw [run, run, priorSteps_step lawful step, ih, creatorKept]
      cases request.isRejection <;> simp [created]
    · rw [answered, run, run, same, ih, List.append_nil]

/-! ## Which steps decide -/

theorem separated_iff {state : JournalState} {actor : UserId} {p : Permission}
    {rules : List Rule} :
    state.Separated actor p rules ↔
      (p = .journalApprove → actor ∉ state.makers) ∧
        ∀ step ∈ state.priorSteps, ¬ step.Clashes rules actor p := by
  simp only [Separated, PriorStep.Clashes, not_and, not_exists]

theorem toPost_ne_approve {held : PermissionSet} {finalPost : Bool} {p : Permission}
    (selected : held.toPost finalPost = .ok p) : p ≠ .journalApprove := by
  unfold PermissionSet.toPost at selected
  cases finalPost with
  | true =>
    simp only [if_true, bind_ok_iff, pure_ok_iff] at selected
    obtain ⟨_, _, rfl⟩ := selected
    decide
  | false =>
    have found := List.mem_of_find?_eq_some (requireAny_ok_iff.mp selected)
    intro approve
    subst approve
    simp at found

/-- A request that is held against rules is accepted exactly when it is ready and no
recorded step of its actor clashes with it. -/
theorem accepted_iff_recorded_apart {state : JournalState} {request : JournalRequest}
    {rules : List Rule} {p : Permission} (guarded : request.rules? = some rules)
    (exercises : request.exercised? = some p) :
    (∃ after, state.answer request = .ok after) ↔
      state.Ready request ∧ ∀ step ∈ state.priorSteps, ¬ step.Clashes rules request.actor p := by
  constructor
  · rintro ⟨after, answered⟩
    cases answer_ok_iff.mp answered with
    | edit permitted status prepared => simp [rules?] at guarded
    | submit permitted status balanced separated isOpen =>
      cases guarded; cases exercises
      exact ⟨⟨permitted, status, balanced, isOpen⟩, (separated_iff.mp separated).2⟩
    | approve permitted status separated =>
      cases guarded; cases exercises
      exact ⟨⟨permitted, status, separated.1 rfl⟩, (separated_iff.mp separated).2⟩
    | reject permitted reasoned status => simp [rules?] at guarded
    | post permitted status separated isOpen =>
      cases guarded
      simp only [exercised?, permitted, Except.toOption, Option.some.injEq] at exercises
      subst exercises
      refine ⟨⟨?_, status, isOpen⟩, (separated_iff.mp separated).2⟩
      simp [permitted, Except.toOption]
  · rintro ⟨ready, apart⟩
    cases request with
    | edit actor held lines date periods chart => simp [rules?] at guarded
    | submit actor held rules period =>
      cases guarded; cases exercises
      obtain ⟨permitted, status, balanced, isOpen⟩ := ready
      have separated := separated_iff.mpr ⟨fun approve => by simp at approve, apart⟩
      exact ⟨_, answer_ok_iff.mpr (.submit permitted status balanced separated isOpen)⟩
    | approve actor held rules =>
      cases guarded; cases exercises
      obtain ⟨permitted, status, notMaker⟩ := ready
      have separated := separated_iff.mpr ⟨fun _ => notMaker, apart⟩
      exact ⟨_, answer_ok_iff.mpr (.approve permitted status separated)⟩
    | reject actor held reason => simp [rules?] at guarded
    | post actor held rules finalPost period =>
      cases guarded
      obtain ⟨_, status, isOpen⟩ := ready
      cases selected : held.toPost finalPost with
      | error refusal => simp [exercised?, selected, Except.toOption] at exercises
      | ok q =>
        simp only [exercised?, selected, Except.toOption, Option.some.injEq] at exercises
        subst exercises
        have separated := separated_iff.mpr
          ⟨fun approve => absurd approve (toPost_ne_approve selected), apart⟩
        exact ⟨_, answer_ok_iff.mpr (.post selected status separated isOpen)⟩

/-- Exactly when a submission, an approval or a posting is accepted, and exactly when
an accepted one is apart from all that its actor did before: the creation and the
standing steps never clash with it, so only a lapsed step can. -/
theorem accepted_iff_standing_apart (creator : UserId) (totals : Totals)
    (earlier : List JournalRequest) (request : JournalRequest) (rules : List Rule)
    (p : Permission) (guarded : request.rules? = some rules)
    (exercises : request.exercised? = some p) :
    let state := (created creator totals).run earlier
    let accepted := (created creator totals).accepted earlier
    ((∃ after, state.answer request = .ok after) ↔
        state.Ready request ∧
          ∀ step ∈ creation creator :: standing accepted, ¬ step.Clashes rules request.actor p) ∧
      ((∃ after, state.answer request = .ok after) →
        ((∀ step ∈ stepsTaken creator totals earlier, ¬ step.Clashes rules request.actor p) ↔
          ∀ step ∈ lapsed accepted, ¬ step.Clashes rules request.actor p)) := by
  intro state accepted
  have decided : (∃ after, state.answer request = .ok after) ↔
      state.Ready request ∧
        ∀ step ∈ creation creator :: standing accepted, ¬ step.Clashes rules request.actor p := by
    rw [← priorSteps_run]
    exact accepted_iff_recorded_apart guarded exercises
  refine ⟨decided, fun answered => ⟨?_, ?_⟩⟩
  · intro apart step member
    exact apart step
      (List.mem_cons_of_mem _ ((mem_steps_iff step accepted).mpr (Or.inr member)))
  · intro apart step member
    have recorded := (decided.mp answered).2
    rcases List.mem_cons.mp member with rfl | member
    · exact recorded _ (List.mem_cons_self ..)
    · rcases (mem_steps_iff step accepted).mp member with stands | gone
      · exact recorded step (List.mem_cons_of_mem _ stands)
      · exact apart step gone

/-- A journal that one user submits, another sends back and a third submits again. -/
def resubmitted : List JournalRequest :=
  [.submit (Id.ofNat 2) [.journalSubmit] Rule.baseline samplePeriod,
    .reject (Id.ofNat 3) [.journalApprove] "wrong account",
    .submit (Id.ofNat 4) [.journalSubmit] Rule.baseline samplePeriod]

def approvedBySubmitter : JournalRequest :=
  .approve (Id.ofNat 2) [.journalApprove] Rule.baseline

theorem resubmitted_standing_apart :
    approvedBySubmitter.rules? = some Rule.baseline ∧
      approvedBySubmitter.exercised? = some .journalApprove ∧
      (∃ after, ((created (Id.ofNat 1) sample.totals).run resubmitted).answer
        approvedBySubmitter = .ok after) ∧
      ¬ ∀ step ∈ lapsed ((created (Id.ofNat 1) sample.totals).accepted resubmitted),
        ¬ step.Clashes Rule.baseline (Id.ofNat 2) .journalApprove := by
  obtain ⟨_, exact⟩ := accepted_iff_standing_apart (Id.ofNat 1) sample.totals resubmitted
    approvedBySubmitter Rule.baseline .journalApprove rfl rfl
  have answered : ∃ after, ((created (Id.ofNat 1) sample.totals).run resubmitted).answer
      approvedBySubmitter = .ok after := ⟨_, rfl⟩
  refine ⟨rfl, rfl, answered, fun apart => ?_⟩
  refine (exact answered).mpr apart ⟨Id.ofNat 2, .journalSubmit⟩ (by decide) ⟨rfl, ?_⟩
  exact ⟨_, List.mem_cons_self .., rfl, by decide⟩

/-- With the baseline rules alone, a user who submitted a journal can approve it after
a rejection: the separation of duties does not hold over the whole life. -/
theorem duties_lapse_on_rejection :
    (∀ request ∈ resubmitted ++ [approvedBySubmitter],
        ∀ rules, request.rules? = some rules → rules = Rule.baseline) ∧
      ¬ KeepsDutiesApart (Id.ofNat 1) sample.totals (resubmitted ++ [approvedBySubmitter]) := by
  constructor
  · intro request member rules guarded
    simp only [resubmitted, approvedBySubmitter, List.cons_append, List.nil_append,
      List.mem_cons, List.not_mem_nil, or_false] at member
    rcases member with rfl | rfl | rfl | rfl <;> simp [rules?] at guarded <;> exact guarded.symm
  · intro apart
    refine apart resubmitted approvedBySubmitter [] rfl Rule.baseline rfl .journalApprove rfl
      _ rfl ⟨Id.ofNat 2, .journalSubmit⟩ (by decide) ⟨rfl, ?_⟩
    exact ⟨_, List.mem_cons_self .., rfl, by decide⟩

end JournalState

end Countinghouse
