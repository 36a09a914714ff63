import Countinghouse.Journal.Lifecycle
import Countinghouse.Proofs.Success

/-! # Steps on a journal

A request carries all that its answer depends on besides what is recorded of the
journal.  `JournalState.Step` says without reference to the checks what an accepted
request demands and what it leaves behind; `answer_ok_iff` says that the checks
decide exactly this.  A refused request leaves the journal as it is. -/

set_option autoImplicit false

namespace Countinghouse

/-- What may be asked of a journal, with the actor and the circumstances. -/
inductive JournalRequest where
  | edit (actor : UserId) (held : PermissionSet) (lines : List Line) (date : Date)
      (periods : List Period) (chart : Chart)
  | submit (actor : UserId) (held : PermissionSet) (rules : List Rule) (period : Period)
  | approve (actor : UserId) (held : PermissionSet) (rules : List Rule)
  | reject (actor : UserId) (held : PermissionSet) (reason : String)
  | post (actor : UserId) (held : PermissionSet) (rules : List Rule) (finalPost : Bool)
      (period : Period)

namespace JournalRequest

def actor : JournalRequest → UserId
  | edit actor _ _ _ _ _ | submit actor _ _ _ | approve actor _ _ | reject actor _ _
  | post actor _ _ _ _ => actor

def period? : JournalRequest → Option Period
  | submit _ _ _ period | post _ _ _ _ period => some period
  | _ => none

end JournalRequest

namespace JournalState

def edited (state : JournalState) (draft : Draft) : JournalState :=
  { state with totals := draft.totals }

def answer (state : JournalState) : JournalRequest → Except LedgerError JournalState
  | .edit _ held lines date periods chart =>
      (Draft.edit state.status held lines date periods chart).map state.edited
  | .submit actor held rules period => (state.submit actor held rules period).map state.after
  | .approve actor held rules => (state.approve actor held rules).map state.after
  | .reject actor held reason => (state.reject actor held reason).map state.after
  | .post actor held rules finalPost period =>
      (state.post actor held rules finalPost period).map state.after

def next (state : JournalState) (request : JournalRequest) : JournalState :=
  match state.answer request with
  | .ok state => state
  | .error _ => state

def run (state : JournalState) : List JournalRequest → JournalState
  | [] => state
  | request :: rest => (state.next request).run rest

def accepted (state : JournalState) : List JournalRequest → List JournalRequest
  | [] => []
  | request :: rest =>
      match state.answer request with
      | .ok state => request :: state.accepted rest
      | .error _ => state.accepted rest

/-- The actor prepared nothing that they approve, and took no recorded step that an
active rule keeps apart from this one. -/
def Separated (state : JournalState) (actor : UserId) (p : Permission) (rules : List Rule) :
    Prop :=
  (p = .journalApprove → actor ∉ state.makers) ∧
    ∀ step ∈ state.priorSteps, step.actor = actor →
      ∀ rule ∈ rules, rule.active = true → ¬ rule.Pairs step.permission p

/-- What an accepted request demands, and what it leaves behind. -/
inductive Step (state : JournalState) : JournalRequest → JournalState → Prop where
  | edit {actor : UserId} {held : PermissionSet} {lines : List Line} {date : Date}
      {periods : List Period} {chart : Chart} {draft : Draft}
      (permitted : .journalCreate ∈ held) (status : state.status = .draft)
      (prepared : Draft.prepare lines date periods chart = .ok draft) :
      Step state (.edit actor held lines date periods chart) { state with totals := draft.totals }
  | submit {actor : UserId} {held : PermissionSet} {rules : List Rule} {period : Period}
      (permitted : .journalSubmit ∈ held) (status : state.status = .draft)
      (balanced : state.totals.Balanced) (separated : state.Separated actor .journalSubmit rules)
      (isOpen : period.status = .open) :
      Step state (.submit actor held rules period)
        { state with status := .submitted, submittedBy := some actor }
  | approve {actor : UserId} {held : PermissionSet} {rules : List Rule}
      (permitted : .journalApprove ∈ held) (status : state.status = .submitted)
      (separated : state.Separated actor .journalApprove rules) :
      Step state (.approve actor held rules)
        { state with status := .approved, approvedBy := some actor }
  | reject {actor : UserId} {held : PermissionSet} {reason : String}
      (permitted : .journalApprove ∈ held) (reasoned : Text.allBlank reason = false)
      (status : state.status = .submitted ∨ state.status = .approved) :
      Step state (.reject actor held reason)
        { state with status := .draft, submittedBy := none, approvedBy := none }
  | post {actor : UserId} {held : PermissionSet} {rules : List Rule} {finalPost : Bool}
      {period : Period} {exercised : Permission}
      (permitted : held.toPost finalPost = .ok exercised) (status : state.status = .approved)
      (separated : state.Separated actor exercised rules) (isOpen : period.status = .open) :
      Step state (.post actor held rules finalPost period) { state with status := .posted }

/-! ## The checks decide the steps -/

theorem status_require_ok_iff {status expected target : JournalStatus} {u : Unit} :
    status.require expected target = .ok u ↔ status = expected := by
  unfold JournalStatus.require
  by_cases h : status = expected <;> simp [h]

theorem requireEditable_ok_iff {status : JournalStatus} {u : Unit} :
    status.requireEditable = .ok u ↔ status = .draft := by
  cases status <;> simp [JournalStatus.requireEditable, JournalStatus.editable]

theorem requireBalanced_ok_iff {totals : Totals} {u : Unit} :
    totals.requireBalanced = .ok u ↔ totals.Balanced := by
  unfold Totals.requireBalanced
  by_cases h : totals.Balanced <;> simp [h]

theorem requireOpen_ok_iff {period : Period} {u : Unit} :
    period.requireOpen = .ok u ↔ period.status = .open := by
  unfold Period.requireOpen
  cases period.status <;> simp [PeriodStatus.allowsPosting]

theorem prepare_ok_iff {lines : List Line} {date : Date} {periods : List Period} {chart : Chart}
    {draft : Draft} :
    Draft.prepare lines date periods chart = .ok draft ↔
      ∃ period, Period.find? periods date = some period ∧ draft.period = period.id ∧
        chart.validate lines = .ok draft.totals := by
  unfold Draft.prepare
  cases Period.find? periods date with
  | none => simp
  | some period =>
    cases chart.validate lines with
    | error e => simp
    | ok totals =>
      obtain ⟨id, totals'⟩ := draft
      simp [eq_comm]

/-- The search for a violated rule fails exactly when the actor took no step that an
active rule pairs with this one. -/
theorem violatedRule_none_iff {action : Action} {rules : List Rule} :
    action.violatedRule? rules = none ↔
      ∀ step ∈ action.priorSteps, step.actor = action.actor →
        ∀ rule ∈ rules, rule.active = true → ¬ rule.Pairs step.permission action.permission := by
  simp only [Action.violatedRule?, Rule.keepingApart?, List.findSome?_eq_none_iff,
    List.mem_filter, decide_eq_true_eq, and_imp, List.find?_eq_none, Bool.and_eq_true, not_and]

theorem checkDuties_ok_iff {state : JournalState} {actor : UserId} {p : Permission}
    {rules : List Rule} {u : Unit} :
    state.checkDuties actor p rules = .ok u ↔ state.Separated actor p rules := by
  unfold checkDuties Action.check Separated
  have searched := @violatedRule_none_iff ⟨actor, p, state.makers, state.priorSteps⟩ rules
  rw [← searched]
  by_cases made : p = .journalApprove ∧ actor ∈ state.makers
  · simp [made]
  · rw [if_neg made]
    cases Action.violatedRule? ⟨actor, p, state.makers, state.priorSteps⟩ rules with
    | some rule => simp
    | none => simpa using made

theorem submit_ok_iff {state : JournalState} {actor : UserId} {held : PermissionSet}
    {rules : List Rule} {period : Period} {action : JournalAction} :
    state.submit actor held rules period = .ok action ↔
      .journalSubmit ∈ held ∧ state.status = .draft ∧ state.totals.Balanced ∧
        state.Separated actor .journalSubmit rules ∧ period.status = .open ∧
        action = .submit actor := by
  simp only [submit, liftM, monadLift, MonadLift.monadLift, bind_ok_iff, mapError_ok_iff,
    pure_ok_iff, require_ok_iff, status_require_ok_iff, requireBalanced_ok_iff,
    checkDuties_ok_iff, requireOpen_ok_iff, exists_const]

theorem approve_ok_iff {state : JournalState} {actor : UserId} {held : PermissionSet}
    {rules : List Rule} {action : JournalAction} :
    state.approve actor held rules = .ok action ↔
      .journalApprove ∈ held ∧ state.status = .submitted ∧
        state.Separated actor .journalApprove rules ∧ action = .approve actor := by
  simp only [approve, liftM, monadLift, MonadLift.monadLift, bind_ok_iff, mapError_ok_iff,
    pure_ok_iff, require_ok_iff, status_require_ok_iff, checkDuties_ok_iff, exists_const]

theorem reject_ok_iff {state : JournalState} {actor : UserId} {held : PermissionSet}
    {reason : String} {action : JournalAction} :
    state.reject actor held reason = .ok action ↔
      .journalApprove ∈ held ∧ Text.allBlank reason = false ∧
        (state.status = .submitted ∨ state.status = .approved) ∧
        action = .reject actor reason := by
  simp only [reject, liftM, monadLift, MonadLift.monadLift, bind_ok_iff, mapError_ok_iff,
    require_ok_iff, ite_ok_iff, throw_ok_iff, exists_const, false_and, and_false, false_or,
    Bool.not_eq_true]
  cases state.status <;> simp [throw_ok_iff, pure_ok_iff]

theorem post_ok_iff {state : JournalState} {actor : UserId} {held : PermissionSet}
    {rules : List Rule} {finalPost : Bool} {period : Period} {action : JournalAction} :
    state.post actor held rules finalPost period = .ok action ↔
      ∃ exercised, held.toPost finalPost = .ok exercised ∧ state.status = .approved ∧
        state.Separated actor exercised rules ∧ period.status = .open ∧ action = .post actor := by
  simp only [post, liftM, monadLift, MonadLift.monadLift, bind_ok_iff, mapError_ok_iff,
    pure_ok_iff, status_require_ok_iff, checkDuties_ok_iff, requireOpen_ok_iff, exists_const]

theorem create_ok_iff {held : PermissionSet} {lines : List Line} {date : Date}
    {periods : List Period} {chart : Chart} {draft : Draft} :
    Draft.create held lines date periods chart = .ok draft ↔
      .journalCreate ∈ held ∧ Draft.prepare lines date periods chart = .ok draft := by
  simp only [Draft.create, liftM, monadLift, MonadLift.monadLift, bind_ok_iff, mapError_ok_iff,
    require_ok_iff, exists_const]

theorem edit_ok_iff {status : JournalStatus} {held : PermissionSet} {lines : List Line}
    {date : Date} {periods : List Period} {chart : Chart} {draft : Draft} :
    Draft.edit status held lines date periods chart = .ok draft ↔
      .journalCreate ∈ held ∧ status = .draft ∧
        Draft.prepare lines date periods chart = .ok draft := by
  simp only [Draft.edit, liftM, monadLift, MonadLift.monadLift, bind_ok_iff, mapError_ok_iff,
    require_ok_iff, requireEditable_ok_iff, exists_const]

theorem answer_ok_iff {state after : JournalState} {request : JournalRequest} :
    state.answer request = .ok after ↔ state.Step request after := by
  constructor
  · intro accepted
    cases request with
    | edit actor held lines date periods chart =>
      obtain ⟨draft, checked, rfl⟩ := map_ok_iff.mp accepted
      obtain ⟨permitted, status, prepared⟩ := edit_ok_iff.mp checked
      exact .edit permitted status prepared
    | submit actor held rules period =>
      obtain ⟨action, checked, rfl⟩ := map_ok_iff.mp accepted
      obtain ⟨permitted, status, balanced, separated, isOpen, rfl⟩ := submit_ok_iff.mp checked
      exact .submit permitted status balanced separated isOpen
    | approve actor held rules =>
      obtain ⟨action, checked, rfl⟩ := map_ok_iff.mp accepted
      obtain ⟨permitted, status, separated, rfl⟩ := approve_ok_iff.mp checked
      exact .approve permitted status separated
    | reject actor held reason =>
      obtain ⟨action, checked, rfl⟩ := map_ok_iff.mp accepted
      obtain ⟨permitted, reasoned, status, rfl⟩ := reject_ok_iff.mp checked
      exact .reject permitted reasoned status
    | post actor held rules finalPost period =>
      obtain ⟨action, checked, rfl⟩ := map_ok_iff.mp accepted
      obtain ⟨exercised, permitted, status, separated, isOpen, rfl⟩ := post_ok_iff.mp checked
      exact .post permitted status separated isOpen
  · intro step
    cases step with
    | edit permitted status prepared =>
      exact map_ok_iff.mpr ⟨_, edit_ok_iff.mpr ⟨permitted, status, prepared⟩, rfl⟩
    | submit permitted status balanced separated isOpen =>
      exact map_ok_iff.mpr
        ⟨_, submit_ok_iff.mpr ⟨permitted, status, balanced, separated, isOpen, rfl⟩, rfl⟩
    | approve permitted status separated =>
      exact map_ok_iff.mpr ⟨_, approve_ok_iff.mpr ⟨permitted, status, separated, rfl⟩, rfl⟩
    | reject permitted reasoned status =>
      exact map_ok_iff.mpr ⟨_, reject_ok_iff.mpr ⟨permitted, reasoned, status, rfl⟩, rfl⟩
    | post permitted status separated isOpen =>
      exact map_ok_iff.mpr
        ⟨_, post_ok_iff.mpr ⟨_, permitted, status, separated, isOpen, rfl⟩, rfl⟩

/-! ## Runs -/

theorem next_cases (state : JournalState) (request : JournalRequest) :
    (state.answer request = .ok (state.next request) ∧
        state.Step request (state.next request)) ∨
      (∃ refusal, state.answer request = .error refusal) ∧ state.next request = state := by
  unfold next
  cases answered : state.answer request with
  | ok after => exact Or.inl ⟨rfl, answer_ok_iff.mp answered⟩
  | error refusal => exact Or.inr ⟨⟨refusal, rfl⟩, rfl⟩

theorem run_append (state : JournalState) (earlier later : List JournalRequest) :
    state.run (earlier ++ later) = (state.run earlier).run later := by
  induction earlier generalizing state with
  | nil => rfl
  | cons request rest ih => exact ih (state.next request)

/-- What every step preserves holds after every run. -/
theorem run_preserves (holds : JournalState → Prop)
    (preserved : ∀ state request after, holds state → state.Step request after → holds after)
    (state : JournalState) (requests : List JournalRequest) (start : holds state) :
    holds (state.run requests) := by
  induction requests generalizing state with
  | nil => exact start
  | cons request rest ih =>
    apply ih (state.next request)
    rcases next_cases state request with ⟨_, step⟩ | ⟨_, same⟩
    · exact preserved state request _ start step
    · rw [same]
      exact start

end JournalState

end Countinghouse
