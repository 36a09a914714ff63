import Countinghouse.Journal.Reversal
import Countinghouse.Proofs.Journal.Duties

/-! # Holding more permissions

What is accepted from someone is accepted as well from anyone who may do more, with one exception.
A posting that does not need the final permission exercises the basic one where that is held, and
it is the exercised permission that the rules are held against.  So one who could post with the
final permission may no longer post once the basic one is added, if a rule keeps posting apart
from a step that they took on the journal. -/

set_option autoImplicit false

namespace Countinghouse

inductive JournalOperation where
  | create (lines : List Line) (date : Date) (periods : List Period) (chart : Chart)
  | edit (status : JournalStatus) (lines : List Line) (date : Date) (periods : List Period)
      (chart : Chart)
  | submit (state : JournalState) (actor : UserId) (rules : List Rule) (period : Period)
  | approve (state : JournalState) (actor : UserId) (rules : List Rule)
  | reject (state : JournalState) (actor : UserId) (reason : String)
  | post (state : JournalState) (actor : UserId) (rules : List Rule) (finalPost : Bool)
      (period : Period)
  | reverse (journal : JournalId) (status : JournalStatus) (existing : Option JournalId)

/-- What an operation that is accepted comes to. -/
inductive JournalAnswer where
  | drafted (draft : Draft)
  | taken (action : JournalAction)
  | reversible

namespace JournalOperation

def attempt (held : PermissionSet) : JournalOperation → Except LedgerError JournalAnswer
  | create lines date periods chart =>
      (Draft.create held lines date periods chart).map .drafted
  | edit status lines date periods chart =>
      (Draft.edit status held lines date periods chart).map .drafted
  | submit state actor rules period => (state.submit actor held rules period).map .taken
  | approve state actor rules => (state.approve actor held rules).map .taken
  | reject state actor reason => (state.reject actor held reason).map .taken
  | post state actor rules finalPost period =>
      (state.post actor held rules finalPost period).map .taken
  | reverse journal status existing =>
      (Reversal.check journal status existing held).map fun _ => .reversible

/-- A posting exercises the basic permission only with the wider set, and this clashes with a step
that the actor took. -/
def Hindered (held wider : PermissionSet) : JournalOperation → Prop
  | post state actor rules false _ =>
      .journalPost ∉ held ∧ .journalPost ∈ wider ∧
        ∃ step ∈ state.priorSteps, step.Clashes rules actor .journalPost
  | _ => False

end JournalOperation

variable {held wider : PermissionSet}

/-! ## Operations that need one permission -/

theorem require_wider {α : Type} {p : Permission} {next : Unit → Except LedgerError α} {a : α}
    (included : held ⊆ wider) (accepted : (liftM (held.require p) >>= next) = .ok a) :
    (liftM (wider.require p) >>= next) = .ok a := by
  simp only [liftM, monadLift, MonadLift.monadLift, bind_ok_iff, mapError_ok_iff,
    require_ok_iff] at accepted ⊢
  obtain ⟨u, holds, rest⟩ := accepted
  exact ⟨u, included holds, rest⟩

theorem map_wider {α β : Type} {narrow wide : Except LedgerError α} {f : α → β} {b : β}
    (kept : ∀ a, narrow = .ok a → wide = .ok a) (accepted : narrow.map f = .ok b) :
    wide.map f = .ok b := by
  obtain ⟨a, checked, rfl⟩ := map_ok_iff.mp accepted
  exact map_ok_iff.mpr ⟨a, kept a checked, rfl⟩

/-! ## Posting -/

theorem toPost_final {exercised : Permission} (included : held ⊆ wider)
    (selected : held.toPost true = .ok exercised) : wider.toPost true = .ok exercised := by
  simp only [PermissionSet.toPost, if_true, bind_ok_iff, pure_ok_iff, require_ok_iff] at selected ⊢
  obtain ⟨u, holds, rfl⟩ := selected
  exact ⟨u, included holds, rfl⟩

theorem toPost_basic_iff {exercised : Permission} :
    held.toPost false = .ok exercised ↔
      (.journalPost ∈ held ∧ exercised = .journalPost) ∨
        (.journalPost ∉ held ∧ .journalFinalPost ∈ held ∧ exercised = .journalFinalPost) := by
  simp only [PermissionSet.toPost, Bool.false_eq_true, if_false, requireAny_ok_iff]
  by_cases basic : Permission.journalPost ∈ held
  · simp [basic, eq_comm]
  · by_cases final : Permission.journalFinalPost ∈ held <;> simp [basic, final, eq_comm]

namespace JournalState

variable {state : JournalState} {actor : UserId} {rules : List Rule} {period : Period}
  {action : JournalAction}

theorem checkDuties_clash {p : Permission} {step : PriorStep} (notApproval : p ≠ .journalApprove)
    (taken : step ∈ state.priorSteps) (clashes : step.Clashes rules actor p) :
    ∃ rule ∈ rules, state.checkDuties actor p rules =
      .error (.ruleViolated rule.id rule.description) := by
  unfold checkDuties Action.check
  rw [if_neg fun approval => notApproval approval.1]
  cases searched : Action.violatedRule? ⟨actor, p, state.makers, state.priorSteps⟩ rules with
  | none =>
    obtain ⟨byActor, rule, present, active, pairs⟩ := clashes
    exact absurd pairs (violatedRule_none_iff.mp searched step taken byActor rule present active)
  | some rule =>
    obtain ⟨other, _, found⟩ := List.exists_of_findSome?_eq_some searched
    exact ⟨rule, List.mem_of_find?_eq_some found, rfl⟩

/-- A posting stays accepted with more permissions, unless it then exercises the basic one and a
rule forbids that. -/
theorem post_wider (included : held ⊆ wider)
    (accepted : state.post actor held rules false period = .ok action)
    (unhindered : ¬ (.journalPost ∉ held ∧ .journalPost ∈ wider ∧
      ∃ step ∈ state.priorSteps, step.Clashes rules actor .journalPost)) :
    state.post actor wider rules false period = .ok action := by
  rw [post_ok_iff] at accepted ⊢
  obtain ⟨exercised, selected, status, separated, isOpen, rfl⟩ := accepted
  rcases toPost_basic_iff.mp selected with ⟨basic, rfl⟩ | ⟨noBasic, final, rfl⟩
  · exact ⟨_, toPost_basic_iff.mpr (Or.inl ⟨included basic, rfl⟩), status, separated, isOpen, rfl⟩
  · by_cases added : Permission.journalPost ∈ wider
    · have apart : state.Separated actor .journalPost rules := by
        refine separated_iff.mpr ⟨nofun, ?_⟩
        intro step taken clashes
        exact unhindered ⟨noBasic, added, step, taken, clashes⟩
      exact ⟨_, toPost_basic_iff.mpr (Or.inl ⟨added, rfl⟩), status, apart, isOpen, rfl⟩
    · have selected' := toPost_basic_iff.mpr (Or.inr ⟨added, included final, rfl⟩)
      exact ⟨_, selected', status, separated, isOpen, rfl⟩

theorem post_hindered (accepted : state.post actor held rules false period = .ok action)
    (added : .journalPost ∈ wider) {step : PriorStep} (taken : step ∈ state.priorSteps)
    (clashes : step.Clashes rules actor .journalPost) :
    ∃ rule ∈ rules, state.post actor wider rules false period =
      .error (.policy (.ruleViolated rule.id rule.description)) := by
  obtain ⟨_, _, status, _, _, _⟩ := post_ok_iff.mp accepted
  obtain ⟨rule, present, refused⟩ := checkDuties_clash (by decide) taken clashes
  refine ⟨rule, present, ?_⟩
  have selected : wider.toPost false = .ok .journalPost :=
    toPost_basic_iff.mpr (Or.inl ⟨added, rfl⟩)
  have approved : state.status.require .approved .posted = .ok () :=
    status_require_ok_iff.mpr status
  unfold post
  rw [selected, approved]
  simp only [liftM, monadLift, MonadLift.monadLift, bind, Except.bind, Except.mapError, refused]

end JournalState

/-! ## All operations -/

namespace JournalOperation

/-- More permissions leave what is accepted as it is, but for a posting that is hindered by them;
that one is refused for the rule that it violates. -/
theorem attempt_wider (operation : JournalOperation) {answer : JournalAnswer}
    (included : held ⊆ wider) (accepted : operation.attempt held = .ok answer) :
    (¬ operation.Hindered held wider → operation.attempt wider = .ok answer) ∧
      (operation.Hindered held wider → ∃ rule : Rule, operation.attempt wider =
        .error (.policy (.ruleViolated rule.id rule.description))) := by
  cases operation with
  | post state actor rules finalPost period =>
    cases finalPost with
    | true =>
      refine ⟨fun _ => map_wider (fun action posted => ?_) accepted, False.elim⟩
      obtain ⟨exercised, selected, rest⟩ := JournalState.post_ok_iff.mp posted
      exact JournalState.post_ok_iff.mpr ⟨exercised, toPost_final included selected, rest⟩
    | false =>
      obtain ⟨action, posted, rfl⟩ := map_ok_iff.mp accepted
      constructor
      · intro unhindered
        exact map_ok_iff.mpr ⟨action, JournalState.post_wider included posted unhindered, rfl⟩
      · rintro ⟨_, added, step, taken, clashes⟩
        obtain ⟨rule, _, refused⟩ := JournalState.post_hindered posted added taken clashes
        exact ⟨rule, map_error_iff.mpr refused⟩
  | create _ _ _ _ | edit _ _ _ _ _ | submit _ _ _ _ | approve _ _ _ | reject _ _ _
  | reverse _ _ _ =>
    exact ⟨fun _ => map_wider (fun _ => require_wider included) accepted, False.elim⟩

/-- A journal that its creator is to post, where a rule keeps the two apart. -/
def ownPosting : JournalOperation :=
  .post ⟨.approved, Id.ofNat 1, some (Id.ofNat 2), some (Id.ofNat 3),
      JournalState.sample.totals⟩ (Id.ofNat 1)
    [⟨Id.ofNat 9, .journalCreate, .journalPost, "no one posts what they drafted", true⟩] false
    JournalState.samplePeriod

theorem ownPosting_wider :
    [Permission.journalFinalPost] ⊆ [.journalFinalPost, .journalApprove] ∧
      ownPosting.attempt [.journalFinalPost] = .ok (.taken (.post (Id.ofNat 1))) ∧
      ¬ ownPosting.Hindered [.journalFinalPost] [.journalFinalPost, .journalApprove] ∧
      ownPosting.attempt [.journalFinalPost, .journalApprove] =
        .ok (.taken (.post (Id.ofNat 1))) := by
  have included : [Permission.journalFinalPost] ⊆ [.journalFinalPost, .journalApprove] := by decide
  have accepted : ownPosting.attempt [.journalFinalPost] = .ok (.taken (.post (Id.ofNat 1))) := rfl
  have unhindered :
      ¬ ownPosting.Hindered [.journalFinalPost] [.journalFinalPost, .journalApprove] := by
    rintro ⟨_, added, _⟩
    exact absurd added (by decide)
  exact ⟨included, accepted, unhindered,
    (ownPosting.attempt_wider included accepted).1 unhindered⟩

/-- The creator may post with the final permission, and with the basic one besides may not. -/
theorem basic_permission_hinders :
    [Permission.journalFinalPost] ⊆ [.journalPost, .journalFinalPost] ∧
      ownPosting.attempt [.journalFinalPost] = .ok (.taken (.post (Id.ofNat 1))) ∧
      ∀ answer, ownPosting.attempt [.journalPost, .journalFinalPost] ≠ .ok answer := by
  refine ⟨by decide, rfl, fun answer accepted => ?_⟩
  have refused : ownPosting.attempt [.journalPost, .journalFinalPost] =
      .error (.policy (.ruleViolated (Id.ofNat 9) "no one posts what they drafted")) := rfl
  rw [refused] at accepted
  cases accepted

end JournalOperation

end Countinghouse
