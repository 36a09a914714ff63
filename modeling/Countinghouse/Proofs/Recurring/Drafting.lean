import Countinghouse.Proofs.Journal.Step
import Countinghouse.Proofs.Journal.Validation
import Countinghouse.Proofs.Period.Calendar
import Countinghouse.Recurring.Template

/-! # Generating and drafting by hand

A generated journal is put into its target period without looking at the calendar; a draft that
is made by hand is put into the period that the calendar has for its date.  Where no two periods
share a day the two agree: on the first day of the target the calendar has only the target. -/

set_option autoImplicit false

namespace Countinghouse

namespace Period

variable {periods : List Period} {p : Period}

theorem forDate_ok_iff {date : Date} :
    forDate periods date = .ok p ↔ find? periods date = some p := by
  unfold forDate
  cases find? periods date <;> simp

theorem find?_start (apart : periods.Pairwise fun p q => ¬ ∃ day, p.Contains day ∧ q.Contains day)
    (listed : p ∈ periods) (proper : p.start ≤ p.finish) :
    find? periods p.start = some p := by
  have contains : p.Contains p.start := ⟨Int.le_refl _, proper⟩
  refine forDate_ok_iff.mp (forDate_of_unique listed contains fun q present inside => ?_)
  by_contra differ
  have : Std.Symm fun p q : Period => ¬ ∃ day, p.Contains day ∧ q.Contains day :=
    ⟨fun _ _ apart ⟨day, here, there⟩ => apart ⟨day, there, here⟩⟩
  exact apart.forall present listed differ ⟨p.start, inside, contains⟩

end Period

theorem Draft.prepare_found {lines : List Line} {date : Date} {periods : List Period}
    {period : Period} (found : Period.find? periods date = some period) (chart : Chart) :
    prepare lines date periods chart = (chart.validate lines).map (Draft.mk period.id) := by
  unfold prepare
  rw [found]
  cases chart.validate lines <;> rfl

namespace Template

variable {template : Template} {period : Period} {held : PermissionSet}

def generatedFor (template : Template) (period : Period) (totals : Totals) : Generated :=
  ⟨period.start,
    template.name ++ " (" ++ period.start.text ++ " to " ++ period.finish.text ++ ")",
    template.lines, totals⟩

theorem generate_ok_iff {already : Bool} {chart : Chart} {generated : Generated} :
    template.generate period already held chart = .ok generated ↔
      .recurringGenerate ∈ held ∧ template.active = true ∧ already = false ∧
        ∃ totals, chart.validate template.lines = .ok totals ∧
          generated = template.generatedFor period totals := by
  simp only [generate, generatedFor, liftM, monadLift, MonadLift.monadLift, bind_ok_iff,
    ite_ok_iff, throw_ok_iff, mapError_ok_iff, pure_ok_iff, require_ok_iff, false_and, and_false,
    exists_false, false_or, Bool.not_eq_true, Bool.not_eq_false]
  constructor
  · rintro ⟨_, permitted, active, unmade, answered⟩
    exact ⟨permitted, active, unmade, answered⟩
  · rintro ⟨permitted, active, unmade, answered⟩
    exact ⟨(), permitted, active, unmade, answered⟩

theorem generate_eq (permitted : .recurringGenerate ∈ held) (active : template.active = true)
    (chart : Chart) :
    template.generate period false held chart =
      ((chart.validate template.lines).mapError .invalidLines).map
        (template.generatedFor period) := by
  have allowed : held.require .recurringGenerate = .ok () := require_ok_iff.mpr permitted
  unfold generate
  rw [allowed]
  simp only [active]
  cases chart.validate template.lines <;> rfl

/-- The journal that is generated for a period is the draft of the same lines in that period, and
is refused as the draft is. -/
structure GeneratedAs (template : Template) (period : Period)
    (generated : Except RecurringError Generated) (drafted : Except LedgerError Draft) : Prop where
  succeeds : (∃ made, generated = .ok made) ↔ ∃ draft, drafted = .ok draft
  made : ∀ made draft, generated = .ok made → drafted = .ok draft →
    made.date = period.start ∧ made.lines = template.lines ∧ made.totals = draft.totals ∧
      draft.period = period.id
  refused : ∀ e, generated = .error e → ∃ cause, drafted = .error cause ∧ e = .invalidLines cause

/-- Generating agrees with drafting the lines of the template on the first day of the target. -/
theorem generate_agrees (active : template.active = true) (proper : period.start ≤ period.finish)
    (permitted : .recurringGenerate ∈ held) (chart : Chart) {periods : List Period}
    (apart : periods.Pairwise fun p q => ¬ ∃ day, p.Contains day ∧ q.Contains day)
    (listed : period ∈ periods) :
    template.GeneratedAs period (template.generate period false held chart)
      (Draft.prepare template.lines period.start periods chart) := by
  have found := Period.find?_start apart listed proper
  rw [generate_eq permitted active, Draft.prepare_found found]
  cases chart.validate template.lines with
  | error cause =>
    refine ⟨?_, ?_, ?_⟩
    · constructor <;> rintro ⟨_, answered⟩ <;> cases answered
    · rintro made draft answered
      cases answered
    · rintro e answered
      exact ⟨cause, rfl, (Except.error.inj answered).symm⟩
  | ok totals =>
    refine ⟨⟨fun _ => ⟨_, rfl⟩, fun _ => ⟨_, rfl⟩⟩, ?_, ?_⟩
    · rintro made draft generated drafted
      obtain rfl := Except.ok.inj generated
      obtain rfl := Except.ok.inj drafted
      exact ⟨rfl, rfl, rfl, rfl⟩
    · rintro e answered
      cases answered

/-- The quarter is listed in no order, and the target is its middle month. -/
theorem february_agrees :
    let template : Template := ⟨Id.ofNat 9, "Rent", Chart.splitAmount, .monthly, true, none⟩
    let periods := [Period.sampleMonth 2 59 89, Period.sampleMonth 3 0 30,
      Period.sampleMonth 1 31 58]
    let february := Period.sampleMonth 1 31 58
    (∃ made, template.generate february false [.recurringGenerate] Chart.twoAccounts = .ok made) ∧
      template.GeneratedAs february
        (template.generate february false [.recurringGenerate] Chart.twoAccounts)
        (Draft.prepare template.lines february.start periods Chart.twoAccounts) := by
  intro template periods february
  refine ⟨⟨_, rfl⟩, generate_agrees rfl (by decide) (by decide) Chart.twoAccounts ?_ (by decide)⟩
  have disjoint : periods.Pairwise fun p q => p.finish < q.start ∨ q.finish < p.start := by decide
  refine disjoint.imp ?_
  rintro p q beside ⟨day, in_p, in_q⟩
  simp only [Period.Contains, Date.le_iff_day, Date.lt_iff_day] at *
  omega

end Template

end Countinghouse
