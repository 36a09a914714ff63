import Countinghouse.Period.Calendar
import Mathlib.Data.List.Chain
import Mathlib.Data.List.Sort

/-! # The calendar has no gaps

Periods are opened one after the other, each checked against the ones there are.  The check
looks at the first start, the last finish and at each period by itself; what it preserves is
that the periods, put in order, follow each other day by day.  So a date between the first
start and the last finish has exactly one period. -/

set_option autoImplicit false

namespace Countinghouse

namespace Date

variable {a b : Date}

theorem le_iff_day : a ≤ b ↔ a.day ≤ b.day := Iff.rfl

theorem lt_iff_day : a < b ↔ a.day < b.day := Iff.rfl

theorem ofDay?_eq_some_iff {n : Int} : ofDay? n = some b ↔ b.day = n := by
  unfold ofDay?
  have bounds := And.intro b.first_le b.le_last
  constructor
  · intro made
    split at made
    · obtain rfl := Option.some.inj made
      rfl
    · cases made
  · rintro rfl
    exact dif_pos bounds

theorem next?_eq_some_iff : a.next? = some b ↔ b.day = a.day + 1 := ofDay?_eq_some_iff

theorem previous?_eq_some_iff : a.previous? = some b ↔ b.day = a.day - 1 := ofDay?_eq_some_iff

end Date

namespace Period

/-- Some day lies both in the period and in the range from `start` to `finish`. -/
def SharesDay (p : Period) (start finish : Date) : Prop :=
  ∃ day, p.Contains day ∧ start ≤ day ∧ day ≤ finish

theorem SharesDay.overlaps {p : Period} {start finish : Date} (shared : p.SharesDay start finish) :
    p.Overlaps start finish := by
  obtain ⟨day, ⟨from_start, to_finish⟩, after, before⟩ := shared
  simp only [Overlaps, Date.le_iff_day] at *
  omega

theorem Overlaps.sharesDay {p : Period} {start finish : Date} (overlaps : p.Overlaps start finish)
    (proper : p.start ≤ p.finish) (range : start ≤ finish) : p.SharesDay start finish := by
  simp only [Overlaps, Date.le_iff_day] at overlaps proper range
  by_cases later : p.start.day ≤ start.day
  · refine ⟨start, ⟨later, overlaps.2⟩, ?_, range⟩
    simp only [Date.le_iff_day, le_refl]
  · refine ⟨p.start, ⟨?_, proper⟩, ?_, overlaps.1⟩
    · simp only [Date.le_iff_day, le_refl]
    · simp only [Date.le_iff_day]
      omega

/-- The calendars that come about when periods are opened one after the other, each checked
against those there are, in whatever order these are listed. -/
inductive Opened : List Period → Prop where
  | none : Opened []
  | next {periods listed : List Period} {p : Period} (opened : Opened periods)
      (order : listed.Perm periods) (accepted : checkNew p.start p.finish listed = .ok ()) :
      Opened (p :: periods)

/-! ## The first start and the last finish -/

/-- The periods span the days from `first` to `last`. -/
structure Spans (periods : List Period) (first last : Date) : Prop where
  starts : ∃ p ∈ periods, p.start = first
  first_le : ∀ p ∈ periods, first ≤ p.start
  finishes : ∃ p ∈ periods, p.finish = last
  le_last : ∀ p ∈ periods, p.finish ≤ last

section Search

variable {key : Period → Date} {better : Date → Date → Prop} [DecidableRel better]

def best? (key : Period → Date) (better : Date → Date → Prop) [DecidableRel better]
    (periods : List Period) : Option Date :=
  periods.foldl (fun best p =>
    match best with
    | none => some (key p)
    | some date => if better (key p) date then some (key p) else some date) none

theorem best?_append (earlier : List Period) (p : Period) :
    best? key better (earlier ++ [p]) =
      match best? key better earlier with
      | none => some (key p)
      | some date => if better (key p) date then some (key p) else some date := by
  rw [best?, List.foldl_append]
  rfl

theorem best?_eq_none {periods : List Period} (nothing : best? key better periods = none) :
    periods = [] := by
  induction periods using List.reverseRecOn with
  | nil => rfl
  | append_singleton earlier p _ =>
    rw [best?_append] at nothing
    split at nothing
    · cases nothing
    · split at nothing <;> cases nothing

theorem best?_eq_some (atLeast : Date → Date → Prop) (refl : ∀ a, atLeast a a)
    (trans : ∀ a b c, atLeast a b → atLeast b c → atLeast a c)
    (gain : ∀ a b, better a b → atLeast a b) (keep : ∀ a b, ¬ better a b → atLeast b a)
    {periods : List Period} {best : Date} (found : best? key better periods = some best) :
    (∃ p ∈ periods, key p = best) ∧ ∀ p ∈ periods, atLeast best (key p) := by
  -- The search goes from the left, so the induction takes periods off at the right.
  induction periods using List.reverseRecOn generalizing best with
  | nil => cases found
  | append_singleton earlier p ih =>
    rw [best?_append] at found
    simp only [List.mem_append, List.mem_singleton]
    split at found
    · rename_i nothing
      obtain rfl := Option.some.inj found
      obtain rfl := best?_eq_none nothing
      refine ⟨⟨p, Or.inr rfl, rfl⟩, ?_⟩
      rintro q (present | rfl)
      · cases present
      · exact refl _
    · rename_i before searched
      obtain ⟨⟨q, present, attained⟩, better_than⟩ := ih searched
      by_cases better_now : better (key p) before
      · rw [if_pos better_now] at found
        obtain rfl := Option.some.inj found
        refine ⟨⟨p, Or.inr rfl, rfl⟩, ?_⟩
        rintro other (passed | rfl)
        · exact trans _ _ _ (gain _ _ better_now) (better_than other passed)
        · exact refl _
      · rw [if_neg better_now] at found
        obtain rfl := Option.some.inj found
        refine ⟨⟨q, Or.inl present, attained⟩, ?_⟩
        rintro other (passed | rfl)
        · exact better_than other passed
        · exact keep _ _ better_now

end Search

theorem firstStart?_eq_best? (periods : List Period) :
    firstStart? periods = best? Period.start (· < ·) periods := rfl

theorem lastFinish?_eq_best? (periods : List Period) :
    lastFinish? periods = best? Period.finish (fun a b => b ≤ a) periods := rfl

theorem spans_of_found {periods : List Period} {first last : Date}
    (least : firstStart? periods = some first) (greatest : lastFinish? periods = some last) :
    Spans periods first last := by
  rw [firstStart?_eq_best?] at least
  rw [lastFinish?_eq_best?] at greatest
  have before := best?_eq_some (fun a b => a ≤ b) ?_ ?_ ?_ ?_ least
  have after := best?_eq_some (fun a b => b ≤ a) ?_ ?_ ?_ ?_ greatest
  · exact ⟨before.1, before.2, after.1, after.2⟩
  all_goals
    simp only [Date.le_iff_day, Date.lt_iff_day]
    intros
    omega

theorem Spans.unique {periods : List Period} {first last first' last' : Date}
    (spans : Spans periods first last) (spans' : Spans periods first' last') :
    first = first' ∧ last = last' := by
  obtain ⟨⟨p, p_in, rfl⟩, first_le, ⟨q, q_in, rfl⟩, le_last⟩ := spans
  obtain ⟨⟨p', p'_in, rfl⟩, first_le', ⟨q', q'_in, rfl⟩, le_last'⟩ := spans'
  have starts := And.intro (first_le p' p'_in) (first_le' p p_in)
  have finishes := And.intro (le_last q' q'_in) (le_last' q q_in)
  simp only [Date.le_iff_day] at starts finishes
  constructor <;> apply Date.ext_day <;> omega

theorem found_of_nonempty {periods : List Period} (nonempty : periods ≠ []) :
    ∃ first last, firstStart? periods = some first ∧ lastFinish? periods = some last := by
  rw [firstStart?_eq_best?, lastFinish?_eq_best?]
  have least : best? start (· < ·) periods ≠ none := mt best?_eq_none nonempty
  have greatest : best? finish (fun a b => b ≤ a) periods ≠ none := mt best?_eq_none nonempty
  obtain ⟨first, least⟩ := Option.ne_none_iff_exists'.mp least
  obtain ⟨last, greatest⟩ := Option.ne_none_iff_exists'.mp greatest
  exact ⟨first, last, least, greatest⟩

theorem Spans.found {periods : List Period} {first last : Date}
    (spans : Spans periods first last) :
    firstStart? periods = some first ∧ lastFinish? periods = some last := by
  obtain ⟨p, present, _⟩ := spans.starts
  obtain ⟨first', last', least, greatest⟩ := found_of_nonempty (List.ne_nil_of_mem present)
  obtain ⟨rfl, rfl⟩ := spans.unique (spans_of_found least greatest)
  exact ⟨least, greatest⟩

theorem Spans.perm {periods listed : List Period} {first last : Date}
    (spans : Spans periods first last) (order : listed.Perm periods) : Spans listed first last := by
  obtain ⟨⟨p, p_in, starts⟩, first_le, ⟨q, q_in, finishes⟩, le_last⟩ := spans
  refine ⟨⟨p, order.mem_iff.mpr p_in, starts⟩, ?_, ⟨q, order.mem_iff.mpr q_in, finishes⟩, ?_⟩
  · exact fun other present => first_le other (order.mem_iff.mp present)
  · exact fun other present => le_last other (order.mem_iff.mp present)

/-! ## What is accepted -/

theorem checkNew_nil_ok_iff {start finish : Date} :
    checkNew start finish [] = .ok () ↔ start ≤ finish := by
  unfold checkNew
  by_cases backwards : finish < start
  · simp only [backwards, if_true, reduceCtorEq, false_iff]
    simp only [Date.lt_iff_day, Date.le_iff_day] at *
    omega
  · simp only [backwards, if_false, List.find?_nil, firstStart?, lastFinish?, List.foldl_nil,
      true_iff]
    simp only [Date.lt_iff_day, Date.le_iff_day] at *
    omega

/-- A range is accepted beside others when it meets none and joins them at an end. -/
theorem checkNew_ok_iff {listed : List Period} {first last start finish : Date}
    (spans : Spans listed first last) :
    checkNew start finish listed = .ok () ↔
      start ≤ finish ∧ (∀ p ∈ listed, ¬ p.Overlaps start finish) ∧
        ∃ beyond before, last.next? = some beyond ∧ first.previous? = some before ∧
          (start = beyond ∨ finish = before) := by
  obtain ⟨least, greatest⟩ := spans.found
  unfold checkNew
  rw [least, greatest]
  by_cases backwards : finish < start
  · have forwards : ¬ start ≤ finish := by
      simp only [Date.lt_iff_day, Date.le_iff_day] at *
      omega
    simp only [backwards, if_true, reduceCtorEq, forwards, false_and]
  · have forwards : start ≤ finish := by
      simp only [Date.lt_iff_day, Date.le_iff_day] at *
      omega
    rw [if_neg backwards]
    cases searched : listed.find? fun p => decide (p.Overlaps start finish) with
    | some clash =>
      have present := List.mem_of_find?_eq_some searched
      have overlaps : clash.Overlaps start finish := by simpa using List.find?_some searched
      simp only [reduceCtorEq, false_iff]
      rintro ⟨_, apart, _⟩
      exact apart clash present overlaps
    | none =>
      have apart : ∀ p ∈ listed, ¬ p.Overlaps start finish := by
        simpa only [List.find?_eq_none, decide_eq_true_eq] using searched
      dsimp only
      cases next : last.next? with
      | none => simp
      | some beyond =>
        cases previous : first.previous? with
        | none => simp
        | some before =>
          by_cases joins : start = beyond ∨ finish = before
          · simpa [forwards, joins] using apart
          · simp [joins]

theorem checkNew_ok {listed : List Period} {start finish : Date}
    (accepted : checkNew start finish listed = .ok ()) :
    start ≤ finish ∧ ∀ p ∈ listed, ¬ p.Overlaps start finish := by
  by_cases nonempty : listed = []
  · subst nonempty
    exact ⟨checkNew_nil_ok_iff.mp accepted, List.forall_mem_nil _⟩
  · obtain ⟨first, last, least, greatest⟩ := found_of_nonempty nonempty
    obtain ⟨proper, apart, _⟩ := (checkNew_ok_iff (spans_of_found least greatest)).mp accepted
    exact ⟨proper, apart⟩

/-! ## Periods in a row -/

/-- Each period starts the day after the one before it ends. -/
structure Row (row : List Period) : Prop where
  proper : ∀ p ∈ row, p.start ≤ p.finish
  chained : row.IsChain fun p q => p.finish.next? = some q.start

namespace Row

variable {row : List Period}

theorem tail {p : Period} (ordered : Row (p :: row)) : Row row :=
  ⟨fun q present => ordered.proper q (List.mem_cons_of_mem p present), ordered.chained.tail⟩

theorem later (ordered : Row row) : row.Pairwise fun p q => p.finish < q.start := by
  -- From neighbours to all pairs: a period is not over before it starts, so the days of the
  -- neighbour only add to the distance.
  induction row with
  | nil => exact List.Pairwise.nil
  | cons p rest ih =>
    have later := ih ordered.tail
    refine List.pairwise_cons.mpr ⟨?_, later⟩
    cases rest with
    | nil => simp
    | cons q others =>
      have follows := Date.next?_eq_some_iff.mp (List.isChain_cons_cons.mp ordered.chained).1
      have proper := ordered.proper q (by simp)
      intro other present
      rcases List.mem_cons.mp present with rfl | present
      · rw [Date.lt_iff_day]
        omega
      · have after := (List.pairwise_cons.mp later).1 other present
        simp only [Date.lt_iff_day, Date.le_iff_day] at *
        omega

theorem starts (ordered : Row row) : row.Pairwise fun p q => p.start < q.start := by
  refine ordered.later.imp_of_mem ?_
  intro p q p_in _ later
  have proper := ordered.proper p p_in
  simp only [Date.lt_iff_day, Date.le_iff_day] at *
  omega

theorem head_le {p : Period} (ordered : Row row) (head : row.head? = some p) :
    ∀ q ∈ row, p.start ≤ q.start := by
  obtain ⟨rest, rfl⟩ := List.head?_eq_some_iff.mp head
  intro q present
  rcases List.mem_cons.mp present with rfl | present
  · exact Int.le_refl _
  · exact Int.le_of_lt ((List.pairwise_cons.mp ordered.starts).1 q present)

theorem le_getLast {p : Period} (ordered : Row row) (final : row.getLast? = some p) :
    ∀ q ∈ row, q.finish ≤ p.finish := by
  obtain ⟨earlier, rfl⟩ := List.getLast?_eq_some_iff.mp final
  have proper := ordered.proper p (by simp)
  intro q present
  rcases List.mem_append.mp present with present | present
  · have later := (List.pairwise_append.mp ordered.later).2.2 q present p (by simp)
    simp only [Date.lt_iff_day, Date.le_iff_day] at *
    omega
  · rw [List.mem_singleton.mp present]
    exact Int.le_refl _

theorem append {p : Period} {first last : Date} (ordered : Row row) (spans : Spans row first last)
    (proper : p.start ≤ p.finish) (joins : last.next? = some p.start) : Row (row ++ [p]) := by
  constructor
  · rw [List.forall_mem_append, List.forall_mem_singleton]
    exact ⟨ordered.proper, proper⟩
  · rw [List.isChain_append]
    refine ⟨ordered.chained, List.isChain_singleton _, ?_⟩
    rintro q final _ ⟨⟩
    -- The period that attains the last finish need not be the last of the row; the row says that
    -- it ends on the same day.
    obtain ⟨r, r_in, rfl⟩ := spans.finishes
    have greatest := ordered.le_getLast final r r_in
    have least := spans.le_last q (List.mem_of_getLast? final)
    rw [Date.le_iff_day] at greatest least
    have same : q.finish = r.finish := Date.ext_day (Int.le_antisymm least greatest)
    rw [same, joins]

theorem cons {p : Period} {first last : Date} (ordered : Row row) (spans : Spans row first last)
    (proper : p.start ≤ p.finish) (joins : first.previous? = some p.finish) : Row (p :: row) := by
  constructor
  · rw [List.forall_mem_cons]
    exact ⟨proper, ordered.proper⟩
  · rw [List.isChain_cons]
    refine ⟨?_, ordered.chained⟩
    intro q head
    obtain ⟨r, r_in, rfl⟩ := spans.starts
    have least := ordered.head_le head r r_in
    have greatest := spans.first_le q (List.mem_of_head? head)
    have before := Date.previous?_eq_some_iff.mp joins
    rw [Date.le_iff_day] at greatest least
    rw [Date.next?_eq_some_iff]
    omega

theorem covers {date : Date} (ordered : Row row) (from_start : ∃ p ∈ row, p.start ≤ date)
    (to_finish : ∃ p ∈ row, date ≤ p.finish) : ∃ p ∈ row, p.Contains date := by
  -- A date that the first period does not reach has come to the start of the second.
  induction row with
  | nil => simp at from_start
  | cons p rest ih =>
    by_cases within : date ≤ p.finish
    · refine ⟨p, List.mem_cons_self, ?_, within⟩
      obtain ⟨q, present, after⟩ := from_start
      have least := ordered.head_le rfl q present
      simp only [Date.le_iff_day] at *
      omega
    · obtain ⟨q, present, before⟩ := to_finish
      have in_rest : q ∈ rest := by
        rcases List.mem_cons.mp present with rfl | present
        · exact absurd before within
        · exact present
      cases rest with
      | nil => cases in_rest
      | cons r others =>
        have follows := Date.next?_eq_some_iff.mp (List.isChain_cons_cons.mp ordered.chained).1
        have reached : r.start ≤ date := by
          simp only [Date.le_iff_day] at *
          omega
        obtain ⟨found, found_in, contains⟩ :=
          ih ordered.tail ⟨r, List.mem_cons_self, reached⟩ ⟨q, in_rest, before⟩
        exact ⟨found, List.mem_cons_of_mem p found_in, contains⟩

end Row

theorem Opened.row {periods : List Period} (opened : Opened periods) :
    ∃ row, row.Perm periods ∧ Row row := by
  induction opened with
  | none => exact ⟨[], List.Perm.refl _, List.forall_mem_nil _, List.isChain_nil⟩
  | @next periods listed p _ order accepted ih =>
    obtain ⟨row, perm, ordered⟩ := ih
    by_cases nonempty : listed = []
    · subst nonempty
      obtain rfl := List.nil_perm.mp order
      refine ⟨[p], List.Perm.refl _, ?_, List.isChain_singleton _⟩
      rw [List.forall_mem_singleton]
      exact checkNew_nil_ok_iff.mp accepted
    · obtain ⟨first, last, least, greatest⟩ := found_of_nonempty nonempty
      have spans := spans_of_found least greatest
      have spans_row := spans.perm (perm.trans order.symm)
      obtain ⟨proper, _, beyond, before, next, previous, joins⟩ :=
        (checkNew_ok_iff spans).mp accepted
      rcases joins with rfl | rfl
      · refine ⟨row ++ [p], ?_, ordered.append spans_row proper next⟩
        exact (List.perm_append_singleton p row).trans (perm.cons p)
      · exact ⟨p :: row, perm.cons p, ordered.cons spans_row proper previous⟩

/-! ## The period of a date -/

namespace Row

variable {row listed : List Period}

theorem disjoint (ordered : Row row) (order : listed.Perm row) :
    listed.Pairwise fun p q => ¬ ∃ day, p.Contains day ∧ q.Contains day := by
  have apart : row.Pairwise fun p q => ¬ ∃ day, p.Contains day ∧ q.Contains day := by
    refine ordered.later.imp ?_
    rintro p q later ⟨day, in_p, in_q⟩
    simp only [Contains, Date.le_iff_day, Date.lt_iff_day] at *
    omega
  refine (order.pairwise_iff ?_).mpr apart
  rintro p q apart ⟨day, in_q, in_p⟩
  exact apart ⟨day, in_p, in_q⟩

theorem unique (ordered : Row row) {p q : Period} {day : Date} (p_in : p ∈ row) (q_in : q ∈ row)
    (in_p : p.Contains day) (in_q : q.Contains day) : p = q := by
  induction row with
  | nil => cases p_in
  | cons r rest ih =>
    have apart := (List.pairwise_cons.mp (ordered.disjoint (List.Perm.refl _))).1
    rcases List.mem_cons.mp p_in with p_first | p_later <;>
      rcases List.mem_cons.mp q_in with q_first | q_later
    · rw [p_first, q_first]
    · subst p_first
      exact absurd ⟨day, in_p, in_q⟩ (apart q q_later)
    · subst q_first
      exact absurd ⟨day, in_q, in_p⟩ (apart p p_later)
    · exact ih ordered.tail p_later q_later

theorem mergeSort_eq (ordered : Row row) (order : listed.Perm row) :
    (listed.mergeSort fun p q => decide (p.start ≤ q.start)) = row := by
  have sorted : (listed.mergeSort fun p q => decide (p.start ≤ q.start)).Pairwise
      fun p q => p.start ≤ q.start := by
    refine (List.pairwise_mergeSort ?_ ?_ listed).imp of_decide_eq_true
    · simp only [decide_eq_true_eq, Date.le_iff_day]
      omega
    · simp only [Bool.or_eq_true, decide_eq_true_eq, Date.le_iff_day]
      omega
  have perm := (List.mergeSort_perm listed fun p q => decide (p.start ≤ q.start)).trans order
  refine List.Perm.eq_of_pairwise ?_ sorted ?_ perm
  · intro p q p_in q_in before after
    have p_in := perm.mem_iff.mp p_in
    have same : p.start = q.start := Date.ext_day (Int.le_antisymm before after)
    have in_p : p.Contains p.start := ⟨Int.le_refl _, ordered.proper p p_in⟩
    have in_q : q.Contains p.start := by
      rw [same]
      exact ⟨Int.le_refl _, ordered.proper q q_in⟩
    exact ordered.unique p_in q_in in_p in_q
  · exact ordered.starts.imp fun earlier => Int.le_of_lt earlier

end Row

theorem forDate_of_none {listed : List Period} {date : Date}
    (outside : ∀ p ∈ listed, ¬ p.Contains date) :
    forDate listed date = .error (.noPeriodForDate date) := by
  have searched : find? listed date = none := by simpa [find?] using outside
  rw [forDate, searched]

theorem forDate_of_unique {listed : List Period} {p : Period} {date : Date} (present : p ∈ listed)
    (contains : p.Contains date) (only : ∀ q ∈ listed, q.Contains date → q = p) :
    forDate listed date = .ok p := by
  unfold forDate
  cases searched : find? listed date with
  | none =>
    have outside := List.find?_eq_none.mp searched p present
    simp [contains] at outside
  | some q =>
    have inside : q.Contains date := by simpa using List.find?_some searched
    rw [only q (List.mem_of_find?_eq_some searched) inside]

/-- A calendar without gap and without overlap, which accepts just what continues it at one of
its ends. -/
structure Gapless (listed : List Period) : Prop where
  proper : ∀ p ∈ listed, p.start ≤ p.finish
  /-- Sorted by start, each period starts the day after the one before it ends. -/
  successive : (listed.mergeSort fun p q => decide (p.start ≤ q.start)).IsChain
    fun p q => p.finish.next? = some q.start
  disjoint : listed.Pairwise fun p q => ¬ ∃ day, p.Contains day ∧ q.Contains day
  found : ∀ first last, Spans listed first last → ∀ date, first ≤ date → date ≤ last →
    ∃ p ∈ listed, forDate listed date = .ok p ∧ ∀ q ∈ listed, q.Contains date ↔ q = p
  missed : ∀ date, (∀ first last, Spans listed first last → date < first ∨ last < date) →
    forDate listed date = .error (.noPeriodForDate date)
  accepts : ∀ first last before beyond, Spans listed first last → first.previous? = some before →
    last.next? = some beyond → ∀ start finish,
      checkNew start finish listed = .ok () ↔
        start ≤ finish ∧ (start = beyond ∨ finish = before)
  refuses : ∀ start finish, ∀ p ∈ listed, p.SharesDay start finish →
    ∃ clash ∈ listed, clash.SharesDay start finish ∧
      checkNew start finish listed = .error (.overlaps clash.id)

theorem Spans.apart {listed : List Period} {first last before beyond start finish : Date}
    (spans : Spans listed first last) (previous : first.previous? = some before)
    (next : last.next? = some beyond) (joins : start = beyond ∨ finish = before) :
    ∀ p ∈ listed, ¬ p.Overlaps start finish := by
  intro p present overlaps
  have first_le := spans.first_le p present
  have le_last := spans.le_last p present
  rw [Date.previous?_eq_some_iff] at previous
  rw [Date.next?_eq_some_iff] at next
  simp only [Overlaps, Date.le_iff_day] at *
  rcases joins with rfl | rfl <;> omega

theorem checkNew_of_sharesDay {listed : List Period} (proper : ∀ p ∈ listed, p.start ≤ p.finish)
    {start finish : Date} {p : Period} (present : p ∈ listed) (shared : p.SharesDay start finish) :
    ∃ clash ∈ listed, clash.SharesDay start finish ∧
      checkNew start finish listed = .error (.overlaps clash.id) := by
  have range : start ≤ finish := by
    obtain ⟨day, _, after, before⟩ := shared
    exact Int.le_trans after before
  have forwards : ¬ finish < start := by
    simp only [Date.le_iff_day, Date.lt_iff_day] at *
    omega
  cases searched : listed.find? fun p => decide (p.Overlaps start finish) with
  | none =>
    have apart := List.find?_eq_none.mp searched p present
    simp [shared.overlaps] at apart
  | some clash =>
    have clash_in := List.mem_of_find?_eq_some searched
    have overlaps : clash.Overlaps start finish := by simpa using List.find?_some searched
    refine ⟨clash, clash_in, overlaps.sharesDay (proper clash clash_in) range, ?_⟩
    rw [checkNew, if_neg forwards, searched]

/-- However periods are opened one after the other, and however they are listed, the calendar
has no gap, a date has the one period that contains it, and a new range is accepted just at the
two ends. -/
theorem opened_gapless {periods listed : List Period} (opened : Opened periods)
    (order : listed.Perm periods) : Gapless listed := by
  obtain ⟨row, perm, ordered⟩ := opened.row
  have same : listed.Perm row := order.trans perm.symm
  have proper : ∀ p ∈ listed, p.start ≤ p.finish :=
    fun p present => ordered.proper p (same.mem_iff.mp present)
  constructor
  case proper => exact proper
  case successive =>
    rw [ordered.mergeSort_eq same]
    exact ordered.chained
  case disjoint => exact ordered.disjoint same
  case found =>
    intro first last spans date from_start to_finish
    obtain ⟨⟨p, p_in, rfl⟩, _, ⟨q, q_in, rfl⟩, _⟩ := spans.perm same.symm
    obtain ⟨r, r_in, contains⟩ := ordered.covers ⟨p, p_in, from_start⟩ ⟨q, q_in, to_finish⟩
    have only : ∀ s ∈ listed, s.Contains date → s = r := fun s present inside =>
      ordered.unique (same.mem_iff.mp present) r_in inside contains
    have present := same.mem_iff.mpr r_in
    refine ⟨r, present, forDate_of_unique present contains only, ?_⟩
    intro s s_in
    constructor
    · exact only s s_in
    · rintro rfl
      exact contains
  case missed =>
    intro date outside
    apply forDate_of_none
    intro p present inside
    obtain ⟨first, last, least, greatest⟩ := found_of_nonempty (List.ne_nil_of_mem present)
    have spans := spans_of_found least greatest
    have first_le := spans.first_le p present
    have le_last := spans.le_last p present
    have beside := outside first last spans
    simp only [Contains, Date.le_iff_day, Date.lt_iff_day] at *
    omega
  case accepts =>
    intro first last before beyond spans previous next start finish
    rw [checkNew_ok_iff spans]
    constructor
    · rintro ⟨range, _, beyond', before', next', previous', joins⟩
      obtain rfl := Option.some.inj (next.symm.trans next')
      obtain rfl := Option.some.inj (previous.symm.trans previous')
      exact ⟨range, joins⟩
    · rintro ⟨range, joins⟩
      exact ⟨range, spans.apart previous next joins, beyond, before, next, previous, joins⟩
  case refuses =>
    intro start finish p present shared
    exact checkNew_of_sharesDay proper present shared

def sampleMonth (id : Nat) (first last : Fin 365) : Period :=
  ⟨Id.ofNat id, ⟨20089 + first, by omega, by omega⟩, ⟨20089 + last, by omega, by omega⟩, .open⟩

/-- February is opened first, then March behind it and January in front; the list is in no
order. -/
theorem quarter_gapless :
    Opened [sampleMonth 3 0 30, sampleMonth 2 59 89, sampleMonth 1 31 58] ∧
      Gapless [sampleMonth 2 59 89, sampleMonth 3 0 30, sampleMonth 1 31 58] ∧
      forDate [sampleMonth 2 59 89, sampleMonth 3 0 30, sampleMonth 1 31 58]
        (sampleMonth 1 31 58).finish = .ok (sampleMonth 1 31 58) := by
  have february : Opened [sampleMonth 1 31 58] := .next .none (.refl []) rfl
  have march : Opened [sampleMonth 2 59 89, sampleMonth 1 31 58] := .next february (.refl _) rfl
  have january : Opened [sampleMonth 3 0 30, sampleMonth 2 59 89, sampleMonth 1 31 58] :=
    .next march (.swap _ _ []) rfl
  exact ⟨january, opened_gapless january (.swap _ _ _), rfl⟩

end Period

end Countinghouse
