import Countinghouse.Decimal.Reader
import Countinghouse.Proofs.Text.Numerals

/-! # Reading back decimals

A decimal is written with as many places as its scale says, and its units are in range.  So the
reader takes in every digit and rounds nothing: the decimal is read back as it was, its scale
included. -/

set_option autoImplicit false

namespace Countinghouse.Decimal

open Text

namespace Reading

/-- Another digit can be taken in unless the last place behind the point has been read. -/
def Ready (r : Reading) : Prop := r.full = true → r.pointed = true ∧ 28 ≤ r.scale

/-- What is read of digits that fit in: their number behind what was read before. -/
structure Follows (r : Reading) (digits : List Nat) (next : Reading) : Prop where
  ready : next.Ready
  units : next.units = number 10 r.units digits
  pointed : next.pointed = r.pointed
  scale : next.scale = if r.pointed then r.scale + digits.length else r.scale
  started : next.started = (r.started || !digits.isEmpty)

variable {r : Reading} {digits : List Nat}

theorem take_follows (r : Reading) (d : Nat) :
    r.Follows [d] (r.take (r.units * 10 + d)) := by
  constructor
  · intro full
    simpa [take] using full
  all_goals simp [take, number]

theorem Follows.cons {d : Nat} {first next : Reading} (one : r.Follows [d] first)
    (others : first.Follows digits next) : r.Follows (d :: digits) next where
  ready := others.ready
  units := by rw [others.units, one.units, number_cons, number_cons]; rfl
  pointed := others.pointed.trans one.pointed
  scale := by
    rw [others.scale, one.pointed, one.scale]
    split
    · simp only [List.length_cons, List.length_nil]
      omega
    · rfl
  started := by simp [others.started, one.started]

theorem run_spelled (ready : r.Ready) (small : ∀ d ∈ digits, d < 10)
    (places : r.pointed = true → r.scale + digits.length ≤ 28)
    (fits : number 10 r.units digits < 2 ^ 96) (rest : List Char) :
    ∃ next, r.run (spelled digits ++ rest) = next.run rest ∧ r.Follows digits next := by
  induction digits generalizing r with
  | nil => exact ⟨r, rfl, ready, rfl, rfl, by simp, by simp⟩
  | cons d others ih =>
    obtain ⟨first, small⟩ := List.forall_mem_cons.mp small
    rw [List.length_cons] at places
    -- As long as the places fit there is no reason to be full, and so the digit is taken in.
    have unfull : ¬ r.full = true := by
      intro full
      obtain ⟨pointed, all⟩ := ready full
      have := places pointed
      omega
    have within : r.units * 10 + d < 2 ^ 96 :=
      Nat.lt_of_le_of_lt (le_number (by decide) _ others) fits
    have one := take_follows r d
    have places_left : (r.take (r.units * 10 + d)).pointed = true →
        (r.take (r.units * 10 + d)).scale + others.length ≤ 28 := by
      intro pointed
      rw [one.pointed] at pointed
      have := places pointed
      rw [one.scale, if_pos pointed, List.length_singleton]
      omega
    have fits_still : number 10 (r.take (r.units * 10 + d)).units others < 2 ^ 96 := by
      rwa [one.units]
    obtain ⟨next, reached, follows⟩ := ih one.ready small places_left fits_still
    refine ⟨next, ?_, one.cons follows⟩
    rw [spelled, List.map_cons, List.cons_append, run, digit?_digitChar first]
    simp only [if_neg unfull, if_pos within]
    exact reached

theorem run_pointed {whole fraction : List Nat} (small : ∀ d ∈ whole ++ fraction, d < 10)
    (some_whole : whole ≠ []) (places : fraction.length ≤ 28)
    (fits : number 10 0 (whole ++ fraction) < 2 ^ 96) :
    start.run (spelled whole ++ if fraction = [] then [] else '.' :: spelled fraction) =
      some (number 10 0 (whole ++ fraction), fraction.length) := by
  rw [List.forall_mem_append] at small
  rw [number_append] at fits ⊢
  have ready : start.Ready := nofun
  obtain ⟨middle, reached, before⟩ := run_spelled ready small.1 (r := start) nofun
    (Nat.lt_of_le_of_lt (le_number (by decide) _ fraction) fits)
    (if fraction = [] then [] else '.' :: spelled fraction)
  rw [reached]
  have started : middle.started = true := by
    rw [before.started]
    simpa [start] using some_whole
  have unpointed : middle.pointed = false := before.pointed
  have unscaled : middle.scale = 0 := before.scale
  have unfull : middle.full = false := by
    by_contra full
    have pointed := (before.ready (by simpa using full)).1
    rw [unpointed] at pointed
    cases pointed
  split
  case isTrue none =>
    subst none
    rw [run, if_pos started, before.units, unscaled]
    rfl
  case isFalse =>
    have point : middle.run ('.' :: spelled fraction) =
        ({ middle with pointed := true } : Reading).run (spelled fraction ++ []) := by
      rw [List.append_nil, run]
      simp [digit?, unfull, unpointed]
    obtain ⟨next, reached, after⟩ := run_spelled (r := { middle with pointed := true })
      (by simp [Ready, unfull]) small.2 (by simpa [unscaled] using places)
      (by rw [before.units]; exact fits) []
    have read : next.started = true := by
      rw [after.started]
      exact Bool.or_eq_true_iff.mpr (Or.inl started)
    have scale : next.scale = fraction.length := by
      rw [after.scale, if_pos rfl]
      exact (congrArg (· + _) unscaled).trans (Nat.zero_add _)
    have units : next.units = number 10 (number 10 0 whole) fraction := by
      rw [after.units]
      exact congrArg (number 10 · fraction) before.units
    rw [point, reached, run, if_pos read, units, scale]

end Reading

theorem readPlain?_unsigned {d : Nat} (small : d < 10) (rest : List Char) :
    readPlain? (d.digitChar :: rest) = signed? false (Reading.start.run (d.digitChar :: rest)) := by
  have plain : d.digitChar ≠ '-' ∧ d.digitChar ≠ '+' := by
    revert d
    decide
  unfold readPlain?
  split
  case h_1 first => exact absurd (List.cons.inj first).1 plain.1
  case h_2 first => exact absurd (List.cons.inj first).1 plain.2
  case h_3 => rfl

theorem signed?_units (a : Decimal) :
    signed? (decide (a.units < 0)) (some (a.units.natAbs, a.scale)) = some a := by
  have sign : (if decide (a.units < 0) = true then -(a.units.natAbs : Int) else a.units.natAbs) =
      a.units := by
    simp only [decide_eq_true_eq]
    split <;> omega
  simp only [signed?, sign, Nat.mod_eq_of_lt (Nat.lt_succ_of_le a.scale_le)]
  exact dif_pos ⟨a.scale_le, a.units_lt⟩

theorem read?_text (a : Decimal) : read? a.text = some a := by
  obtain ⟨digits, written, small, meant, length⟩ :=
    padLeft_spelled (show 1 < 10 by decide) (a.scale + 1) a.units.natAbs
  have wide : a.scale + 1 ≤ digits.length := length ▸ Nat.le_max_left ..
  let whole := digits.take (digits.length - a.scale)
  let fraction := digits.drop (digits.length - a.scale)
  have parts : whole ++ fraction = digits := List.take_append_drop ..
  have places : fraction.length = a.scale := by
    rw [List.length_drop]
    omega
  have some_whole : whole ≠ [] := by
    rw [← List.length_pos_iff, List.length_take]
    omega
  let numeral := spelled whole ++ if fraction = [] then [] else '.' :: spelled fraction
  have text : a.text.toList = (if a.units < 0 then ['-'] else []) ++ numeral := by
    have unplaced : a.scale = 0 ↔ fraction = [] := by
      rw [← places, List.length_eq_zero_iff]
    simp only [Decimal.text, written, List.length_map, String.toList_ofList, numeral,
      List.append_assoc, ← unplaced, whole, fraction, spelled, List.map_take, List.map_drop]
  have read : Reading.start.run numeral = some (a.units.natAbs, a.scale) := by
    rw [Reading.run_pointed (parts.symm ▸ small) some_whole (places ▸ a.scale_le)
      (by rw [parts, meant]; exact a.units_lt), parts, meant, places]
  have plain : readPlain? a.text.toList = some a := by
    rw [← signed?_units a, text]
    by_cases negative : a.units < 0
    · rw [if_pos negative, decide_eq_true negative, ← read]
      rfl
    · obtain ⟨d, others, isWhole⟩ := List.exists_cons_of_ne_nil some_whole
      have first : d < 10 := small d (by simp [← parts, isWhole])
      have starts : numeral = d.digitChar ::
          (spelled others ++ if fraction = [] then [] else '.' :: spelled fraction) := by
        simp only [numeral, isWhole]
        rfl
      rw [if_neg negative, decide_eq_false negative, List.nil_append, ← read, starts]
      exact readPlain?_unsigned first _
  rw [read?, plain]

end Countinghouse.Decimal
