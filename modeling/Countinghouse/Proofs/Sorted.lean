import Countinghouse.Ident
import Mathlib.Data.List.Sort

/-! # Identifiers in order

Sorting identifiers keeps which there are and forgets how often and in which order they were
given: two lists with the same members are sorted alike. -/

set_option autoImplicit false

namespace Countinghouse.Id

variable {kind : Kind} {a b : Id kind} {ids ids' : List (Id kind)}

instance : Std.Irrefl (α := Id kind) (· < ·) := ⟨fun a => Nat.lt_irrefl a.value⟩

instance : Std.Antisymm (α := Id kind) (· < ·) :=
  ⟨fun _ _ before after => absurd before (Nat.lt_asymm after)⟩

theorem ne_of_lt (before : a < b) : a ≠ b := by
  rintro rfl
  exact Nat.lt_irrefl _ before

theorem lt_of_not_lt (notBefore : ¬ a < b) (differ : a ≠ b) : b < a :=
  Nat.lt_of_le_of_ne (Nat.not_lt.mp notBefore) fun equal => differ (ext_value equal.symm)

theorem mem_insertOnce : b ∈ insertOnce a ids ↔ b = a ∨ b ∈ ids := by
  induction ids with
  | nil => simp [insertOnce]
  | cons c rest ih =>
    by_cases before : a < c
    · simp [insertOnce, before]
    · by_cases same : a = c
      · subst same
        simp [insertOnce, before]
      · simp only [insertOnce, before, same, if_false, List.mem_cons, ih]
        exact or_left_comm

theorem mem_sorted : a ∈ sorted ids ↔ a ∈ ids := by
  induction ids with
  | nil => simp [sorted]
  | cons c rest ih =>
    simp only [sorted, List.foldr_cons, mem_insertOnce, List.mem_cons] at ih ⊢
    rw [ih]

theorem insertOnce_increasing (increasing : ids.Pairwise (· < ·)) :
    (insertOnce a ids).Pairwise (· < ·) := by
  induction ids with
  | nil => exact List.pairwise_singleton _ a
  | cons c rest ih =>
    obtain ⟨after, rest_increasing⟩ := List.pairwise_cons.mp increasing
    by_cases before : a < c
    · rw [insertOnce, if_pos before]
      refine List.pairwise_cons.mpr ⟨?_, increasing⟩
      intro d present
      rcases List.mem_cons.mp present with rfl | present
      · exact before
      · exact Nat.lt_trans before (after d present)
    · by_cases same : a = c
      · rw [insertOnce, if_neg before, if_pos same]
        exact increasing
      · rw [insertOnce, if_neg before, if_neg same]
        refine List.pairwise_cons.mpr ⟨?_, ih rest_increasing⟩
        intro d present
        rcases mem_insertOnce.mp present with rfl | present
        · exact lt_of_not_lt before same
        · exact after d present

theorem sorted_increasing (ids : List (Id kind)) : (sorted ids).Pairwise (· < ·) := by
  induction ids with
  | nil => exact List.Pairwise.nil
  | cons a rest ih => exact insertOnce_increasing ih

theorem sorted_nodup (ids : List (Id kind)) : (sorted ids).Nodup := (sorted_increasing ids).nodup

theorem eq_sorted (increasing : ids.Pairwise (· < ·)) (same : ∀ a, a ∈ ids ↔ a ∈ ids') :
    ids = sorted ids' :=
  increasing.eq_of_mem_iff (sorted_increasing ids') fun a => (same a).trans mem_sorted.symm

theorem sorted_congr (same : ∀ a, a ∈ ids ↔ a ∈ ids') : sorted ids = sorted ids' :=
  eq_sorted (sorted_increasing ids) fun a => mem_sorted.trans (same a)

end Countinghouse.Id
