import Countinghouse.Paging
import Mathlib.Data.List.Basic

/-! # Pages one after the other

A page starts where the page before it ends.  So the pages of a list, laid one after the other,
are the list; all of them but the last are full, the last one is needed, and those after it are
empty. -/

set_option autoImplicit false

namespace Countinghouse.PageRequest

variable {α : Type} {n total : Nat}

def onPage (r : PageRequest) (n : Nat) : PageRequest := { r with page := n }

/-- How rows are dealt out to numbered pages. -/
structure Tiles (r : PageRequest) (rows : List α) (page : Nat → List α) : Prop where
  joined : ((List.range (r.totalPages rows.length)).flatMap fun i => page (i + 1)) = rows
  full : ∀ n, 1 ≤ n → n < r.totalPages rows.length → (page n).length = r.limit
  last : rows ≠ [] → page (r.totalPages rows.length) ≠ []
  beyond : ∀ n, r.totalPages rows.length < n → page n = []
  zero : page 0 = page 1

/-! ## Sizes -/

theorem limit_pos (r : PageRequest) : 0 < r.limit := by
  unfold limit
  omega

theorem limit_le (r : PageRequest) : r.limit ≤ 100 := by
  unfold limit
  omega

@[simp] theorem onPage_limit (r : PageRequest) : (r.onPage n).limit = r.limit := rfl

theorem onPage_offset (r : PageRequest) : (r.onPage (n + 1)).offset = n * r.limit := by
  simp [offset, number, onPage, limit]

theorem offset_lt (r : PageRequest) (bits : r.page < 2 ^ 32) : r.offset < 2 ^ 64 := by
  have number_lt : r.number - 1 < 2 ^ 32 := by
    unfold number
    omega
  calc r.offset ≤ 2 ^ 32 * 100 := Nat.mul_le_mul (Nat.le_of_lt number_lt) r.limit_le
    _ < 2 ^ 64 := by decide

theorem le_totalPages_mul (r : PageRequest) (total : Nat) :
    total ≤ r.totalPages total * r.limit := by
  have pos := r.limit_pos
  unfold totalPages
  split
  · omega
  · have divided := Nat.div_add_mod (total + r.limit - 1) r.limit
    have rest := Nat.mod_lt (total + r.limit - 1) pos
    rw [Nat.mul_comm]
    omega

theorem totalPages_pos (r : PageRequest) (total : Nat) : 0 < r.totalPages total := by
  by_cases none : total = 0
  · rw [totalPages, if_pos none]
    exact Nat.one_pos
  · exact Nat.pos_of_mul_pos_right (Nat.lt_of_lt_of_le (Nat.pos_of_ne_zero none)
      (r.le_totalPages_mul total))

theorem mul_lt_of_lt_totalPages (r : PageRequest) (some : 0 < total)
    (present : n < r.totalPages total) : n * r.limit < total := by
  have pos := r.limit_pos
  rw [totalPages, if_neg (Nat.pos_iff_ne_zero.mp some)] at present
  have enough := (Nat.le_div_iff_mul_le pos).mp (Nat.succ_le_of_lt present)
  rw [Nat.succ_mul] at enough
  omega

/-! ## Rows -/

theorem slice_onPage (r : PageRequest) (rows : List α) :
    (r.onPage (n + 1)).slice rows = (rows.drop (n * r.limit)).take r.limit := by
  rw [slice, onPage_offset, onPage_limit]

theorem joined_slices (r : PageRequest) (rows : List α) (n : Nat) :
    ((List.range n).flatMap fun i => (r.onPage (i + 1)).slice rows) = rows.take (n * r.limit) := by
  induction n with
  | zero => simp
  | succ n ih =>
    rw [List.range_succ, List.flatMap_append, ih, List.flatMap_singleton, slice_onPage,
      Nat.succ_mul, List.take_add]

theorem slices_tile (r : PageRequest) (rows : List α) :
    r.Tiles rows fun n => (r.onPage n).slice rows where
  joined := by
    rw [joined_slices]
    exact List.take_of_length_le (r.le_totalPages_mul rows.length)
  full := by
    rintro (_ | n) later present
    · omega
    · -- Without rows there would be one page, and this is the second or a later one.
      have some : 0 < rows.length := by
        refine Nat.pos_of_ne_zero fun none => ?_
        rw [none, totalPages, if_pos rfl] at present
        omega
      have rest := r.mul_lt_of_lt_totalPages some present
      rw [Nat.succ_mul] at rest
      rw [slice_onPage, List.length_take, List.length_drop]
      omega
  last := by
    intro nonempty
    have some : 0 < rows.length := List.length_pos_iff.mpr nonempty
    obtain ⟨m, count⟩ := Nat.exists_eq_succ_of_ne_zero
      (Nat.ne_of_gt (r.totalPages_pos rows.length))
    have rest := r.mul_lt_of_lt_totalPages some (n := m) (by omega)
    have pos := r.limit_pos
    rw [count, slice_onPage, ← List.length_pos_iff, List.length_take, List.length_drop]
    omega
  beyond := by
    rintro (_ | n) after
    · omega
    · have all := r.le_totalPages_mul rows.length
      have later := Nat.mul_le_mul_right r.limit (Nat.le_of_lt_succ after)
      rw [slice_onPage, List.drop_of_length_le (Nat.le_trans all later), List.take_nil]
  zero := rfl

end Countinghouse.PageRequest
