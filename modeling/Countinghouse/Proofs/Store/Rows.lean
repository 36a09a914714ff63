import Mathlib.Data.List.Nodup

/-! # Rows with distinct keys

A row is stored again by putting it in the place of the row with its key.  Where
keys are distinct, this changes one row and no other. -/

set_option autoImplicit false

namespace Countinghouse.Rows

variable {α κ : Type} [DecidableEq κ]

def replace (key : α → κ) (row : α) (rows : List α) : List α :=
  rows.map fun old => if key old = key row then row else old

theorem keys_replace (key : α → κ) (row : α) (rows : List α) :
    (replace key row rows).map key = rows.map key := by
  rw [replace, List.map_map]
  apply List.map_congr_left
  intro old _
  by_cases same : key old = key row <;> simp [same]

theorem mem_replace_iff (key : α → κ) (row : α) {rows : List α} {old : α} (stored : old ∈ rows)
    (same : key row = key old) (other : α) :
    other ∈ replace key row rows ↔ other = row ∨ other ∈ rows ∧ key other ≠ key row := by
  rw [replace, List.mem_map]
  constructor
  · rintro ⟨kept, present, rfl⟩
    by_cases matches_ : key kept = key row
    · exact Or.inl (if_pos matches_)
    · rw [if_neg matches_]
      exact Or.inr ⟨present, matches_⟩
  · rintro (rfl | ⟨present, differs⟩)
    · exact ⟨old, stored, if_pos same.symm⟩
    · exact ⟨other, present, if_neg differs⟩

theorem find?_exists (fits : α → Bool) {rows : List α} {row : α} (stored : row ∈ rows)
    (fits_row : fits row = true) : ∃ found, rows.find? fits = some found :=
  Option.isSome_iff_exists.mp (List.find?_isSome.mpr ⟨row, stored, fits_row⟩)

theorem replace_other {key : α → κ} {row : α} {rows : List α}
    (differ : ∀ other ∈ rows, key other ≠ key row) : replace key row rows = rows := by
  refine (List.map_congr_left ?_).trans (List.map_id rows)
  intro other present
  exact if_neg (differ other present)

/-- A search that only one key can satisfy finds the row that took the place of the others. -/
theorem find?_replace (key : α → κ) (row : α) {old : α} {rows : List α} {fits : α → Bool}
    (searched : rows.find? fits = some old) (fits_row : fits row = true)
    (one_key : ∀ other, fits other = true → key other = key row) :
    (replace key row rows).find? fits = some row := by
  induction rows with
  | nil => cases searched
  | cons other rest ih =>
    rw [replace, List.map_cons]
    by_cases same : key other = key row
    · rw [if_pos same, List.find?_cons_of_pos fits_row]
    · have misses : ¬ fits other = true := fun fits_other => same (one_key other fits_other)
      rw [List.find?_cons_of_neg misses] at searched
      rw [if_neg same, List.find?_cons_of_neg misses]
      exact ih searched

theorem filter_replace {key : α → κ} {row : α} {rows : List α} {fits : α → Bool}
    (new : fits row = false) (old : ∀ other ∈ rows, key other = key row → fits other = false) :
    (replace key row rows).filter fits = rows.filter fits := by
  induction rows with
  | nil => rfl
  | cons other rest ih =>
    obtain ⟨first, others⟩ := List.forall_mem_cons.mp old
    have kept := ih others
    rw [replace] at kept ⊢
    by_cases same : key other = key row
    · rw [List.map_cons, if_pos same, List.filter_cons_of_neg (by simp [new]),
        List.filter_cons_of_neg (by simp [first same]), kept]
    · rw [List.map_cons, if_neg same, List.filter_cons, List.filter_cons, kept]

theorem find?_replace_other {key : α → κ} {row : α} {rows : List α} {fits : α → Bool}
    (new : fits row = false) (old : ∀ other ∈ rows, key other = key row → fits other = false) :
    (replace key row rows).find? fits = rows.find? fits := by
  rw [← List.head?_filter, filter_replace new old, List.head?_filter]

omit [DecidableEq κ] in
theorem nodup_keys_append {key : α → κ} {rows : List α} {row : α}
    (distinct : (rows.map key).Nodup) (fresh : key row ∉ rows.map key) :
    ((rows ++ [row]).map key).Nodup := by
  rw [List.map_append, List.map_singleton, ← List.concat_eq_append]
  exact distinct.concat fresh

omit [DecidableEq κ] in
theorem around_distinct {key : α → κ} {rows : List α} {row : α}
    (distinct : (rows.map key).Nodup) (stored : row ∈ rows) :
    ∃ earlier later, rows = earlier ++ row :: later ∧
      (∀ other ∈ earlier, key other ≠ key row) ∧ ∀ other ∈ later, key other ≠ key row := by
  obtain ⟨earlier, later, rfl⟩ := List.append_of_mem stored
  rw [List.map_append, List.map_cons, List.nodup_middle, List.nodup_cons, List.mem_append,
    not_or, List.mem_map, List.mem_map] at distinct
  obtain ⟨⟨before, after⟩, _⟩ := distinct
  exact ⟨earlier, later, rfl, fun other present equal => before ⟨other, present, equal⟩,
    fun other present equal => after ⟨other, present, equal⟩⟩

theorem replace_split {key : α → κ} {rows : List α} {old row : α}
    (distinct : (rows.map key).Nodup) (stored : old ∈ rows) (same : key row = key old) :
    ∃ earlier later, rows = earlier ++ old :: later ∧
      replace key row rows = earlier ++ row :: later := by
  obtain ⟨earlier, later, rfl, before, after⟩ := around_distinct distinct stored
  rw [← same] at before after
  have kept := replace_other before
  have kept' := replace_other after
  refine ⟨earlier, later, rfl, ?_⟩
  simp only [replace] at kept kept' ⊢
  rw [List.map_append, List.map_cons, kept, kept', if_pos same.symm]

/-- Where keys are distinct, what a new row shares with the old one stays the same. -/
theorem map_replace {β : Type} {key : α → κ} {rows : List α} {old row : α} {part : α → β}
    (distinct : (rows.map key).Nodup) (stored : old ∈ rows) (same : key row = key old)
    (samePart : part row = part old) : (replace key row rows).map part = rows.map part := by
  obtain ⟨earlier, later, split, split'⟩ := replace_split distinct stored same
  rw [split', split, List.map_append, List.map_append, List.map_cons, List.map_cons, samePart]

/-- Where keys are distinct, a row that does not fit takes the place of the one that did. -/
theorem perm_replace (fits : α → Bool) {key : α → κ} {rows : List α} {old row : α}
    (distinct : (rows.map key).Nodup) (stored : old ∈ rows) (same : key row = key old)
    (fitted : fits old = true) (misfit : fits row = false) :
    (rows.filter fits).Perm (old :: (replace key row rows).filter fits) := by
  obtain ⟨earlier, later, split, split'⟩ := replace_split distinct stored same
  rw [split', split, List.filter_append, List.filter_append, List.filter_cons_of_pos fitted,
    List.filter_cons_of_neg (by simp [misfit])]
  exact List.perm_middle

theorem filter_key {key : α → κ} {rows : List α} {row : α} (distinct : (rows.map key).Nodup)
    (stored : row ∈ rows) : rows.filter (fun other => key other = key row) = [row] := by
  obtain ⟨earlier, later, rfl, before, after⟩ := around_distinct distinct stored
  have none_before : earlier.filter (fun other => key other = key row) = [] := by
    simpa using before
  have none_after : later.filter (fun other => key other = key row) = [] := by
    simpa using after
  rw [List.filter_append, List.filter_cons_of_pos (by simp), none_before, none_after]
  rfl

theorem find?_key {key : α → κ} {rows : List α} {row : α} (distinct : (rows.map key).Nodup)
    (stored : row ∈ rows) : rows.find? (fun other => key other = key row) = some row := by
  rw [← List.head?_filter, filter_key distinct stored, List.head?_cons]

theorem filter_keys_perm (key : α → κ) {keys : List κ} (distinct : keys.Nodup) (rows : List α) :
    (rows.filter fun row => key row ∈ keys).Perm
      (keys.flatMap fun k => rows.filter fun row => key row = k) := by
  induction keys with
  | nil => simp
  | cons k rest ih =>
    obtain ⟨absent, distinct⟩ := List.nodup_cons.mp distinct
    have mine : (rows.filter fun row => key row ∈ k :: rest).filter (fun row => key row = k) =
        rows.filter fun row => key row = k := by
      rw [List.filter_filter]
      refine List.filter_congr fun row _ => ?_
      by_cases same : key row = k <;> simp [same]
    have others : (rows.filter fun row => key row ∈ k :: rest).filter
        (fun row => !decide (key row = k)) = rows.filter fun row => key row ∈ rest := by
      rw [List.filter_filter]
      refine List.filter_congr fun row _ => ?_
      by_cases same : key row = k <;> simp [same, absent]
    have parted := List.filter_append_perm (fun row => decide (key row = k))
      (rows.filter fun row => key row ∈ k :: rest)
    rw [mine, others] at parted
    rw [List.flatMap_cons]
    exact parted.symm.trans ((ih distinct).append_left _)

/-! ## Rows of a kind -/

section Kind

variable {α : Type} {rows : List α} {narrow wide : α → Bool}

theorem filter_within (included : ∀ row ∈ rows, narrow row = true → wide row = true) :
    (rows.filter wide).filter narrow = rows.filter narrow := by
  rw [List.filter_filter]
  refine List.filter_congr ?_
  intro row present
  by_cases fits : narrow row = true
  · rw [fits, included row present fits, Bool.and_self]
  · simp [fits]

theorem find?_within (included : ∀ row ∈ rows, narrow row = true → wide row = true) :
    (rows.filter wide).find? narrow = rows.find? narrow := by
  rw [← List.head?_filter, ← List.head?_filter, filter_within included]

theorem any_within (included : ∀ row ∈ rows, narrow row = true → wide row = true) :
    (rows.filter wide).any narrow = rows.any narrow := by
  rw [Bool.eq_iff_iff, List.any_eq_true, List.any_eq_true]
  constructor
  · rintro ⟨row, present, fits⟩
    exact ⟨row, (List.mem_filter.mp present).1, fits⟩
  · rintro ⟨row, present, fits⟩
    exact ⟨row, List.mem_filter.mpr ⟨present, included row present fits⟩, fits⟩

theorem filter_map_kept {change : α → α} (kept : ∀ row ∈ rows, wide (change row) = wide row) :
    (rows.map change).filter wide = (rows.filter wide).map change := by
  rw [List.filter_map]
  refine congrArg (List.map change) (List.filter_congr ?_)
  intro row present
  exact kept row present

theorem filter_map_untouched {change : α → α}
    (kept : ∀ row ∈ rows, wide (change row) = wide row)
    (untouched : ∀ row ∈ rows, wide row = true → change row = row) :
    (rows.map change).filter wide = rows.filter wide := by
  rw [filter_map_kept kept]
  refine (List.map_congr_left ?_).trans (List.map_id _)
  intro row present
  obtain ⟨stored, fits⟩ := List.mem_filter.mp present
  exact untouched row stored fits

end Kind

end Countinghouse.Rows
