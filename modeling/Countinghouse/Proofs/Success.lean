import Countinghouse.Policy.Check
import Mathlib.Data.List.Forall2

/-! # When operations succeed

An operation is a chain of checks, each of which may refuse.  It succeeds exactly
when every check in it does; these lemmas take such a chain apart. -/

set_option autoImplicit false

namespace Countinghouse

variable {ε η α β : Type}

theorem bind_ok_iff {r : Except ε α} {next : α → Except ε β} {b : β} :
    (r >>= next) = .ok b ↔ ∃ a, r = .ok a ∧ next a = .ok b := by
  cases r with
  | error e => simp [bind, Except.bind]
  | ok a => simp [bind, Except.bind]

theorem pure_ok_iff {a b : α} : (pure a : Except ε α) = .ok b ↔ b = a := by
  simp [pure, Except.pure, eq_comm]

theorem throw_ok_iff {e : ε} {b : α} : (throw e : Except ε α) = .ok b ↔ False := by
  simp [throw, throwThe, MonadExceptOf.throw]

theorem map_ok_iff {r : Except ε α} {f : α → β} {b : β} :
    r.map f = .ok b ↔ ∃ a, r = .ok a ∧ b = f a := by
  cases r with
  | error e => simp [Except.map]
  | ok a => simp [Except.map, eq_comm]

/-- A refusal that is passed on as one of another family is still a refusal. -/
theorem mapError_ok_iff {r : Except ε α} {f : ε → η} {a : α} :
    r.mapError f = .ok a ↔ r = .ok a := by
  cases r with
  | error e => simp [Except.mapError]
  | ok a => simp [Except.mapError]

theorem ite_ok_iff {p : Prop} [Decidable p] {yes no : Except ε α} {a : α} :
    (if p then yes else no) = .ok a ↔ (p ∧ yes = .ok a) ∨ (¬ p ∧ no = .ok a) := by
  by_cases h : p <;> simp [h]

theorem isOk_iff {r : Except ε α} : r.isOk = true ↔ ∃ a, r = .ok a := by
  cases r with
  | error e => simp [Except.isOk, Except.toBool]
  | ok a => simp [Except.isOk, Except.toBool]

/-! ## Refusals -/

theorem not_isOk_iff {r : Except ε α} : ¬ r.isOk = true ↔ ∃ e, r = .error e := by
  cases r with
  | error e => simp [Except.isOk, Except.toBool]
  | ok a => simp [Except.isOk, Except.toBool]

theorem bind_error_iff {r : Except ε α} {next : α → Except ε β} {e : ε} :
    (r >>= next) = .error e ↔ r = .error e ∨ ∃ a, r = .ok a ∧ next a = .error e := by
  cases r with
  | error e => simp [bind, Except.bind]
  | ok a => simp [bind, Except.bind]

theorem pure_error_iff {a : α} {e : ε} : (pure a : Except ε α) = .error e ↔ False := by
  simp [pure, Except.pure]

theorem throw_error_iff {e e' : ε} : (throw e : Except ε α) = .error e' ↔ e' = e := by
  simp [throw, throwThe, MonadExceptOf.throw, eq_comm]

theorem ite_error_iff {p : Prop} [Decidable p] {yes no : Except ε α} {e : ε} :
    (if p then yes else no) = .error e ↔ (p ∧ yes = .error e) ∨ (¬ p ∧ no = .error e) := by
  by_cases h : p <;> simp [h]

theorem map_error_iff {r : Except ε α} {f : α → β} {e : ε} :
    r.map f = .error e ↔ r = .error e := by
  cases r with
  | error e => simp [Except.map]
  | ok a => simp [Except.map]

theorem mapError_error_iff {r : Except ε α} {f : ε → η} {e : η} :
    r.mapError f = .error e ↔ ∃ e', r = .error e' ∧ e = f e' := by
  cases r with
  | error e' => simp [Except.mapError, eq_comm]
  | ok a => simp [Except.mapError]

/-! ## Lists and permissions -/

theorem mapM_ok_iff {f : α → Except ε β} {xs : List α} {ys : List β} :
    xs.mapM f = .ok ys ↔ List.Forall₂ (fun x y => f x = .ok y) xs ys := by
  induction xs generalizing ys with
  | nil => simp [pure_ok_iff]
  | cons x rest ih =>
    simp only [List.mapM_cons, bind_ok_iff, pure_ok_iff, ih, List.forall₂_cons_left_iff]
    constructor
    · rintro ⟨y, first, others, made, rfl⟩
      exact ⟨y, others, first, made, rfl⟩
    · rintro ⟨y, others, first, made, rfl⟩
      exact ⟨y, first, others, made, rfl⟩

theorem mapM_congr {f g : α → Except ε β} {xs : List α} (same : ∀ x ∈ xs, f x = g x) :
    xs.mapM f = xs.mapM g := by
  induction xs with
  | nil => rfl
  | cons x rest ih =>
    obtain ⟨first, others⟩ := List.forall_mem_cons.mp same
    rw [List.mapM_cons, List.mapM_cons, first, ih others]

theorem mapM_exists_ok_iff {f : α → Except ε β} {xs : List α} :
    (∃ ys, xs.mapM f = .ok ys) ↔ ∀ x ∈ xs, ∃ y, f x = .ok y := by
  simp only [mapM_ok_iff]
  induction xs with
  | nil => simp
  | cons x rest ih =>
    rw [List.forall_mem_cons, ← ih]
    constructor
    · rintro ⟨_, _ | ⟨first, others⟩⟩
      exact ⟨⟨_, first⟩, _, others⟩
    · rintro ⟨⟨y, first⟩, ys, others⟩
      exact ⟨y :: ys, .cons first others⟩

theorem require_ok_iff {held : PermissionSet} {p : Permission} {u : Unit} :
    held.require p = .ok u ↔ p ∈ held := by
  unfold PermissionSet.require
  by_cases h : p ∈ held <;> simp [h]

theorem requireAny_ok_iff {held accepted : List Permission} {p : Permission} :
    PermissionSet.requireAny held accepted = .ok p ↔ accepted.find? (· ∈ held) = some p := by
  unfold PermissionSet.requireAny
  cases accepted.find? (· ∈ held) <;> simp

end Countinghouse
