import Countinghouse.Proofs.Decimal.Rounding

/-! # Sums of amounts

An amount is a decimal that is not negative and needs at most four places.  A sum of
amounts is exact as long as it could be stored at all: places are given up only for
sums that are far too large for that, and such a sum only grows further. -/

set_option autoImplicit false

namespace Countinghouse.Decimal

/-- A value in grains that an amount can have. -/
def Amount (grains : Int) : Prop := 0 ≤ grains ∧ 10 ^ 24 ∣ grains

theorem amount_zero : Amount 0 := ⟨le_rfl, dvd_zero _⟩

theorem Amount.add {m n : Int} (first : Amount m) (second : Amount n) : Amount (m + n) :=
  ⟨add_nonneg first.1 second.1, Int.dvd_add first.2 second.2⟩

/-! ## Giving up places -/

theorem ofUnits?_some {units : Int} {scale : Nat} {c : Decimal}
    (made : ofUnits? units scale = some c) : c.units = units ∧ c.scale = scale := by
  unfold ofUnits? at made
  split at made
  · obtain rfl := Option.some.inj made
    exact ⟨rfl, rfl⟩
  · cases made

theorem ofUnits?_none {units : Int} {scale : Nat} (narrow : scale ≤ 28)
    (refused : ofUnits? units scale = none) : 2 ^ 96 ≤ units.natAbs := by
  unfold ofUnits? at refused
  split at refused
  · cases refused
  · omega

/-- Some number of places is given up, none of them while the units were in range. -/
theorem lowerScale_some {n : Int} {dropped scale : Nat} {c : Decimal} (narrow : scale ≤ 28)
    (fitted : lowerScale n dropped scale = some c) :
    ∃ k, c.scale + k = scale ∧ c.units = roundHalfEven n (10 ^ (dropped + k)) ∧
      ∀ j < k, 2 ^ 96 ≤ (roundHalfEven n (10 ^ (dropped + j))).natAbs := by
  induction scale generalizing dropped with
  | zero =>
    obtain ⟨units, place⟩ := ofUnits?_some fitted
    exact ⟨0, place, units, by omega⟩
  | succ scale ih =>
    rw [lowerScale] at fitted
    cases tried : ofUnits? (roundHalfEven n (10 ^ dropped)) (scale + 1) with
    | some made =>
      rw [tried] at fitted
      obtain rfl := Option.some.inj fitted
      obtain ⟨units, place⟩ := ofUnits?_some tried
      exact ⟨0, place, units, by omega⟩
    | none =>
      rw [tried] at fitted
      obtain ⟨k, place, units, beyond⟩ := ih (by omega) fitted
      refine ⟨k + 1, by omega, by rw [units]; ring_nf, ?_⟩
      intro j below
      cases j with
      | zero => exact ofUnits?_none narrow tried
      | succ j =>
        have earlier := beyond j (by omega)
        rwa [show dropped + (j + 1) = dropped + 1 + j by omega]

theorem columnGrain_eq {scale : Nat} (narrow : scale ≤ 28) (many : 4 ≤ scale) :
    (10 : Int) ^ 24 = 10 ^ (scale - 4) * 10 ^ (28 - scale) := by
  rw [← pow_add]
  congr 1
  omega

theorem pow_dvd_units {n : Int} {scale k : Nat} (narrow : scale ≤ 28) (many : 4 + k ≤ scale)
    (columnar : 10 ^ 24 ∣ n * 10 ^ (28 - scale)) : 10 ^ k ∣ n := by
  rw [columnGrain_eq narrow (by omega), mul_dvd_mul_iff_right (by positivity)] at columnar
  exact (pow_dvd_pow 10 (by omega)).trans columnar

theorem pow_le_of_beyond {n k : Nat} (lost : 0 < k)
    (beyond : 2 ^ 96 ≤ (roundHalfEven n (10 ^ (k - 1))).natAbs) : 10 ^ (27 + k) ≤ n := by
  have bound : (2 ^ 96 - 1) * 10 ^ (k - 1) ≤ n := le_of_le_natAbs_roundHalfEven beyond
  calc 10 ^ (27 + k) = 10 ^ 28 * 10 ^ (k - 1) := by rw [← pow_add]; congr 1; omega
    _ ≤ (2 ^ 96 - 1) * 10 ^ (k - 1) := Nat.mul_le_mul_right _ (by norm_num)
    _ ≤ n := bound

theorem fit?_exact_or_huge {n scale : Nat} {c : Decimal} (narrow : scale ≤ 28)
    (columnar : (10 ^ 24 : Int) ∣ n * 10 ^ (28 - scale)) (fitted : fit? n scale = some c) :
    c.grains = n * 10 ^ (28 - scale) ∨
      10 ^ 52 ≤ c.grains ∧ (10 : Int) ^ 52 ≤ n * 10 ^ (28 - scale) := by
  obtain ⟨k, place, units, beyond⟩ := lowerScale_some narrow fitted
  rw [Nat.zero_add] at units
  by_cases exact : ((10 ^ k : Nat) : Int) ∣ n
  · left
    have widened : (10 : Int) ^ (28 - c.scale) = 10 ^ k * 10 ^ (28 - scale) := by
      rw [← pow_add]
      congr 1
      omega
    have whole := roundHalfEven_exact (by positivity) exact
    rw [grains, units, widened, ← mul_assoc]
    push_cast at whole ⊢
    rw [whole]
  · right
    -- A place below the fifth is never lost: there the units are whole already.
    have few : c.scale < 4 := by
      by_contra many
      have whole := pow_dvd_units (k := k) narrow (by omega) columnar
      exact exact (by exact_mod_cast whole)
    have lost : 0 < k := by
      rcases Nat.eq_zero_or_pos k with rfl | positive
      · simp at exact
      · exact positive
    have large : 10 ^ (27 + k) ≤ n := by
      have last := beyond (k - 1) (by omega)
      rw [Nat.zero_add] at last
      exact pow_le_of_beyond lost last
    constructor
    · have rounded : ((10 ^ (24 + c.scale) : Nat) : Int) ≤ c.units := by
        rw [units]
        apply le_roundHalfEven (by positivity)
        calc 10 ^ (24 + c.scale) * 10 ^ k = 10 ^ (24 + c.scale + k) := (pow_add ..).symm
          _ ≤ 10 ^ (27 + k) := Nat.pow_le_pow_right (by norm_num) (by omega)
          _ ≤ n := large
      push_cast at rounded
      calc (10 : Int) ^ 52 = 10 ^ (24 + c.scale) * 10 ^ (28 - c.scale) := by
            rw [← pow_add]; congr 1; omega
        _ ≤ c.units * 10 ^ (28 - c.scale) := mul_le_mul_of_nonneg_right rounded (by positivity)
    · calc (10 : Int) ^ 52 ≤ 10 ^ (27 + k + (28 - scale)) :=
            pow_le_pow_right₀ (by norm_num) (by omega)
        _ = 10 ^ (27 + k) * 10 ^ (28 - scale) := pow_add ..
        _ ≤ n * 10 ^ (28 - scale) :=
            mul_le_mul_of_nonneg_right (by exact_mod_cast large) (by positivity)

/-! ## Sums -/

theorem grains_unitsAt {a : Decimal} {scale : Nat} (narrow : scale ≤ 28)
    (wide : a.scale ≤ scale) : a.unitsAt scale * 10 ^ (28 - scale) = a.grains := by
  rw [unitsAt, grains, mul_assoc, ← pow_add]
  congr 2
  omega

theorem units_nonneg_iff {a : Decimal} : 0 ≤ a.grains ↔ 0 ≤ a.units := by
  rw [grains, mul_nonneg_iff_of_pos_right (by positivity)]

/-- A sum of amounts is exact, or far larger than anything that could be stored. -/
theorem add?_exact_or_huge {a b c : Decimal} (first : Amount a.grains) (second : Amount b.grains)
    (added : a.add? b = some c) :
    c.grains = a.grains + b.grains ∨ 10 ^ 52 ≤ c.grains ∧ 10 ^ 52 ≤ a.grains + b.grains := by
  unfold add? at added
  split at added
  case isTrue zero =>
    obtain rfl := Option.some.inj added
    simp [grains, zero]
  split at added
  case isTrue zero =>
    obtain rfl := Option.some.inj added
    simp [grains, zero]
  have narrow : max a.scale b.scale ≤ 28 := max_le a.scale_le b.scale_le
  obtain ⟨n, whole⟩ : ∃ n : Nat, a.unitsAt (max a.scale b.scale) + b.unitsAt (max a.scale b.scale) =
      n := by
    apply Int.eq_ofNat_of_zero_le
    have first := units_nonneg_iff.mp first.1
    have second := units_nonneg_iff.mp second.1
    unfold unitsAt
    positivity
  have total : n * 10 ^ (28 - max a.scale b.scale) = a.grains + b.grains := by
    rw [← whole, add_mul, grains_unitsAt narrow (le_max_left ..),
      grains_unitsAt narrow (le_max_right ..)]
  have fitted := added
  simp only [whole] at fitted
  have reached := fit?_exact_or_huge narrow (total ▸ (first.add second).2) fitted
  rwa [total] at reached

/-- A decimal that a running sum of amounts has led to: the sum itself, or some value
that is far too large, as the sum is. -/
structure Counts (a : Decimal) (sum : Int) : Prop where
  amount : Amount sum
  value : a.grains = sum ∨ 10 ^ 52 ≤ a.grains ∧ 10 ^ 52 ≤ sum

theorem counts_zero : Counts .zero 0 := ⟨amount_zero, Or.inl rfl⟩

theorem amount_of_huge {a : Decimal} (huge : 10 ^ 52 ≤ a.grains) : Amount a.grains := by
  refine ⟨le_trans (by positivity) huge, ?_⟩
  have few : a.scale ≤ 4 := by
    by_contra many
    have bounded : a.units ≤ 2 ^ 96 := by
      have := a.units_lt
      omega
    have small : a.grains ≤ 2 ^ 96 * 10 ^ 23 := by
      apply mul_le_mul bounded (pow_le_pow_right₀ (by norm_num) (by omega)) <;> positivity
    exact absurd (huge.trans small) (by norm_num)
  exact Dvd.dvd.mul_left (pow_dvd_pow 10 (by omega)) a.units

theorem Counts.amount_grains {a : Decimal} {sum : Int} (counts : Counts a sum) :
    Amount a.grains := by
  rcases counts.value with exact | ⟨huge, _⟩
  · rw [exact]
    exact counts.amount
  · exact amount_of_huge huge

theorem Counts.add {a b c : Decimal} {sum : Int} (counts : Counts a sum)
    (next : Amount b.grains) (added : a.add? b = some c) : Counts c (sum + b.grains) := by
  refine ⟨counts.amount.add next, ?_⟩
  have more := next.1
  rcases add?_exact_or_huge counts.amount_grains next added with exact | ⟨huge, huge'⟩ <;>
    rcases counts.value with exact' | ⟨large, large'⟩
  · exact Or.inl (by rw [exact, exact'])
  · exact Or.inr ⟨by rw [exact]; omega, by omega⟩
  · exact Or.inr ⟨huge, by rw [← exact']; exact huge'⟩
  · exact Or.inr ⟨huge, by omega⟩

end Countinghouse.Decimal
