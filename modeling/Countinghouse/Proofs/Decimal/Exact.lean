import Countinghouse.Decimal.Overflow
import Countinghouse.Proofs.Decimal.Column

/-! # Sums of either sign

Values that need at most four places are added and subtracted exactly as long as the result, in
ten-thousandths, is in range: a place is given up only where the units are too large for it, and
then it holds a zero. -/

set_option autoImplicit false

namespace Countinghouse.Decimal

/-- Values with at most four places are exact below this many grains. -/
def exactLimit : Nat := 2 ^ 96 * 10 ^ 24

theorem ofUnits?_of_lt {units : Int} {scale : Nat} (narrow : scale ≤ 28)
    (small : units.natAbs < 2 ^ 96) :
    ∃ c, ofUnits? units scale = some c ∧ c.units = units ∧ c.scale = scale := by
  rw [ofUnits?, dif_pos ⟨narrow, small⟩]
  exact ⟨_, rfl, rfl, rfl⟩

theorem natAbs_lt_of_few_places {units : Int} {scale : Nat} (few : scale ≤ 4)
    (small : (units * 10 ^ (28 - scale)).natAbs < exactLimit) : units.natAbs < 2 ^ 96 := by
  have shift : 28 - scale = (4 - scale) + 24 := by omega
  rw [shift, pow_add, ← mul_assoc, Int.natAbs_mul, Int.natAbs_mul, Int.natAbs_pow,
    Int.natAbs_pow] at small
  have units_lt : units.natAbs * 10 ^ (4 - scale) < 2 ^ 96 := Nat.lt_of_mul_lt_mul_right small
  exact (Nat.le_mul_of_pos_right _ (by positivity)).trans_lt units_lt

theorem roundHalfEven_of_mul {n m : Int} {dropped : Nat} (left : m * 10 ^ dropped = n) :
    roundHalfEven n (10 ^ dropped) = m := by
  have divides : ((10 ^ dropped : Nat) : Int) ∣ n := ⟨m, by push_cast; rw [← left, mul_comm]⟩
  have exact := roundHalfEven_exact (by positivity) divides
  push_cast at exact
  rw [← left] at exact ⊢
  exact mul_right_cancel₀ (by positivity) exact

/-- While `m` is what is left of `n` without the places given up so far, the search for a scale
ends with the value of `n`. -/
theorem lowerScale_exact {n m : Int} {dropped scale : Nat} (narrow : scale ≤ 28)
    (left : m * 10 ^ dropped = n) (columnar : 10 ^ 24 ∣ m * 10 ^ (28 - scale))
    (small : (m * 10 ^ (28 - scale)).natAbs < exactLimit) :
    ∃ c, lowerScale n dropped scale = some c ∧ c.grains = m * 10 ^ (28 - scale) := by
  induction scale generalizing m dropped with
  | zero =>
    have rounded : roundHalfEven n (10 ^ dropped) = m := roundHalfEven_of_mul left
    obtain ⟨c, made, units, place⟩ :=
      ofUnits?_of_lt narrow (natAbs_lt_of_few_places (Nat.zero_le 4) small)
    rw [lowerScale, rounded]
    exact ⟨c, made, by rw [grains, units, place]⟩
  | succ scale ih =>
    have rounded : roundHalfEven n (10 ^ dropped) = m := roundHalfEven_of_mul left
    by_cases fits : m.natAbs < 2 ^ 96
    · obtain ⟨c, made, units, place⟩ := ofUnits?_of_lt narrow fits
      rw [lowerScale, rounded, made]
      exact ⟨c, rfl, by rw [grains, units, place]⟩
    · have many : 4 + 1 ≤ scale + 1 := by
        by_contra few
        exact fits (natAbs_lt_of_few_places (by omega) small)
      have beyond : ofUnits? m (scale + 1) = none := dif_neg fun within => fits within.2
      obtain ⟨m', rfl⟩ := pow_dvd_units (k := 1) narrow many columnar
      have shift : (10 : Int) ^ 1 * m' * 10 ^ (28 - (scale + 1)) = m' * 10 ^ (28 - scale) := by
        rw [mul_comm (10 ^ 1), mul_assoc, ← pow_add]
        congr 2
        omega
      rw [shift] at columnar small ⊢
      rw [lowerScale, rounded, beyond]
      refine ih (by omega) ?_ columnar small
      rw [← left, pow_succ]
      ring

theorem fit?_exact {n : Int} {scale : Nat} (narrow : scale ≤ 28)
    (columnar : 10 ^ 24 ∣ n * 10 ^ (28 - scale))
    (small : (n * 10 ^ (28 - scale)).natAbs < exactLimit) :
    ∃ c, fit? n scale = some c ∧ c.grains = n * 10 ^ (28 - scale) :=
  lowerScale_exact narrow (by rw [pow_zero, mul_one]) columnar small

theorem add?_exact {a b : Decimal} (first : 10 ^ 24 ∣ a.grains) (second : 10 ^ 24 ∣ b.grains)
    (small : (a.grains + b.grains).natAbs < exactLimit) :
    ∃ c, a.add? b = some c ∧ c.grains = a.grains + b.grains := by
  unfold add?
  split
  case isTrue zero => exact ⟨b, rfl, by simp [grains, zero]⟩
  split
  case isTrue zero => exact ⟨a, rfl, by simp [grains, zero]⟩
  have narrow : max a.scale b.scale ≤ 28 := max_le a.scale_le b.scale_le
  have total : (a.unitsAt (max a.scale b.scale) + b.unitsAt (max a.scale b.scale)) *
      10 ^ (28 - max a.scale b.scale) = a.grains + b.grains := by
    rw [add_mul, grains_unitsAt narrow (le_max_left ..), grains_unitsAt narrow (le_max_right ..)]
  rw [← total] at small ⊢
  exact fit?_exact narrow (total ▸ Int.dvd_add first second) small

theorem grains_zero : zero.grains = 0 := by decide

theorem zero_columnar : 10 ^ 24 ∣ zero.grains := grains_zero ▸ Int.dvd_zero _

theorem lt_zero_iff {a : Decimal} : a < zero ↔ a.grains < 0 := by
  rw [← grains_zero]
  exact Iff.rfl

theorem grains_neg (a : Decimal) : (-a).grains = -a.grains := neg_mul a.units _

theorem plus_exact_of_lt {a b : Decimal} (first : 10 ^ 24 ∣ a.grains)
    (second : 10 ^ 24 ∣ b.grains) (small : (a.grains + b.grains).natAbs < exactLimit) :
    ∃ c, a.plus b = .ok c ∧ c.grains = a.grains + b.grains ∧ 10 ^ 24 ∣ c.grains := by
  obtain ⟨c, added, exact⟩ := add?_exact first second small
  rw [plus, added]
  exact ⟨c, rfl, exact, exact ▸ Int.dvd_add first second⟩

theorem minus_exact_of_lt {a b : Decimal} (first : 10 ^ 24 ∣ a.grains)
    (second : 10 ^ 24 ∣ b.grains) (small : (a.grains - b.grains).natAbs < exactLimit) :
    ∃ c, a.minus b = .ok c ∧ c.grains = a.grains - b.grains ∧ 10 ^ 24 ∣ c.grains := by
  rw [sub_eq_add_neg, ← grains_neg] at small
  have opposite : 10 ^ 24 ∣ (-b).grains := by
    rw [grains_neg]
    exact Int.dvd_neg.mpr second
  obtain ⟨c, added, exact⟩ := add?_exact first opposite small
  rw [grains_neg, ← sub_eq_add_neg] at exact
  rw [minus, sub?, added]
  exact ⟨c, rfl, exact, exact ▸ Int.dvd_sub first second⟩

end Countinghouse.Decimal
