import Countinghouse.Proofs.Decimal.Sum

/-! # Storing amounts

An amount is stored with the value it has.  What a running sum has led to is stored
only when it is the sum itself. -/

set_option autoImplicit false

namespace Countinghouse.Decimal

theorem columnUnits_grains {a : Decimal} (columnar : 10 ^ 24 ∣ a.grains) :
    a.columnUnits * 10 ^ 24 = a.grains := by
  unfold columnUnits columnScale
  split
  case isTrue few => exact grains_unitsAt (by norm_num) few
  case isFalse many =>
    have whole : ((10 ^ (a.scale - 4) : Nat) : Int) ∣ a.units := by
      push_cast
      exact pow_dvd_units a.scale_le (by omega) columnar
    have exact := roundHalfAway_exact (by positivity) whole
    push_cast at exact
    rw [columnGrain_eq a.scale_le (by omega), ← mul_assoc, exact, grains]

theorem ofColumnUnits?_some {units : Int} {b : Decimal} (made : ofColumnUnits? units = some b) :
    units.natAbs < 10 ^ 19 ∧ b.grains = units * 10 ^ 24 := by
  unfold ofColumnUnits? at made
  split at made
  case isTrue within =>
    obtain rfl := Option.some.inj made
    exact ⟨within, rfl⟩
  case isFalse => cases made

theorem toColumn?_grains {a b : Decimal} (columnar : 10 ^ 24 ∣ a.grains)
    (stored : a.toColumn? = some b) : b.grains = a.grains := by
  rw [(ofColumnUnits?_some stored).2, columnUnits_grains columnar]

theorem Counts.exact {a b : Decimal} {sum : Int} (counts : Counts a sum)
    (stored : a.toColumn? = some b) : a.grains = sum ∧ sum < 10 ^ 52 := by
  have within := (ofColumnUnits?_some stored).1
  have whole := columnUnits_grains counts.amount_grains.2
  rcases counts.value with exact | ⟨huge, _⟩
  · exact ⟨exact, by omega⟩
  · omega

theorem columnAdd?_grains {a b c : Decimal} (first : 10 ^ 24 ∣ a.grains)
    (second : 10 ^ 24 ∣ b.grains) (added : a.columnAdd? b = some c) :
    c.grains = a.grains + b.grains := by
  rw [(ofColumnUnits?_some added).2, add_mul, columnUnits_grains first,
    columnUnits_grains second]

/-! ## Places that a value needs -/

theorem trimUnits_value (units : Int) (scale : Nat) :
    (trimUnits units scale).2 ≤ scale ∧
      (trimUnits units scale).1 * 10 ^ (scale - (trimUnits units scale).2) = units := by
  induction scale generalizing units with
  | zero => simp [trimUnits]
  | succ scale ih =>
    unfold trimUnits
    split
    case isTrue whole =>
      obtain ⟨within, value⟩ := ih (units / 10)
      refine ⟨by omega, ?_⟩
      rw [Nat.succ_sub within, pow_succ, ← mul_assoc, value]
      omega
    case isFalse => simp

theorem FitsScale.columnar {a : Decimal} (fits : a.FitsScale) : 10 ^ 24 ∣ a.grains := by
  obtain ⟨within, value⟩ := trimUnits_value a.units a.scale
  have few : (trimUnits a.units a.scale).2 ≤ 4 := fits
  have := a.scale_le
  rw [grains, ← value, mul_assoc, ← pow_add]
  exact Dvd.dvd.mul_left (pow_dvd_pow 10 (by omega)) _

theorem trimUnits_le {units : Int} {scale places : Nat} (whole : 10 ^ (scale - places) ∣ units) :
    (trimUnits units scale).2 ≤ places := by
  induction scale generalizing units with
  | zero => exact Nat.zero_le places
  | succ scale ih =>
    by_cases few : scale + 1 ≤ places
    · exact (trimUnits_value units (scale + 1)).1.trans few
    · rw [Nat.succ_sub (by omega), pow_succ] at whole
      obtain ⟨rest, rfl⟩ := whole
      have last : 10 ^ (scale - places) * 10 * rest % 10 = 0 := by
        rw [mul_right_comm, Int.mul_emod_left]
      have shorter : 10 ^ (scale - places) * 10 * rest / 10 = 10 ^ (scale - places) * rest := by
        rw [mul_right_comm, Int.mul_ediv_cancel _ (by norm_num)]
      rw [trimUnits, if_pos last, shorter]
      exact ih (dvd_mul_right _ _)

theorem fitsScale_iff {a : Decimal} : a.FitsScale ↔ 10 ^ 24 ∣ a.grains := by
  refine ⟨FitsScale.columnar, fun columnar => trimUnits_le ?_⟩
  by_cases few : a.scale ≤ 4
  · rw [columnScale, Nat.sub_eq_zero_of_le few, pow_zero]
    exact one_dvd _
  · exact pow_dvd_units a.scale_le (by simp only [columnScale]; omega) columnar

theorem lt_columnLimit_iff {a : Decimal} : a < columnLimit ↔ a.grains < 10 ^ 15 * 10 ^ 28 := by
  have limit : columnLimit.grains = 10 ^ 15 * 10 ^ 28 := by decide
  rw [← limit]
  exact Iff.rfl

theorem isZero_iff {a : Decimal} : a.isZero = true ↔ a.grains = 0 := by
  simp [isZero, grains]

theorem abs_grains (a : Decimal) : a.abs.grains = a.grains.natAbs := by
  rw [grains, grains, Int.natAbs_mul, Nat.cast_mul, Int.natAbs_pow]
  rfl

theorem storable_iff {a : Decimal} :
    a.Storable ↔ a.grains.natAbs < 10 ^ 15 * 10 ^ 28 ∧ 10 ^ 24 ∣ a.grains := by
  rw [Storable, lt_columnLimit_iff, fitsScale_iff, abs_grains]
  norm_cast

theorem Storable.natAbs_lt {a : Decimal} (storable : a.Storable) :
    a.grains.natAbs < 10 ^ 43 :=
  (storable_iff.mp storable).1

theorem Counts.storable_iff {a : Decimal} {sum : Int} (counts : Counts a sum) :
    a.Storable ↔ sum < 10 ^ 15 * 10 ^ 28 := by
  have nonneg := counts.amount.1
  rw [Decimal.storable_iff, and_iff_left counts.amount_grains.2]
  rcases counts.value with exact | ⟨huge, huge'⟩
  · rw [exact]
    omega
  · omega

end Countinghouse.Decimal
