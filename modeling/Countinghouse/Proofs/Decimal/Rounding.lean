import Countinghouse.Decimal.Column
import Mathlib.Algebra.Order.Ring.Int
import Mathlib.Tactic.Linarith
import Mathlib.Tactic.Ring

/-! # Where rounding is exact

Whole multiples come out of a rounded quotient as they went in, and a rounded quotient
is never below a whole number that the quotient is not below. -/

set_option autoImplicit false

namespace Countinghouse.Decimal

theorem quotient_exact {n : Int} {d : Nat} (divides : (d : Int) ∣ n) :
    n.sign * ((n.natAbs / d : Nat) : Int) * d = n := by
  have whole : n.natAbs / d * d = n.natAbs := Nat.div_mul_cancel (Int.natCast_dvd.mp divides)
  rw [mul_assoc, ← Nat.cast_mul, whole, Int.sign_mul_natAbs]

theorem roundHalfEven_exact {n : Int} {d : Nat} (positive : 0 < d) (divides : (d : Int) ∣ n) :
    roundHalfEven n d * d = n := by
  have none_left : n.natAbs % d = 0 := Nat.mod_eq_zero_of_dvd (Int.natCast_dvd.mp divides)
  unfold roundHalfEven
  simp only [none_left]
  rw [if_neg (by omega), quotient_exact divides]

theorem roundHalfAway_exact {n : Int} {d : Nat} (positive : 0 < d) (divides : (d : Int) ∣ n) :
    roundHalfAway n d * d = n := by
  have none_left : n.natAbs % d = 0 := Nat.mod_eq_zero_of_dvd (Int.natCast_dvd.mp divides)
  unfold roundHalfAway
  simp only [none_left]
  rw [if_neg (by omega), quotient_exact divides]

theorem roundHalfEven_natCast (n d : Nat) :
    roundHalfEven n d = (n / d : Nat) ∨ roundHalfEven n d = (n / d + 1 : Nat) := by
  unfold roundHalfEven
  rcases Nat.eq_zero_or_pos n with rfl | positive
  · simp
  · rw [Int.sign_eq_one_of_pos (by omega)]
    simp only [Int.natAbs_natCast, one_mul]
    split
    · exact Or.inr rfl
    · exact Or.inl rfl

theorem le_roundHalfEven {n d m : Nat} (positive : 0 < d) (bound : m * d ≤ n) :
    (m : Int) ≤ roundHalfEven n d := by
  have quotient : m ≤ n / d := (Nat.le_div_iff_mul_le positive).mpr bound
  rcases roundHalfEven_natCast n d with rounded | rounded <;> rw [rounded] <;> omega

theorem le_of_le_natAbs_roundHalfEven {n d m : Nat}
    (bound : m + 1 ≤ (roundHalfEven n d).natAbs) : m * d ≤ n := by
  have quotient : m ≤ n / d := by
    rcases roundHalfEven_natCast n d with rounded | rounded <;>
      rw [rounded, Int.natAbs_natCast] at bound <;> omega
  exact (Nat.mul_le_mul_right d quotient).trans (Nat.div_mul_le_self n d)

end Countinghouse.Decimal
