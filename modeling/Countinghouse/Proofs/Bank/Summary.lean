import Countinghouse.Bank.Summary
import Countinghouse.Proofs.Decimal.Exact
import Mathlib.Algebra.Order.BigOperators.Group.List

/-! # What a summary sums up

The two sums of a summary separate the pending payments by sign, and its difference combines them
with the balances.  All of this is exact as long as the sizes of everything that is added stay in
range together. -/

set_option autoImplicit false

namespace Countinghouse

namespace Summary

/-- A multiple of a ten-thousandth that is smaller than `10 ^ 24`. -/
structure Balance (balance : Decimal) : Prop where
  columnar : 10 ^ 24 ∣ balance.grains
  small : balance.grains.natAbs < 10 ^ 24 * 10 ^ 28

/-- The same counts, and amounts of the same value. -/
structure Alike (first second : Summary) : Prop where
  unmatched : first.unmatched = second.unmatched
  matched : first.matched = second.matched
  outstanding : first.outstanding.Same second.outstanding
  inTransit : first.inTransit.Same second.inTransit
  difference : first.difference.Same second.difference

def leaving (amounts : List Int) : Int := (amounts.map fun amount => max (-amount) 0).sum

def arriving (amounts : List Int) : Int := (amounts.map fun amount => max amount 0).sum

def size (amounts : List Int) : Nat := (amounts.map Int.natAbs).sum

theorem leaving_cons (amount : Int) (rest : List Int) :
    leaving (amount :: rest) = max (-amount) 0 + leaving rest := List.sum_cons

theorem arriving_cons (amount : Int) (rest : List Int) :
    arriving (amount :: rest) = max amount 0 + arriving rest := List.sum_cons

theorem size_cons (amount : Int) (rest : List Int) :
    size (amount :: rest) = amount.natAbs + size rest := List.sum_cons

theorem leaving_perm {first second : List Int} (perm : first.Perm second) :
    leaving first = leaving second := (perm.map _).sum_eq

theorem arriving_perm {first second : List Int} (perm : first.Perm second) :
    arriving first = arriving second := (perm.map _).sum_eq

theorem leaving_arriving_size (amounts : List Int) :
    0 ≤ leaving amounts ∧ 0 ≤ arriving amounts ∧
      leaving amounts + arriving amounts = size amounts := by
  induction amounts with
  | nil => exact ⟨le_rfl, le_rfl, rfl⟩
  | cons amount rest ih =>
    rw [leaving_cons, arriving_cons, size_cons]
    omega

theorem size_le {amounts : List Int} {limit : Nat}
    (bounded : ∀ amount ∈ amounts, amount.natAbs ≤ limit) :
    size amounts ≤ amounts.length * limit := by
  induction amounts with
  | nil => exact Nat.zero_le _
  | cons amount rest ih =>
    obtain ⟨first, others⟩ := List.forall_mem_cons.mp bounded
    have later := ih others
    rw [size_cons, List.length_cons, Nat.succ_mul]
    omega

theorem addPayments_exact {outstanding inTransit : Decimal} {payments : List Payment}
    (amounts : ∀ payment ∈ payments, 10 ^ 24 ∣ payment.amount.grains)
    (columnar : 10 ^ 24 ∣ outstanding.grains) (columnar' : 10 ^ 24 ∣ inTransit.grains)
    (small : outstanding.grains.natAbs + inTransit.grains.natAbs +
      size (payments.map (·.amount.grains)) < Decimal.exactLimit) :
    ∃ out into, addPayments outstanding inTransit payments = .ok (out, into) ∧
      10 ^ 24 ∣ out.grains ∧ 10 ^ 24 ∣ into.grains ∧
      out.grains = outstanding.grains + leaving (payments.map (·.amount.grains)) ∧
      into.grains = inTransit.grains + arriving (payments.map (·.amount.grains)) := by
  induction payments generalizing outstanding inTransit with
  | nil =>
    exact ⟨outstanding, inTransit, rfl, columnar, columnar', (add_zero _).symm, (add_zero _).symm⟩
  | cons payment rest ih =>
    obtain ⟨first, others⟩ := List.forall_mem_cons.mp amounts
    rw [List.map_cons, size_cons] at small
    rw [List.map_cons, leaving_cons, arriving_cons, addPayments]
    by_cases negative : payment.amount < .zero
    · have negative' : payment.amount.grains < 0 := Decimal.grains_zero ▸ negative
      obtain ⟨less, subtracted, less_eq, columnar⟩ :=
        Decimal.minus_exact_of_lt columnar first (by omega)
      obtain ⟨out, into, added, out_columnar, into_columnar, out_eq, into_eq⟩ :=
        ih others columnar columnar' (by omega)
      rw [if_pos negative, subtracted]
      exact ⟨out, into, added, out_columnar, into_columnar, by omega, by omega⟩
    · have positive : 0 ≤ payment.amount.grains := by
        rw [← Decimal.grains_zero]
        exact Int.not_lt.mp negative
      obtain ⟨more, added, more_eq, columnar'⟩ :=
        Decimal.plus_exact_of_lt columnar' first (by omega)
      obtain ⟨out, into, summed, out_columnar, into_columnar, out_eq, into_eq⟩ :=
        ih others columnar columnar' (by omega)
      rw [if_neg negative, added]
      exact ⟨out, into, summed, out_columnar, into_columnar, by omega, by omega⟩

def pendingAmounts (asOf : Date) (payments : List Payment) : List Int :=
  (payments.filter fun payment => decide (Pending asOf payment)).map (·.amount.grains)

theorem size_pendingAmounts_le {payments : List Payment}
    (storable : ∀ payment ∈ payments, payment.amount.Storable) (asOf : Date) :
    size (pendingAmounts asOf payments) ≤ payments.length * 10 ^ 43 := by
  have bounded : ∀ amount ∈ pendingAmounts asOf payments, amount.natAbs ≤ 10 ^ 43 := by
    rw [pendingAmounts, List.forall_mem_map]
    intro payment chosen
    exact (storable payment (List.mem_filter.mp chosen).1).natAbs_lt.le
  have chosen : (pendingAmounts asOf payments).length ≤ payments.length := by
    rw [pendingAmounts, List.length_map]
    exact List.length_filter_le _ _
  exact (size_le bounded).trans (Nat.mul_le_mul_right _ chosen)

theorem addPending_exact (asOf : Date) {payments : List Payment}
    (amounts : ∀ payment ∈ payments, 10 ^ 24 ∣ payment.amount.grains)
    (small : size (pendingAmounts asOf payments) < Decimal.exactLimit) :
    ∃ out into, addPayments .zero .zero
        (payments.filter fun payment => decide (Pending asOf payment)) = .ok (out, into) ∧
      10 ^ 24 ∣ out.grains ∧ 10 ^ 24 ∣ into.grains ∧
      out.grains = leaving (pendingAmounts asOf payments) ∧
      into.grains = arriving (pendingAmounts asOf payments) := by
  have zero := Decimal.grains_zero
  have pending_columnar : ∀ payment ∈ payments.filter fun payment => decide (Pending asOf payment),
      10 ^ 24 ∣ payment.amount.grains :=
    fun payment chosen => amounts payment (List.mem_filter.mp chosen).1
  obtain ⟨out, into, added, out_columnar, into_columnar, out_eq, into_eq⟩ :=
    addPayments_exact pending_columnar Decimal.zero_columnar Decimal.zero_columnar
      (by rw [← pendingAmounts]; omega)
  rw [← pendingAmounts, zero, zero_add] at out_eq into_eq
  exact ⟨out, into, added, out_columnar, into_columnar, out_eq, into_eq⟩

theorem difference_exact {closing system out into : Decimal}
    (closing_columnar : 10 ^ 24 ∣ closing.grains) (system_columnar : 10 ^ 24 ∣ system.grains)
    (out_columnar : 10 ^ 24 ∣ out.grains) (into_columnar : 10 ^ 24 ∣ into.grains)
    (small : closing.grains.natAbs + system.grains.natAbs + out.grains.natAbs +
      into.grains.natAbs < Decimal.exactLimit) :
    ∃ first second difference, closing.minus system = .ok first ∧ first.minus out = .ok second ∧
      second.plus into = .ok difference ∧
      difference.grains = closing.grains - system.grains - out.grains + into.grains := by
  obtain ⟨first, subtracted, first_eq, first_columnar⟩ :=
    Decimal.minus_exact_of_lt closing_columnar system_columnar (by omega)
  obtain ⟨second, subtracted', second_eq, second_columnar⟩ :=
    Decimal.minus_exact_of_lt first_columnar out_columnar (by omega)
  obtain ⟨difference, summed, difference_eq, _⟩ :=
    Decimal.plus_exact_of_lt second_columnar into_columnar (by omega)
  exact ⟨first, second, difference, subtracted, subtracted', summed, by omega⟩

theorem compute_exact {asOf : Date} {closing system : Decimal} {lines : List StatementLine}
    {payments : List Payment} (amounts : ∀ payment ∈ payments, 10 ^ 24 ∣ payment.amount.grains)
    (closing_columnar : 10 ^ 24 ∣ closing.grains) (system_columnar : 10 ^ 24 ∣ system.grains)
    (small : closing.grains.natAbs + system.grains.natAbs + size (pendingAmounts asOf payments) <
      Decimal.exactLimit) :
    ∃ summary, compute asOf closing system lines payments = .ok summary ∧
      summary.matched =
        ((lines.filter fun line => decide (line.date ≤ asOf)).filter (·.isReconciled)).length ∧
      summary.unmatched =
        ((lines.filter fun line => decide (line.date ≤ asOf)).filter
          fun line => !line.isReconciled).length ∧
      summary.outstanding.grains = leaving (pendingAmounts asOf payments) ∧
      summary.inTransit.grains = arriving (pendingAmounts asOf payments) ∧
      summary.difference.grains = closing.grains - system.grains -
        leaving (pendingAmounts asOf payments) + arriving (pendingAmounts asOf payments) := by
  obtain ⟨out_nonneg, into_nonneg, parts⟩ := leaving_arriving_size (pendingAmounts asOf payments)
  obtain ⟨out, into, added, out_columnar, into_columnar, out_eq, into_eq⟩ :=
    addPending_exact asOf amounts (by omega)
  obtain ⟨first, second, difference, subtracted, subtracted', summed, difference_eq⟩ :=
    difference_exact closing_columnar system_columnar out_columnar into_columnar (by omega)
  rw [out_eq, into_eq] at difference_eq
  let inRange := lines.filter fun line => decide (line.date ≤ asOf)
  let matched := (inRange.filter (·.isReconciled)).length
  refine ⟨⟨asOf, closing, system, inRange.length - matched, matched, out, into, difference⟩,
    ?_, rfl, ?_, out_eq, into_eq, difference_eq⟩
  · unfold compute
    rw [added]
    dsimp only [bind, Except.bind]
    rw [subtracted]
    dsimp only
    rw [subtracted']
    dsimp only
    rw [summed]
    rfl
  · have both : inRange.length = matched + (inRange.filter fun line => !line.isReconciled).length :=
      List.length_eq_length_filter_add fun line : StatementLine => line.isReconciled
    exact Nat.sub_eq_of_eq_add' both

end Summary

end Countinghouse
