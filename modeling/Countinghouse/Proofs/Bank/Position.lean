import Countinghouse.Proofs.Bank.Summary
import Countinghouse.Proofs.Success
import Mathlib.Algebra.BigOperators.Ring.List

/-! # The closed form of a summary

Outstanding payments and deposits in transit are the two halves of what is pending, so the
difference is the one that remains between closing balance and ledger once everything pending is
added with its sign.  Sums and counts do not depend on the order of lines and payments, and a
payment that is reconciled takes exactly its own amount out of the difference. -/

set_option autoImplicit false

namespace Countinghouse.Summary

/-! ## What is pending -/

theorem leaving_eq (amounts : List Int) : leaving amounts =
    ((amounts.filter fun amount => decide (amount < 0)).map
      fun amount => (amount.natAbs : Int)).sum := by
  induction amounts with
  | nil => rfl
  | cons amount rest ih =>
    rw [leaving_cons, ih]
    by_cases negative : amount < 0
    · rw [List.filter_cons_of_pos (by simpa using negative), List.map_cons, List.sum_cons]
      omega
    · rw [List.filter_cons_of_neg (by simpa using negative)]
      omega

theorem arriving_eq (amounts : List Int) :
    arriving amounts = (amounts.filter fun amount => decide (0 ≤ amount)).sum := by
  induction amounts with
  | nil => rfl
  | cons amount rest ih =>
    rw [arriving_cons, ih]
    by_cases positive : 0 ≤ amount
    · rw [List.filter_cons_of_pos (by simpa using positive), List.sum_cons]
      omega
    · rw [List.filter_cons_of_neg (by simpa using positive)]
      omega

theorem arriving_sub_leaving (amounts : List Int) :
    arriving amounts - leaving amounts = amounts.sum := by
  induction amounts with
  | nil => rfl
  | cons amount rest ih =>
    rw [arriving_cons, leaving_cons, List.sum_cons]
    omega

theorem natAbs_sum_le (amounts : List Int) : amounts.sum.natAbs ≤ size amounts := by
  have halves := arriving_sub_leaving amounts
  have parts := leaving_arriving_size amounts
  omega

variable {asOf : Date} {closing system : Decimal} {lines lines' : List StatementLine}
  {payments payments' : List Payment}

theorem pendingAmounts_columnar (asOf : Date)
    (amounts : ∀ payment ∈ payments, 10 ^ 24 ∣ payment.amount.grains) :
    10 ^ 24 ∣ (pendingAmounts asOf payments).sum := by
  apply List.dvd_sum
  rw [pendingAmounts, List.forall_mem_map]
  intro payment chosen
  exact amounts payment (List.mem_filter.mp chosen).1

theorem pendingAmounts_perm (perm : payments.Perm payments') :
    (pendingAmounts asOf payments).Perm (pendingAmounts asOf payments') :=
  (perm.filter _).map _

theorem pendingAmounts_append (asOf : Date) (payments payments' : List Payment) :
    pendingAmounts asOf (payments ++ payments') =
      pendingAmounts asOf payments ++ pendingAmounts asOf payments' := by
  rw [pendingAmounts, List.filter_append, List.map_append]
  rfl

theorem pendingAmounts_pending {payment : Payment} (pending : Pending asOf payment)
    (rest : List Payment) : pendingAmounts asOf (payment :: rest) =
      payment.amount.grains :: pendingAmounts asOf rest := by
  rw [pendingAmounts, List.filter_cons_of_pos (by simpa using pending), List.map_cons]
  rfl

theorem pendingAmounts_other {payment : Payment} (other : ¬ Pending asOf payment)
    (rest : List Payment) :
    pendingAmounts asOf (payment :: rest) = pendingAmounts asOf rest := by
  rw [pendingAmounts, List.filter_cons_of_neg (by simpa using other)]
  rfl

/-! ## Position -/

/-- What a summary says of its data, all amounts in grains. -/
structure Position (asOf : Date) (closing system : Decimal) (lines : List StatementLine)
    (payments : List Payment) (summary : Summary) : Prop where
  asOf_eq : summary.asOf = asOf
  closing_eq : summary.closing = closing
  system_eq : summary.system = system
  matched : summary.matched =
    (lines.filter fun line => decide (line.date ≤ asOf) && line.isReconciled).length
  counted : summary.matched + summary.unmatched =
    (lines.filter fun line => decide (line.date ≤ asOf)).length
  outstanding_nonneg : 0 ≤ summary.outstanding.grains
  outstanding : summary.outstanding.grains =
    (((pendingAmounts asOf payments).filter fun amount => decide (amount < 0)).map
      fun amount => (amount.natAbs : Int)).sum
  inTransit_nonneg : 0 ≤ summary.inTransit.grains
  inTransit : summary.inTransit.grains =
    ((pendingAmounts asOf payments).filter fun amount => decide (0 ≤ amount)).sum
  difference : summary.difference.grains =
    closing.grains - system.grains + (pendingAmounts asOf payments).sum

theorem compute_given {summary : Summary}
    (computed : compute asOf closing system lines payments = .ok summary) :
    summary.asOf = asOf ∧ summary.closing = closing ∧ summary.system = system := by
  simp only [compute, bind_ok_iff, pure_ok_iff] at computed
  obtain ⟨_, _, _, _, _, _, _, _, rfl⟩ := computed
  exact ⟨rfl, rfl, rfl⟩

theorem compute_position_of_lt (asOf : Date) (lines : List StatementLine)
    (amounts : ∀ payment ∈ payments, 10 ^ 24 ∣ payment.amount.grains)
    (closing_columnar : 10 ^ 24 ∣ closing.grains) (system_columnar : 10 ^ 24 ∣ system.grains)
    (small : closing.grains.natAbs + system.grains.natAbs + size (pendingAmounts asOf payments) <
      Decimal.exactLimit) :
    ∃ summary, compute asOf closing system lines payments = .ok summary ∧
      Position asOf closing system lines payments summary := by
  obtain ⟨summary, computed, matched, unmatched, outstanding, inTransit, difference⟩ :=
    @compute_exact asOf closing system lines payments amounts closing_columnar system_columnar small
  obtain ⟨asOf_eq, closing_eq, system_eq⟩ := compute_given computed
  obtain ⟨out_nonneg, into_nonneg, _⟩ := leaving_arriving_size (pendingAmounts asOf payments)
  have halves := arriving_sub_leaving (pendingAmounts asOf payments)
  refine ⟨summary, computed, ⟨asOf_eq, closing_eq, system_eq, ?_, ?_, ?_, ?_, ?_, ?_, ?_⟩⟩
  · rw [matched, List.filter_filter]
    simp only [Bool.and_comm]
  · rw [matched, unmatched]
    exact (List.length_eq_length_filter_add fun line : StatementLine => line.isReconciled).symm
  · rw [outstanding]
    exact out_nonneg
  · rw [outstanding, leaving_eq]
  · rw [inTransit]
    exact into_nonneg
  · rw [inTransit, arriving_eq]
  · rw [difference]
    omega

variable {summary other : Summary}

theorem Position.perm (position : Position asOf closing system lines' payments' summary)
    (sameLines : lines.Perm lines') (samePayments : payments.Perm payments') :
    Position asOf closing system lines payments summary := by
  have pending : (pendingAmounts asOf payments).Perm (pendingAmounts asOf payments') :=
    pendingAmounts_perm samePayments
  refine { position with
    matched := ?_, counted := ?_, outstanding := ?_, inTransit := ?_, difference := ?_ }
  · rw [position.matched, (sameLines.filter _).length_eq]
  · rw [position.counted, (sameLines.filter _).length_eq]
  · rw [position.outstanding, ((pending.filter _).map _).sum_eq]
  · rw [position.inTransit, (pending.filter _).sum_eq]
  · rw [position.difference, pending.sum_eq]

theorem Position.alike (position : Position asOf closing system lines payments summary)
    (position' : Position asOf closing system lines payments other) : summary.Alike other := by
  have matched : summary.matched = other.matched := position.matched.trans position'.matched.symm
  have counted := position.counted.trans position'.counted.symm
  exact ⟨by omega, matched, position.outstanding.trans position'.outstanding.symm,
    position.inTransit.trans position'.inTransit.symm,
    position.difference.trans position'.difference.symm⟩

/-- What is pending besides a payment is what is pending once it is reconciled. -/
theorem sum_pendingAmounts_reconciled (earlier later : List Payment) {payment : Payment}
    (pending : Pending asOf payment) :
    (pendingAmounts asOf (earlier ++ payment :: later)).sum = payment.amount.grains +
      (pendingAmounts asOf (earlier ++ { payment with isReconciled := true } :: later)).sum := by
  have settled : ¬ Pending asOf { payment with isReconciled := true } := fun still => by
    cases still.2.1
  rw [pendingAmounts_append, pendingAmounts_append, pendingAmounts_pending pending,
    pendingAmounts_other settled, List.sum_append, List.sum_append, List.sum_cons]
  omega

theorem compute_position_of_few (asOf : Date) (lines : List StatementLine)
    (closing_storable : closing.Storable) (system_balance : Balance system)
    (few : payments.length < 2 ^ 31)
    (storable : ∀ payment ∈ payments, payment.amount.Storable) :
    ∃ summary, compute asOf closing system lines payments = .ok summary ∧
      Position asOf closing system lines payments summary := by
  have bounded := size_pendingAmounts_le storable asOf
  have closing_small := closing_storable.natAbs_lt
  have system_small := system_balance.small
  refine compute_position_of_lt asOf lines
    (fun payment present => (storable payment present).2.columnar) closing_storable.2.columnar
    system_balance.columnar ?_
  unfold Decimal.exactLimit
  omega

/-- Fewer than `2 ^ 31` payments of amounts that can be stored, at any number of places: the
summary is exact, has the same values in every order, and loses of its difference exactly the
amount of a pending payment that is reconciled. -/
theorem compute_position (asOf : Date) (closing system : Decimal) (lines : List StatementLine)
    (payments : List Payment) (closing_storable : closing.Storable)
    (system_balance : Balance system) (few : payments.length < 2 ^ 31)
    (storable : ∀ payment ∈ payments, payment.amount.Storable) :
    ∃ summary, compute asOf closing system lines payments = .ok summary ∧
      Position asOf closing system lines payments summary ∧
      (∀ lines' payments', lines.Perm lines' → payments.Perm payments' →
        ∃ reordered, compute asOf closing system lines' payments' = .ok reordered ∧
          Position asOf closing system lines payments reordered ∧ summary.Alike reordered) ∧
      ∀ earlier payment later, payments = earlier ++ payment :: later → Pending asOf payment →
        ∃ settled, compute asOf closing system lines
            (earlier ++ { payment with isReconciled := true } :: later) = .ok settled ∧
          settled.difference.grains = summary.difference.grains - payment.amount.grains := by
  obtain ⟨summary, computed, position⟩ :=
    compute_position_of_few asOf lines closing_storable system_balance few storable
  refine ⟨summary, computed, position, ?_, ?_⟩
  · intro lines' payments' sameLines samePayments
    rw [samePayments.length_eq] at few
    have storable' : ∀ payment ∈ payments', payment.amount.Storable :=
      fun payment present => storable payment (samePayments.mem_iff.mpr present)
    obtain ⟨reordered, computed', position'⟩ :=
      compute_position_of_few asOf lines' closing_storable system_balance few storable'
    have same := position'.perm sameLines samePayments
    exact ⟨reordered, computed', same, position.alike same⟩
  · rintro earlier payment later rfl pending
    have few' : (earlier ++ { payment with isReconciled := true } :: later).length < 2 ^ 31 := by
      rwa [List.length_append, List.length_cons] at few ⊢
    have storable' : ∀ other ∈ earlier ++ { payment with isReconciled := true } :: later,
        other.amount.Storable := by
      rw [List.forall_mem_append, List.forall_mem_cons] at storable ⊢
      exact storable
    obtain ⟨settled, computed', position'⟩ :=
      compute_position_of_few asOf lines closing_storable system_balance few' storable'
    have less := sum_pendingAmounts_reconciled earlier later pending
    have difference := position.difference
    have difference' := position'.difference
    exact ⟨settled, computed', by omega⟩

def cutOff : Date := ⟨20117, by decide, by decide⟩

def closingThousand : Decimal := (Decimal.ofUnits? 1000 0).getD .zero

def ledgerNines : Decimal := (Decimal.ofUnits? (10 ^ 28 - 1) 4).getD .zero

def paymentOf (id : Nat) (date : Date) (amount : Option Decimal) (status : PaymentStatus)
    (isReconciled : Bool) : Payment :=
  ⟨Id.ofNat id, Id.ofNat 1, date, amount.getD .zero, status, isReconciled⟩

def halfPayment (isReconciled : Bool) : Payment :=
  paymentOf 2 cutOff (Decimal.ofUnits? (5 * 10 ^ 27) 28) .posted isReconciled

/-- A cheque of a hundred and a half are pending; what was voided and what comes later are not. -/
def fourPayments (isReconciled : Bool) : List Payment :=
  [paymentOf 1 cutOff (Decimal.ofUnits? (-1000000) 4) .posted false, halfPayment isReconciled,
    paymentOf 3 cutOff (Decimal.ofUnits? 70000 4) .voided false,
    paymentOf 4 ⟨20118, by decide, by decide⟩ (Decimal.ofUnits? 30000 4) .posted false]

/-- No decimal holds the difference at the 28 places of the half. -/
theorem fourPayments_position :
    closingThousand.Storable ∧ Balance ledgerNines ∧ (fourPayments false).length < 2 ^ 31 ∧
      (∀ payment ∈ fourPayments false, payment.amount.Storable) ∧
      Pending cutOff (halfPayment false) ∧
      ∃ summary, compute cutOff closingThousand ledgerNines [] (fourPayments false) =
          .ok summary ∧
        Position cutOff closingThousand ledgerNines [] (fourPayments false) summary ∧
        ∃ settled, compute cutOff closingThousand ledgerNines [] (fourPayments true) =
            .ok settled ∧
          settled.difference.grains = summary.difference.grains - 5 * 10 ^ 27 := by
  have storable : ∀ payment ∈ fourPayments false, payment.amount.Storable := by decide
  have balance : Balance ledgerNines := ⟨by decide, by decide⟩
  obtain ⟨summary, computed, position, _, reconciled⟩ := compute_position cutOff closingThousand
    ledgerNines [] (fourPayments false) (by decide) balance (by decide) storable
  obtain ⟨settled, computed', difference⟩ :=
    reconciled ((fourPayments false).take 1) (halfPayment false) ((fourPayments false).drop 2) rfl
      (by decide)
  exact ⟨by decide, balance, by decide, storable, by decide, summary, computed, position, settled,
    computed', difference⟩

end Countinghouse.Summary
