import Countinghouse.Bank.Matching
import Countinghouse.Proofs.Bank.Position
import Countinghouse.Proofs.Journal.Validation
import Countinghouse.Proofs.Store.Ledger

/-! # What an adjustment clears

An adjustment books the difference of a summary on the ledger account of the bank, against an
offset account.  Its two lines balance whatever the accounts are, and posting them moves the
ledger balance by the difference, which leaves nothing to explain.  The one exception is an offset
account that is the ledger account of the bank itself: there the lines take each other back, and
the difference stays what it was. -/

set_option autoImplicit false

namespace Countinghouse

theorem Decimal.amount_max {n : Int} (columnar : 10 ^ 24 ∣ n) : Decimal.Amount (max n 0) := by
  refine ⟨le_max_right n 0, ?_⟩
  rcases max_choice n 0 with positive | negative
  · rwa [positive]
  · rw [negative]
    exact dvd_zero _

/-! ## The lines -/

/-- The line adds an amount to its account, a positive one as a debit and a negative one as a
credit. -/
structure Line.Carries (line : Line) (amount : Int) : Prop where
  debit : line.debit.grains = max amount 0
  credit : line.credit.grains = max (-amount) 0

namespace Line.Carries

variable {line : Line} {amount : Int}

theorem of_debit (positive : 0 ≤ amount) (debit : line.debit.grains = amount)
    (credit : line.credit.grains = 0) : line.Carries amount :=
  ⟨by omega, by omega⟩

theorem of_credit (negative : amount ≤ 0) (debit : line.debit.grains = 0)
    (credit : line.credit.grains = -amount) : line.Carries amount :=
  ⟨by omega, by omega⟩

theorem net_eq (carries : line.Carries amount) : line.net = amount := by
  rw [net, carries.debit, carries.credit]
  omega

theorem single (carries : line.Carries amount) (some : amount ≠ 0) :
    line.Single amount.natAbs := by
  refine ⟨by omega, ?_⟩
  rw [carries.debit, carries.credit]
  omega

theorem amounts (carries : line.Carries amount) (columnar : 10 ^ 24 ∣ amount) :
    line.entry.Amounts := by
  have debit := Decimal.amount_max columnar
  have credit := Decimal.amount_max (Int.dvd_neg.mpr columnar)
  rw [← carries.debit] at debit
  rw [← carries.credit] at credit
  exact ⟨debit, credit⟩

end Line.Carries

namespace Bank

variable {difference : Decimal} {matchable : Nat} {bank offset : AccountId} {held : PermissionSet}
  {adjustment : List Line}

/-- One line on each of the two accounts, and only for a difference that is not zero. -/
theorem adjustmentLines_ok
    (accepted : adjustmentLines difference matchable bank offset held = .ok adjustment) :
    difference.grains ≠ 0 ∧ ∃ first second, adjustment = [first, second] ∧
      first.account = bank ∧ second.account = offset ∧
      first.Carries difference.grains ∧ second.Carries (-difference.grains) := by
  have zero := Decimal.grains_zero
  have size := difference.abs_grains
  have positive_iff : .zero < difference ↔ 0 < difference.grains := by
    rw [← zero]
    exact Iff.rfl
  have zero_iff := difference.isZero_iff
  simp only [adjustmentLines, bind_ok_iff, ite_ok_iff, throw_ok_iff, pure_ok_iff, false_and,
    exists_false, and_false, false_or] at accepted
  obtain ⟨_, _, some, _, ⟨positive, rfl⟩ | ⟨negative, rfl⟩⟩ := accepted
  · have sign := positive_iff.mp positive
    have amount : difference.abs.grains = difference.grains := by omega
    exact ⟨mt zero_iff.mpr some, _, _, rfl, rfl, rfl,
      .of_debit sign.le amount zero,
      .of_credit (by omega) zero (by rw [neg_neg]; exact amount)⟩
  · have sign := mt positive_iff.mpr negative
    have amount : difference.abs.grains = -difference.grains := by omega
    exact ⟨mt zero_iff.mpr some, _, _, rfl, rfl, rfl,
      .of_credit (not_lt.mp sign) zero amount,
      .of_debit (by omega) amount zero⟩

def linesOn (account : AccountId) (lines : List Line) : List Line :=
  lines.filter fun line => decide (line.account = account)

def netOn (account : AccountId) (lines : List Line) : Int :=
  ((linesOn account lines).map Line.net).sum

/-- What the ledger account of the bank gets: both lines, when it is the offset account too. -/
theorem linesOn_pair {first second : Line} (onBank : first.account = bank)
    (onOffset : second.account = offset) :
    linesOn bank [first, second] = if offset = bank then [first, second] else [first] := by
  rw [linesOn, List.filter_cons_of_pos (by simpa using onBank)]
  split
  case isTrue same => rw [List.filter_cons_of_pos (by simpa [onOffset] using same), List.filter_nil]
  case isFalse apart =>
    rw [List.filter_cons_of_neg (by simpa [onOffset] using apart), List.filter_nil]

theorem netOn_pair {first second : Line} {amount : Int} (onBank : first.account = bank)
    (onOffset : second.account = offset) (carries : first.Carries amount)
    (carries' : second.Carries (-amount)) :
    netOn bank [first, second] = if offset = bank then 0 else amount := by
  rw [netOn, linesOn_pair onBank onOffset]
  split
  · simp [carries.net_eq, carries'.net_eq]
  · simp [carries.net_eq]

theorem turnover_le {first second : Line} {amount : Int} (onBank : first.account = bank)
    (onOffset : second.account = offset) (carries : first.Carries amount)
    (carries' : second.Carries (-amount)) :
    Store.turnover (linesOn bank [first, second]) ≤ 2 * amount.natAbs := by
  have debit := carries.debit
  have credit := carries.credit
  have debit' := carries'.debit
  have credit' := carries'.credit
  rw [linesOn_pair onBank onOffset, Store.turnover]
  split
  · simp only [List.map_cons, List.map_nil, List.sum_cons, List.sum_nil]
    omega
  · simp only [List.map_cons, List.map_nil, List.sum_cons, List.sum_nil]
    omega

/-! ## The difference afterwards -/

/-- The lines balance, each on one side, and once they are posted by the date of the summary a
given difference is left. -/
structure Leaves (asOf : Date) (closing system : Decimal) (lines : List StatementLine)
    (payments : List Payment) (bank : AccountId) (adjustment : List Line) (rest : Int) : Prop where
  balanced : Line.debits adjustment = Line.credits adjustment
  single : ∀ line ∈ adjustment, ∃ amount, line.Single amount
  posted : ∃ balance, Store.netOf system (linesOn bank adjustment) = .ok balance ∧
    balance.grains = system.grains + netOn bank adjustment
  left : ∀ balance, balance.grains = system.grains + netOn bank adjustment →
    ∃ after, Summary.compute asOf closing balance lines payments = .ok after ∧
      after.difference.grains = rest

def Clears (bank offset : AccountId) : Prop :=
  ∀ (asOf : Date) (closing system : Decimal) (lines : List StatementLine) (payments : List Payment)
    (matchable : Nat) (held : PermissionSet) (summary : Summary) (adjustment : List Line),
    closing.Storable → 10 ^ 24 ∣ system.grains → system.grains.natAbs < 10 ^ 23 * 10 ^ 28 →
    payments.length < 2 ^ 30 → (∀ payment ∈ payments, payment.amount.Storable) →
    Summary.compute asOf closing system lines payments = .ok summary →
    adjustmentLines summary.difference matchable bank offset held = .ok adjustment →
    Leaves asOf closing system lines payments bank adjustment 0

/-- An adjustment leaves no difference, unless its offset account is the ledger account of the
bank: then it leaves the difference as it was. -/
theorem adjustment_leaves (asOf : Date) (closing system : Decimal) (lines : List StatementLine)
    (payments : List Payment) (matchable : Nat) (bank offset : AccountId) (held : PermissionSet)
    {summary : Summary} {adjustment : List Line} (closing_storable : closing.Storable)
    (columnar : 10 ^ 24 ∣ system.grains) (small : system.grains.natAbs < 10 ^ 23 * 10 ^ 28)
    (few : payments.length < 2 ^ 30) (storable : ∀ payment ∈ payments, payment.amount.Storable)
    (computed : Summary.compute asOf closing system lines payments = .ok summary)
    (accepted : adjustmentLines summary.difference matchable bank offset held = .ok adjustment) :
    summary.difference.grains ≠ 0 ∧
      Leaves asOf closing system lines payments bank adjustment
        (if offset = bank then summary.difference.grains else 0) := by
  have limit : Decimal.exactLimit = 2 ^ 96 * 10 ^ 24 := rfl
  have amounts : ∀ payment ∈ payments, 10 ^ 24 ∣ payment.amount.grains :=
    fun payment present => (storable payment present).2.columnar
  have closing_small := closing_storable.natAbs_lt
  have bounded := Summary.size_pendingAmounts_le storable asOf
  have pending_small := Summary.natAbs_sum_le (Summary.pendingAmounts asOf payments)
  obtain ⟨_, computed', position⟩ := Summary.compute_position_of_lt asOf lines amounts
    closing_storable.2.columnar columnar (by omega)
  obtain rfl := Except.ok.inj (computed.symm.trans computed')
  have difference := position.difference
  have difference_columnar : 10 ^ 24 ∣ summary.difference.grains := by
    rw [difference]
    exact Int.dvd_add (Int.dvd_sub closing_storable.2.columnar columnar)
      (Summary.pendingAmounts_columnar asOf amounts)
  obtain ⟨some, first, second, rfl, onBank, onOffset, carries, carries'⟩ :=
    adjustmentLines_ok accepted
  have turnover := turnover_le onBank onOffset carries carries'
  have both : ∀ line ∈ [first, second], line.entry.Amounts :=
    List.forall_mem_cons.mpr ⟨carries.amounts difference_columnar,
      List.forall_mem_singleton.mpr (carries'.amounts (Int.dvd_neg.mpr difference_columnar))⟩
  have entries : ∀ line ∈ linesOn bank [first, second], line.entry.Amounts :=
    fun line present => both line (List.mem_filter.mp present).1
  refine ⟨some, ?_, ?_, ?_, ?_⟩
  · have nets := Store.sum_net [first, second]
    rw [List.map_cons, List.map_cons, List.map_nil, List.sum_cons, List.sum_cons, List.sum_nil,
      carries.net_eq, carries'.net_eq] at nets
    rw [Line.debits, Line.credits]
    omega
  · exact List.forall_mem_cons.mpr ⟨⟨_, carries.single some⟩,
      List.forall_mem_singleton.mpr ⟨_, carries'.single (neg_ne_zero.mpr some)⟩⟩
  · exact Store.netOf_exact entries columnar (by omega)
  · intro balance posted
    rw [netOn_pair onBank onOffset carries carries'] at posted
    have balance_columnar : 10 ^ 24 ∣ balance.grains := by
      rw [posted]
      split
      · exact Int.dvd_add columnar (dvd_zero _)
      · exact Int.dvd_add columnar difference_columnar
    obtain ⟨after, computed', position'⟩ := Summary.compute_position_of_lt asOf lines amounts
      closing_storable.2.columnar balance_columnar (by split at posted <;> omega)
    have difference' := position'.difference
    refine ⟨after, computed', ?_⟩
    -- What is pending is the same before and after, so only the balance tells the two apart.
    by_cases same : offset = bank
    · rw [if_pos same] at posted ⊢
      omega
    · rw [if_neg same] at posted ⊢
      omega

def largeLedger : Decimal := (Decimal.ofUnits? (10 ^ 27 - 1) 4).getD .zero

/-- The books have far more than the bank, and the bank's account is credited. -/
theorem largeLedger_leaves :
    Summary.closingThousand.Storable ∧ 10 ^ 24 ∣ largeLedger.grains ∧
      largeLedger.grains.natAbs < 10 ^ 23 * 10 ^ 28 ∧
      (Summary.fourPayments false).length < 2 ^ 30 ∧
      (∀ payment ∈ Summary.fourPayments false, payment.amount.Storable) ∧
      ∃ summary adjustment,
        Summary.compute Summary.cutOff Summary.closingThousand largeLedger []
            (Summary.fourPayments false) = .ok summary ∧
          adjustmentLines summary.difference 0 (Id.ofNat 1) (Id.ofNat 2) [.bankReconcile] =
            .ok adjustment ∧
          summary.difference.grains ≠ 0 ∧
          Leaves Summary.cutOff Summary.closingThousand largeLedger []
            (Summary.fourPayments false) (Id.ofNat 1) adjustment 0 := by
  have columnar : 10 ^ 24 ∣ largeLedger.grains := by decide
  have small : largeLedger.grains.natAbs < 10 ^ 23 * 10 ^ 28 := by decide
  have storable : ∀ payment ∈ Summary.fourPayments false, payment.amount.Storable := by decide
  refine ⟨by decide, columnar, small, by decide, storable, _, _, rfl, rfl, ?_⟩
  exact adjustment_leaves Summary.cutOff Summary.closingThousand largeLedger []
    (Summary.fourPayments false) 0 (Id.ofNat 1) (Id.ofNat 2) [.bankReconcile] (by decide) columnar
    small (by decide) storable rfl rfl

/-- A thousand is missing from the books, and an adjustment against the same account adds none. -/
theorem own_account_clears_nothing : ¬ ∀ bank offset, Clears bank offset := by
  intro clears
  have cleared := clears (Id.ofNat 1) (Id.ofNat 1) Summary.cutOff Summary.closingThousand .zero []
    [] 0 [.bankReconcile] _ _ (by decide) (by decide) (by decide) (by decide) (by decide) rfl rfl
  obtain ⟨after, computed, zero⟩ := cleared.left .zero (by decide)
  obtain rfl := Except.ok.inj computed
  exact absurd zero (by decide)

end Bank

end Countinghouse
