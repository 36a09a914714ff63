import Countinghouse.Proofs.Bank.Adjustment
import Countinghouse.Proofs.Bank.Matching
import Countinghouse.Proofs.Decimal.Column

/-! # Suggestions and matches

What is suggested for a line is decided by a condition on the line and a payment; whether a match
is accepted is decided by checks in an order of their own.  For whoever may reconcile the two come
to the same, so a line counts as matchable exactly as long as a request to match it would be
accepted, and an adjustment is held back exactly as long as there is such a line. -/

set_option autoImplicit false

namespace Countinghouse

namespace StatementLine

def accepts (line : StatementLine) (payment : Payment) (actor : UserId) (held : PermissionSet) :
    Bool :=
  (line.matchTo payment actor held).isOk

variable {line : StatementLine} {payment : Payment} {actor : UserId} {held : PermissionSet}

theorem accepts_eq (permitted : .bankReconcile ∈ held) :
    line.accepts payment actor held = decide (line.Candidate payment) := by
  rw [Bool.eq_iff_iff, accepts, isOk_iff, decide_eq_true_iff]
  constructor
  · rintro ⟨made, accepted⟩
    exact (matchTo_ok_iff.mp accepted).2.1
  · intro candidate
    exact ⟨_, matchTo_ok_iff.mpr ⟨permitted, candidate, rfl⟩⟩

theorem candidates_eq (permitted : .bankReconcile ∈ held) (payments : List Payment) :
    line.candidates payments =
      payments.filter fun payment => line.accepts payment actor held := by
  unfold candidates
  exact List.filter_congr fun payment _ => (accepts_eq permitted).symm

end StatementLine

namespace Bank

variable {actor : UserId} {held : PermissionSet} {difference : Decimal} {matchable : Nat}
  {bank offset : AccountId}

def acceptingLines (lines : List StatementLine) (payments : List Payment) (actor : UserId)
    (held : PermissionSet) : List StatementLine :=
  lines.filter fun line => payments.any fun payment => line.accepts payment actor held

theorem matchableLines_eq (permitted : .bankReconcile ∈ held) (lines : List StatementLine)
    (payments : List Payment) :
    matchableLines lines payments = (acceptingLines lines payments actor held).length := by
  simp only [matchableLines, acceptingLines, StatementLine.accepts_eq permitted]

theorem acceptingLines_eq_nil_iff {lines : List StatementLine} {payments : List Payment} :
    acceptingLines lines payments actor held = [] ↔ ∀ line ∈ lines, ∀ payment ∈ payments,
      ∃ refusal, line.matchTo payment actor held = .error refusal := by
  simp only [acceptingLines, List.filter_eq_nil_iff, List.any_eq_true, not_exists, not_and,
    StatementLine.accepts, not_isOk_iff]

theorem adjustmentLines_remaining_iff {n : Nat} :
    adjustmentLines difference matchable bank offset held = .error (.matchablePairsRemain n) ↔
      .bankReconcile ∈ held ∧ difference.grains ≠ 0 ∧ 0 < matchable ∧ n = matchable := by
  simp only [adjustmentLines, liftM, monadLift, MonadLift.monadLift, bind_error_iff,
    mapError_ok_iff, mapError_error_iff, require_ok_iff, ite_error_iff, throw_ok_iff,
    throw_error_iff, pure_error_iff, Decimal.isZero_iff, reduceCtorEq, and_false, exists_false,
    false_and, false_or, or_false, exists_const, ReconciliationError.matchablePairsRemain.injEq,
    gt_iff_lt, ne_eq]

theorem adjustmentLines_exists_ok_iff :
    (∃ adjustment, adjustmentLines difference matchable bank offset held = .ok adjustment) ↔
      .bankReconcile ∈ held ∧ difference.grains ≠ 0 ∧ matchable = 0 := by
  simp only [adjustmentLines, liftM, monadLift, MonadLift.monadLift, bind_ok_iff,
    mapError_ok_iff, require_ok_iff, ite_ok_iff, throw_ok_iff, pure_ok_iff, Decimal.isZero_iff,
    false_and, exists_false, and_false, false_or, exists_const, gt_iff_lt, Nat.pos_iff_ne_zero,
    not_not]
  constructor
  · rintro ⟨_, permitted, some, exhausted, _⟩
    exact ⟨permitted, some, exhausted⟩
  · rintro ⟨permitted, some, exhausted⟩
    by_cases positive : .zero < difference
    · exact ⟨_, permitted, some, exhausted, Or.inl ⟨positive, rfl⟩⟩
    · exact ⟨_, permitted, some, exhausted, Or.inr ⟨positive, rfl⟩⟩

/-- For whoever may reconcile, the payments suggested for a line are those that a request would
match to it, in their order, and the matchable lines are those that some request would match.  A
difference is then booked exactly when no line and payment are left that would be matched, by a
line on each of the two accounts, and until then refused with the number of lines. -/
theorem suggestions_agree (permitted : .bankReconcile ∈ held) (actor : UserId)
    (lines : List StatementLine) (payments : List Payment) :
    (∀ line : StatementLine, line.candidates payments =
        payments.filter fun payment => line.accepts payment actor held) ∧
      matchableLines lines payments = (acceptingLines lines payments actor held).length ∧
      (matchableLines lines payments = 0 ↔ ∀ line ∈ lines, ∀ payment ∈ payments,
        ∃ refusal, line.matchTo payment actor held = .error refusal) ∧
      ∀ (adjuster : PermissionSet) (difference : Decimal) (bank offset : AccountId),
        .bankReconcile ∈ adjuster → difference.grains ≠ 0 →
          (∀ n, adjustmentLines difference (matchableLines lines payments) bank offset adjuster =
              .error (.matchablePairsRemain n) ↔
            0 < n ∧ n = (acceptingLines lines payments actor held).length) ∧
          ((∃ adjustment, adjustmentLines difference (matchableLines lines payments) bank offset
              adjuster = .ok adjustment) ↔ acceptingLines lines payments actor held = []) ∧
          ∀ adjustment, adjustmentLines difference (matchableLines lines payments) bank offset
              adjuster = .ok adjustment →
            ∃ first second, adjustment = [first, second] ∧ first.account = bank ∧
              second.account = offset ∧ first.Carries difference.grains ∧
              second.Carries (-difference.grains) := by
  have count : matchableLines lines payments =
      (acceptingLines lines payments actor held).length :=
    matchableLines_eq permitted lines payments
  refine ⟨fun line => StatementLine.candidates_eq permitted payments, count, ?_, ?_⟩
  · rw [count, List.length_eq_zero_iff]
    exact acceptingLines_eq_nil_iff
  · intro adjuster difference bank offset permitted' some
    rw [count]
    refine ⟨?_, ?_, fun adjustment booked => (adjustmentLines_ok booked).2⟩
    · intro n
      rw [adjustmentLines_remaining_iff]
      constructor
      · rintro ⟨_, _, positive, rfl⟩
        exact ⟨positive, rfl⟩
      · rintro ⟨positive, rfl⟩
        exact ⟨permitted', some, positive, rfl⟩
    · rw [adjustmentLines_exists_ok_iff, List.length_eq_zero_iff]
      exact ⟨fun booked => booked.2.2, fun exhausted => ⟨permitted', some, exhausted⟩⟩

/-- A line that can be matched, one whose only payment is pending, and one that is matched. -/
def branchLines : List StatementLine :=
  let line (id bank : Nat) (matched : Option PaymentId) : StatementLine :=
    ⟨Id.ofNat id, Id.ofNat bank, Store.transferDay, "transfer", Store.fifty, matched⟩
  [line 1 1 none, line 2 2 none, line 3 1 (some (Id.ofNat 3))]

/-- Payments of the three lines, of which the first and the last match the first line when they
are posted. -/
def branchPayments (status : PaymentStatus) : List Payment :=
  let payment (id bank : Nat) (status : PaymentStatus) (isReconciled : Bool) : Payment :=
    ⟨Id.ofNat id, Id.ofNat bank, Store.transferDay, Store.fiftyInMills, status, isReconciled⟩
  [payment 1 1 status false, payment 2 2 .pending false, payment 3 1 .posted true,
    payment 4 1 status false]

theorem branchLines_agree :
    Permission.bankReconcile ∈ [Permission.bankReconcile] ∧ Store.fifty.grains ≠ 0 ∧
      (branchLines.map fun line => (line.candidates (branchPayments .posted)).map (·.id)) =
        [[Id.ofNat 1, Id.ofNat 4], [], []] ∧
      adjustmentLines Store.fifty (matchableLines branchLines (branchPayments .posted))
        (Id.ofNat 1) (Id.ofNat 2) [.bankReconcile] = .error (.matchablePairsRemain 1) ∧
      ∃ first second,
        adjustmentLines Store.fifty (matchableLines branchLines (branchPayments .voided))
          (Id.ofNat 1) (Id.ofNat 2) [.bankReconcile] = .ok [first, second] ∧
        first.account = Id.ofNat 1 ∧ first.debit.grains = 50 * 10 ^ 28 ∧ first.credit.grains = 0 ∧
        second.account = Id.ofNat 2 ∧ second.debit.grains = 0 ∧
        second.credit.grains = 50 * 10 ^ 28 := by
  have permitted : Permission.bankReconcile ∈ [Permission.bankReconcile] := by decide
  have some : Store.fifty.grains ≠ 0 := by decide
  have amount : Store.fifty.grains = 50 * 10 ^ 28 := by decide
  have posted := suggestions_agree permitted (Id.ofNat 7) branchLines (branchPayments .posted)
  have voided := suggestions_agree permitted (Id.ofNat 7) branchLines (branchPayments .voided)
  refine ⟨permitted, some, ?_, ?_, ?_⟩
  · simp only [posted.1]
    decide
  · exact ((posted.2.2.2 _ Store.fifty _ _ permitted some).1 1).mpr ⟨by decide, by decide⟩
  · obtain ⟨_, booked_iff, booked⟩ :=
      voided.2.2.2 _ Store.fifty (Id.ofNat 1) (Id.ofNat 2) permitted some
    obtain ⟨adjustment, accepted⟩ := booked_iff.mpr (by decide)
    obtain ⟨first, second, rfl, onBank, onOffset, carries, carries'⟩ := booked _ accepted
    rw [amount] at carries carries'
    exact ⟨first, second, accepted, onBank, carries.debit, carries.credit, onOffset,
      carries'.debit, carries'.credit⟩

end Bank

end Countinghouse
