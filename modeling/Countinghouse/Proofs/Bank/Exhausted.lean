import Countinghouse.Proofs.Bank.Matching
import Countinghouse.Proofs.Bank.Summary
import Mathlib.Algebra.BigOperators.Group.Multiset.Basic
import Mathlib.Data.Multiset.UnionInter

/-! # Matching until nothing matches

Lines and payments of equal amounts may be paired in any order.  Each match takes one open line
and one open payment of the same bank account and amount away; once nothing matches, the open
lines and the open payments have no bank account and amount in common.  So all that was taken
away is what the two had in common at the start, and what is left does not depend on the order. -/

set_option autoImplicit false

namespace Countinghouse

structure Reconciliation where
  lines : List StatementLine
  payments : List Payment

/-- A line and a payment to match, with the actor and their permissions. -/
structure Pairing where
  line : StatementLineId
  payment : PaymentId
  actor : UserId
  held : PermissionSet

abbrev BankAmount := BankAccountId × Int

def StatementLine.key (line : StatementLine) : BankAmount := (line.bank, line.amount.grains)

def Payment.key (payment : Payment) : BankAmount := (payment.bank, payment.amount.grains)

theorem StatementLine.key_eq_iff {line : StatementLine} {bank : BankAccountId} {amount : Decimal} :
    line.key = (bank, amount.grains) ↔ line.bank = bank ∧ line.amount.Same amount :=
  Prod.mk_inj

theorem Payment.key_eq_iff {payment : Payment} {bank : BankAccountId} {amount : Decimal} :
    payment.key = (bank, amount.grains) ↔ payment.bank = bank ∧ payment.amount.Same amount :=
  Prod.mk_inj

def Payment.isOpen (payment : Payment) : Bool :=
  payment.status = .posted && !payment.isReconciled

namespace Reconciliation

def written (state : Reconciliation) (line : StatementLine) (payment : Payment) :
    Reconciliation where
  lines := Rows.replace (·.id) { line with matched := some payment.id } state.lines
  payments := Rows.replace (·.id) { payment with isReconciled := true } state.payments

def matchPair (state : Reconciliation) (pairing : Pairing) :
    Except ReconciliationError Reconciliation :=
  match state.lines.find? fun line => line.id = pairing.line with
  | none => .error (.statementLineNotFound pairing.line)
  | some line =>
      match state.payments.find? fun payment => payment.id = pairing.payment with
      | none => .error (.paymentNotFound pairing.payment)
      | some payment =>
          (line.matchTo payment pairing.actor pairing.held).map fun _ => state.written line payment

def matchPairs (state : Reconciliation) :
    List Pairing → Except ReconciliationError Reconciliation
  | [] => .ok state
  | pairing :: rest => do
      let state ← state.matchPair pairing
      state.matchPairs rest

/-- No line and payment can be matched any more, by anyone. -/
def Exhausted (state : Reconciliation) : Prop :=
  ∀ line ∈ state.lines, ∀ payment ∈ state.payments, ∀ actor held made,
    line.matchTo payment actor held ≠ .ok made

structure Distinct (state : Reconciliation) : Prop where
  lines : (state.lines.map (·.id)).Nodup
  payments : (state.payments.map (·.id)).Nodup

/-- Bank accounts and amounts of the lines that are not matched, each as often as there are such
lines. -/
def openLines (state : Reconciliation) : Multiset BankAmount :=
  Multiset.ofList ((state.lines.filter fun line => !line.isReconciled).map StatementLine.key)

def openPayments (state : Reconciliation) : Multiset BankAmount :=
  Multiset.ofList ((state.payments.filter Payment.isOpen).map Payment.key)

variable {state after : Reconciliation} {pairing : Pairing}

/-! ## One match -/

/-- What a match leaves as it was: all but which lines are matched and which payments are
reconciled. -/
structure Same (before after : Reconciliation) : Prop where
  lines : after.lines.map (fun line => { line with matched := none }) =
    before.lines.map fun line => { line with matched := none }
  payments : after.payments.map (fun payment => { payment with isReconciled := false }) =
    before.payments.map fun payment => { payment with isReconciled := false }

theorem matchPair_ok (accepted : state.matchPair pairing = .ok after) :
    ∃ line ∈ state.lines, ∃ payment ∈ state.payments, line.Candidate payment ∧
      after = state.written line payment := by
  unfold matchPair at accepted
  split at accepted
  · cases accepted
  rename_i line lineFound
  split at accepted
  · cases accepted
  rename_i payment paymentFound
  obtain ⟨_, matched, rfl⟩ := map_ok_iff.mp accepted
  obtain ⟨_, candidate, _⟩ := StatementLine.matchTo_ok_iff.mp matched
  exact ⟨line, List.mem_of_find?_eq_some lineFound, payment,
    List.mem_of_find?_eq_some paymentFound, candidate, rfl⟩

/-- A match takes the same bank account and amount from both sides, and changes nothing else. -/
theorem matchPair_takes (distinct : state.Distinct)
    (accepted : state.matchPair pairing = .ok after) :
    ∃ key, state.openLines = key ::ₘ after.openLines ∧
      state.openPayments = key ::ₘ after.openPayments ∧ Same state after := by
  obtain ⟨line, line_in, payment, payment_in, candidate, rfl⟩ := matchPair_ok accepted
  obtain ⟨lineFree, paymentFree, sameBank, posted, sameAmount⟩ := candidate
  have sameKey : payment.key = line.key := Prod.ext sameBank.symm sameAmount.symm
  have lines := Rows.perm_replace (fun line => !line.isReconciled) distinct.lines line_in
    (rfl : ({ line with matched := some payment.id } : StatementLine).id = line.id)
    (by simp [lineFree]) rfl
  have payments := Rows.perm_replace Payment.isOpen distinct.payments payment_in
    (rfl : ({ payment with isReconciled := true } : Payment).id = payment.id)
    (by simp [Payment.isOpen, posted, paymentFree]) (by simp [Payment.isOpen])
  refine ⟨line.key, Multiset.coe_eq_coe.mpr (lines.map _), ?_, ?_, ?_⟩
  · rw [← sameKey]
    exact Multiset.coe_eq_coe.mpr (payments.map _)
  · exact Rows.map_replace distinct.lines line_in rfl rfl
  · exact Rows.map_replace distinct.payments payment_in rfl rfl

theorem Same.refl (state : Reconciliation) : Same state state := ⟨rfl, rfl⟩

theorem Same.trans {middle : Reconciliation} (first : Same state middle)
    (second : Same middle after) : Same state after :=
  ⟨second.lines.trans first.lines, second.payments.trans first.payments⟩

theorem Same.lines_part {β : Type} (same : Same state after) (part : StatementLine → β)
    (unmatched : ∀ line, part { line with matched := none } = part line) :
    after.lines.map part = state.lines.map part := by
  have parts := congrArg (List.map part) same.lines
  simpa only [List.map_map, Function.comp_def, unmatched] using parts

theorem Same.payments_part {β : Type} (same : Same state after) (part : Payment → β)
    (unreconciled : ∀ payment, part { payment with isReconciled := false } = part payment) :
    after.payments.map part = state.payments.map part := by
  have parts := congrArg (List.map part) same.payments
  simpa only [List.map_map, Function.comp_def, unreconciled] using parts

theorem Same.lines_length (same : Same state after) : after.lines.length = state.lines.length := by
  simpa only [List.length_map] using congrArg List.length same.lines

theorem Same.distinct (same : Same state after) (distinct : state.Distinct) : after.Distinct := by
  constructor
  · rw [same.lines_part (·.id) fun _ => rfl]
    exact distinct.lines
  · rw [same.payments_part (·.id) fun _ => rfl]
    exact distinct.payments

/-! ## Runs -/

theorem matchPairs_takes {pairings : List Pairing} (distinct : state.Distinct)
    (accepted : state.matchPairs pairings = .ok after) :
    ∃ taken : Multiset BankAmount, taken.card = pairings.length ∧
      state.openLines = taken + after.openLines ∧
      state.openPayments = taken + after.openPayments ∧ Same state after := by
  induction pairings generalizing state with
  | nil =>
    obtain rfl := Except.ok.inj accepted
    exact ⟨0, rfl, (zero_add _).symm, (zero_add _).symm, .refl state⟩
  | cons pairing rest ih =>
    rw [matchPairs, bind_ok_iff] at accepted
    obtain ⟨middle, first, others⟩ := accepted
    obtain ⟨key, lines, payments, same⟩ := matchPair_takes distinct first
    obtain ⟨taken, count, lines', payments', same'⟩ := ih (same.distinct distinct) others
    refine ⟨key ::ₘ taken, ?_, ?_, ?_, same.trans same'⟩
    · rw [Multiset.card_cons, count, List.length_cons]
    · rw [lines, lines', Multiset.cons_add]
    · rw [payments, payments', Multiset.cons_add]

theorem mem_openLines {key : BankAmount} :
    key ∈ state.openLines ↔ ∃ line ∈ state.lines, line.isReconciled = false ∧ line.key = key := by
  simp [openLines, and_assoc]

theorem mem_openPayments {key : BankAmount} :
    key ∈ state.openPayments ↔ ∃ payment ∈ state.payments,
      payment.status = .posted ∧ payment.isReconciled = false ∧ payment.key = key := by
  simp [openPayments, Payment.isOpen, and_assoc]

theorem exhausted_iff :
    state.Exhausted ↔ ∀ line ∈ state.lines, ∀ payment ∈ state.payments,
      ¬ line.Candidate payment := by
  constructor
  · intro exhausted line line_in payment payment_in candidate
    exact exhausted line line_in payment payment_in (Id.ofNat 0) [.bankReconcile] _
      (StatementLine.matchTo_ok_iff.mpr ⟨List.mem_singleton_self _, candidate, rfl⟩)
  · intro none line line_in payment payment_in actor held made matched
    exact none line line_in payment payment_in (StatementLine.matchTo_ok_iff.mp matched).2.1

instance (state : Reconciliation) : Decidable state.Exhausted :=
  decidable_of_iff _ exhausted_iff.symm

theorem Exhausted.disjoint (exhausted : state.Exhausted) :
    Disjoint state.openLines state.openPayments := by
  rw [Multiset.disjoint_left]
  intro key lineOpen paymentOpen
  obtain ⟨line, line_in, lineFree, rfl⟩ := mem_openLines.mp lineOpen
  obtain ⟨payment, payment_in, posted, paymentFree, sameKey⟩ := mem_openPayments.mp paymentOpen
  obtain ⟨sameBank, sameAmount⟩ := Prod.mk.inj sameKey
  exact exhausted_iff.mp exhausted line line_in payment payment_in
    ⟨lineFree, paymentFree, sameBank.symm, posted, sameAmount.symm⟩

/-- What was taken until nothing matches is what lines and payments had in common. -/
theorem exhausted_taken {taken : Multiset BankAmount} (exhausted : after.Exhausted)
    (lines : state.openLines = taken + after.openLines)
    (payments : state.openPayments = taken + after.openPayments) :
    taken = state.openLines ∩ state.openPayments := by
  -- Nothing in common is left, so the intersection of the two sums is their common part.
  have nothing : after.openLines ∩ after.openPayments = 0 :=
    Multiset.inter_eq_zero_iff_disjoint.mpr exhausted.disjoint
  rw [lines, payments, ← Multiset.add_inter_distrib, nothing, add_zero]

theorem exhausted_open {first second : List Pairing} {after' : Reconciliation}
    (distinct : state.Distinct) (ran : state.matchPairs first = .ok after)
    (ran' : state.matchPairs second = .ok after') (exhausted : after.Exhausted)
    (exhausted' : after'.Exhausted) :
    first.length = second.length ∧ after.openLines = after'.openLines ∧
      after.openPayments = after'.openPayments := by
  obtain ⟨taken, count, lines, payments, _⟩ := matchPairs_takes distinct ran
  obtain ⟨taken', count', lines', payments', _⟩ := matchPairs_takes distinct ran'
  -- Both runs took what the two sides had in common, so both leave the rest.
  obtain rfl : taken = taken' :=
    (exhausted_taken exhausted lines payments).trans
      (exhausted_taken exhausted' lines' payments').symm
  exact ⟨count.symm.trans count', add_left_cancel (lines.symm.trans lines'),
    add_left_cancel (payments.symm.trans payments')⟩

/-! ## Counts -/

def openLinesOf (state : Reconciliation) (bank : BankAccountId) (amount : Decimal) : Nat :=
  state.lines.countP fun line => !line.isReconciled && (line.bank = bank && line.amount.Same amount)

def openPaymentsOf (state : Reconciliation) (bank : BankAccountId) (amount : Decimal) : Nat :=
  state.payments.countP fun payment =>
    payment.isOpen && (payment.bank = bank && payment.amount.Same amount)

theorem openLinesOf_eq (bank : BankAccountId) (amount : Decimal) :
    state.openLinesOf bank amount = state.openLines.count (bank, amount.grains) := by
  rw [openLines, Multiset.count, Multiset.coe_countP, List.countP_map, List.countP_filter]
  refine List.countP_congr fun line _ => ?_
  simp [eq_comm (a := (bank, amount.grains)), StatementLine.key_eq_iff, and_comm]

theorem openPaymentsOf_eq (bank : BankAccountId) (amount : Decimal) :
    state.openPaymentsOf bank amount = state.openPayments.count (bank, amount.grains) := by
  rw [openPayments, Multiset.count, Multiset.coe_countP, List.countP_map, List.countP_filter]
  refine List.countP_congr fun payment _ => ?_
  simp [eq_comm (a := (bank, amount.grains)), Payment.key_eq_iff, and_comm]

theorem Exhausted.one_sided (exhausted : state.Exhausted) (bank : BankAccountId)
    (amount : Decimal) :
    state.openLinesOf bank amount = 0 ∨ state.openPaymentsOf bank amount = 0 := by
  rw [openLinesOf_eq, openPaymentsOf_eq, Multiset.count_eq_zero, Multiset.count_eq_zero]
  by_contra both
  push Not at both
  exact Multiset.disjoint_left.mp exhausted.disjoint both.1 both.2

theorem openLines_card : state.openLines.card =
    (state.lines.filter fun line => !line.isReconciled).length := by
  rw [openLines, Multiset.coe_card, List.length_map]

theorem openLines_card_le : state.openLines.card ≤ state.lines.length := by
  rw [openLines_card]
  exact List.length_filter_le _ _

theorem openPayments_card_le : state.openPayments.card ≤ state.payments.length := by
  rw [openPayments, Multiset.coe_card, List.length_map]
  exact List.length_filter_le _ _

/-! ## The position on a date after all dates -/

structure UpTo (state : Reconciliation) (asOf : Date) : Prop where
  lines : ∀ line ∈ state.lines, line.date ≤ asOf
  payments : ∀ payment ∈ state.payments, payment.date ≤ asOf

/-- Fewer payments than `2 ^ 31`, all of amounts that can be stored. -/
structure Stored (state : Reconciliation) : Prop where
  few : state.payments.length < 2 ^ 31
  storable : ∀ payment ∈ state.payments, payment.amount.Storable

theorem Same.upTo {asOf : Date} (same : Same state after) (before : state.UpTo asOf) :
    after.UpTo asOf := by
  have lines := same.lines_part (·.date) fun _ => rfl
  have payments := same.payments_part (·.date) fun _ => rfl
  constructor
  · rw [← List.forall_mem_map (P := (· ≤ asOf)), lines, List.forall_mem_map]
    exact before.lines
  · rw [← List.forall_mem_map (P := (· ≤ asOf)), payments, List.forall_mem_map]
    exact before.payments

theorem Same.stored (same : Same state after) (before : state.Stored) : after.Stored := by
  have amounts := same.payments_part (·.amount) fun _ => rfl
  constructor
  · have length := congrArg List.length amounts
    rw [List.length_map, List.length_map] at length
    rw [length]
    exact before.few
  · rw [← List.forall_mem_map (P := Decimal.Storable), amounts, List.forall_mem_map]
    exact before.storable

theorem pendingAmounts_eq {asOf : Date} (upTo : state.UpTo asOf) :
    Multiset.ofList (Summary.pendingAmounts asOf state.payments) =
      state.openPayments.map Prod.snd := by
  have pending : ∀ payment ∈ state.payments,
      decide (Summary.Pending asOf payment) = payment.isOpen := by
    intro payment present
    simp [Summary.Pending, Payment.isOpen, upTo.payments payment present]
  rw [Summary.pendingAmounts, List.filter_congr pending, openPayments, Multiset.map_coe,
    List.map_map]
  rfl

theorem pendingAmounts_size (stored : state.Stored) (asOf : Date) :
    Summary.size (Summary.pendingAmounts asOf state.payments) ≤ 2 ^ 31 * 10 ^ 43 :=
  (Summary.size_pendingAmounts_le stored.storable asOf).trans
    (Nat.mul_le_mul_right _ stored.few.le)

/-- The summary counts the open lines, and its amounts are those of the open payments. -/
theorem compute_open {asOf : Date} {closing system : Decimal} (upTo : state.UpTo asOf)
    (stored : state.Stored) (closing_balance : Summary.Balance closing)
    (system_balance : Summary.Balance system) :
    ∃ summary, Summary.compute asOf closing system state.lines state.payments = .ok summary ∧
      summary.unmatched = state.openLines.card ∧
      summary.matched + state.openLines.card = state.lines.length ∧
      summary.outstanding.grains =
        Summary.leaving (Summary.pendingAmounts asOf state.payments) ∧
      summary.inTransit.grains =
        Summary.arriving (Summary.pendingAmounts asOf state.payments) ∧
      summary.difference.grains = closing.grains - system.grains -
        Summary.leaving (Summary.pendingAmounts asOf state.payments) +
          Summary.arriving (Summary.pendingAmounts asOf state.payments) := by
  have all : state.lines.filter (fun line => decide (line.date ≤ asOf)) = state.lines := by
    rw [List.filter_eq_self]
    exact fun line present => decide_eq_true (upTo.lines line present)
  have bounded := pendingAmounts_size stored asOf
  have small : closing.grains.natAbs + system.grains.natAbs +
      Summary.size (Summary.pendingAmounts asOf state.payments) < Decimal.exactLimit := by
    have closing_small := closing_balance.small
    have system_small := system_balance.small
    unfold Decimal.exactLimit
    omega
  obtain ⟨summary, computed, matched, unmatched, amounts⟩ := Summary.compute_exact
    (fun payment present => (stored.storable payment present).2.columnar)
    closing_balance.columnar system_balance.columnar small
  rw [all] at matched unmatched
  refine ⟨summary, computed, ?_, ?_, amounts⟩
  · rw [unmatched, openLines_card]
  · rw [matched, openLines_card]
    exact (List.length_eq_length_filter_add fun line : StatementLine => line.isReconciled).symm

theorem compute_alike {other : Reconciliation} {asOf : Date} {closing system : Decimal}
    (lines : state.openLines = other.openLines)
    (payments : state.openPayments = other.openPayments)
    (length : state.lines.length = other.lines.length) (upTo : state.UpTo asOf)
    (upTo' : other.UpTo asOf) (stored : state.Stored) (stored' : other.Stored)
    (closing_balance : Summary.Balance closing) (system_balance : Summary.Balance system) :
    ∃ summary summary',
      Summary.compute asOf closing system state.lines state.payments = .ok summary ∧
      Summary.compute asOf closing system other.lines other.payments = .ok summary' ∧
      summary.Alike summary' := by
  have pending : (Summary.pendingAmounts asOf state.payments).Perm
      (Summary.pendingAmounts asOf other.payments) := by
    rw [← Multiset.coe_eq_coe, pendingAmounts_eq upTo, pendingAmounts_eq upTo', payments]
  obtain ⟨summary, computed, unmatched, matched, outstanding, inTransit, difference⟩ :=
    compute_open upTo stored closing_balance system_balance
  obtain ⟨summary', computed', unmatched', matched', outstanding', inTransit', difference'⟩ :=
    compute_open upTo' stored' closing_balance system_balance
  rw [Summary.leaving_perm pending] at outstanding difference
  rw [Summary.arriving_perm pending] at inTransit difference
  rw [lines] at unmatched matched
  refine ⟨summary, summary', computed, computed', unmatched.trans unmatched'.symm, by omega,
    outstanding.trans outstanding'.symm, inTransit.trans inTransit'.symm,
    difference.trans difference'.symm⟩

/-- Two runs of matches that each go on until nothing matches have the same length, leave the
same lines and payments open as far as bank accounts and amounts tell, and end in the same
position.  Of each bank account and amount either no line or no payment is left open. -/
theorem exhausted_alike (state : Reconciliation) (distinct : state.Distinct)
    (stored : state.Stored) {first second : List Pairing} {after after' : Reconciliation}
    (ran : state.matchPairs first = .ok after) (ran' : state.matchPairs second = .ok after')
    (exhausted : after.Exhausted) (exhausted' : after'.Exhausted) :
    first.length = second.length ∧
      first.length ≤ min state.lines.length state.payments.length ∧
      (∀ bank amount,
        after.openLinesOf bank amount = after'.openLinesOf bank amount ∧
        after.openPaymentsOf bank amount = after'.openPaymentsOf bank amount ∧
        (after.openLinesOf bank amount = 0 ∨ after.openPaymentsOf bank amount = 0)) ∧
      ∀ asOf closing system, state.UpTo asOf → Summary.Balance closing → Summary.Balance system →
        ∃ summary summary',
          Summary.compute asOf closing system after.lines after.payments = .ok summary ∧
          Summary.compute asOf closing system after'.lines after'.payments = .ok summary' ∧
          summary.Alike summary' := by
  obtain ⟨length, lines, payments⟩ := exhausted_open distinct ran ran' exhausted exhausted'
  obtain ⟨taken, count, lines_split, payments_split, same⟩ := matchPairs_takes distinct ran
  obtain ⟨_, _, _, _, same'⟩ := matchPairs_takes distinct ran'
  refine ⟨length, ?_, ?_, ?_⟩
  · have lines_le := state.openLines_card_le
    have payments_le := state.openPayments_card_le
    rw [lines_split, Multiset.card_add, count] at lines_le
    rw [payments_split, Multiset.card_add, count] at payments_le
    omega
  · intro bank amount
    refine ⟨?_, ?_, exhausted.one_sided bank amount⟩
    · rw [openLinesOf_eq, openLinesOf_eq, lines]
    · rw [openPaymentsOf_eq, openPaymentsOf_eq, payments]
  · intro asOf closing system upTo closing_balance system_balance
    have line_count : after.lines.length = after'.lines.length :=
      same.lines_length.trans same'.lines_length.symm
    exact compute_alike lines payments line_count (same.upTo upTo) (same'.upTo upTo)
      (same.stored stored) (same'.stored stored) closing_balance system_balance

/-- Two lines and three payments of fifty, with the payments that the lines are matched to. -/
def fifties (first second : Option PaymentId) : Reconciliation :=
  let payment (id : PaymentId) (amount : Decimal) : Payment :=
    ⟨id, Id.ofNat 1, Store.transferDay, amount, .posted, first = some id || second = some id⟩
  ⟨[⟨Id.ofNat 1, Id.ofNat 1, Store.transferDay, "transfer", Store.fifty, first⟩,
      ⟨Id.ofNat 2, Id.ofNat 1, Store.transferDay, "transfer", Store.fiftyInMills, second⟩],
    [payment (Id.ofNat 1) Store.fiftyInMills, payment (Id.ofNat 2) Store.fifty,
      payment (Id.ofNat 3) Store.fifty]⟩

def fiftiesPairs (first second : PaymentId) : List Pairing :=
  [⟨Id.ofNat 1, first, Id.ofNat 1, [.bankReconcile]⟩,
    ⟨Id.ofNat 2, second, Id.ofNat 2, [.bankReconcile]⟩]

/-- The payment that is left over differs, in its number of places too. -/
theorem fifties_alike :
    (fifties none none).matchPairs (fiftiesPairs (Id.ofNat 1) (Id.ofNat 2)) =
        .ok (fifties (some (Id.ofNat 1)) (some (Id.ofNat 2))) ∧
      (fifties none none).matchPairs (fiftiesPairs (Id.ofNat 3) (Id.ofNat 2)) =
        .ok (fifties (some (Id.ofNat 3)) (some (Id.ofNat 2))) ∧
      (fifties (some (Id.ofNat 1)) (some (Id.ofNat 2))).Exhausted ∧
      (fifties (some (Id.ofNat 3)) (some (Id.ofNat 2))).Exhausted ∧
      ∃ summary summary',
        Summary.compute ⟨20001, by decide, by decide⟩ .zero .zero
          (fifties (some (Id.ofNat 1)) (some (Id.ofNat 2))).lines
          (fifties (some (Id.ofNat 1)) (some (Id.ofNat 2))).payments = .ok summary ∧
        summary.unmatched = 0 ∧ summary.matched = 2 ∧ summary.outstanding.grains = 0 ∧
        summary.inTransit.grains = 50 * 10 ^ 28 ∧ summary.difference.grains = 50 * 10 ^ 28 ∧
        Summary.compute ⟨20001, by decide, by decide⟩ .zero .zero
          (fifties (some (Id.ofNat 3)) (some (Id.ofNat 2))).lines
          (fifties (some (Id.ofNat 3)) (some (Id.ofNat 2))).payments = .ok summary' ∧
        summary.Alike summary' := by
  have ran : (fifties none none).matchPairs (fiftiesPairs (Id.ofNat 1) (Id.ofNat 2)) =
      .ok (fifties (some (Id.ofNat 1)) (some (Id.ofNat 2))) := by rfl
  have ran' : (fifties none none).matchPairs (fiftiesPairs (Id.ofNat 3) (Id.ofNat 2)) =
      .ok (fifties (some (Id.ofNat 3)) (some (Id.ofNat 2))) := by rfl
  have exhausted : (fifties (some (Id.ofNat 1)) (some (Id.ofNat 2))).Exhausted := by decide
  have exhausted' : (fifties (some (Id.ofNat 3)) (some (Id.ofNat 2))).Exhausted := by decide
  have alike := exhausted_alike (fifties none none) ⟨by decide, by decide⟩ ⟨by decide, by decide⟩
    ran ran' exhausted exhausted'
  obtain ⟨summary, summary', computed, computed', same⟩ := alike.2.2.2
    ⟨20001, by decide, by decide⟩ .zero .zero ⟨by decide, by decide⟩ ⟨by decide, by decide⟩
    ⟨by decide, by decide⟩
  have numbers : (Summary.compute ⟨20001, by decide, by decide⟩ .zero .zero
      (fifties (some (Id.ofNat 1)) (some (Id.ofNat 2))).lines
      (fifties (some (Id.ofNat 1)) (some (Id.ofNat 2))).payments).map (fun summary =>
        (summary.unmatched, summary.matched, summary.outstanding.grains, summary.inTransit.grains,
          summary.difference.grains)) = .ok (0, 2, 0, 50 * 10 ^ 28, 50 * 10 ^ 28) := by decide
  simp only [computed, Except.map, Except.ok.injEq, Prod.mk.injEq] at numbers
  obtain ⟨unmatched, matched, outstanding, inTransit, difference⟩ := numbers
  exact ⟨ran, ran', exhausted, exhausted', summary, summary', computed, unmatched, matched,
    outstanding, inTransit, difference, computed', same⟩

end Reconciliation

end Countinghouse
