import Countinghouse.Proofs.Bank.Exhausted

/-! # Requests to match, as matches

What a tenant can match is read from its rows: a payment is reconciled when a line is matched to
it.  An accepted request to match is a match of these lines and payments, and a refused one leaves
them as they are, so whatever holds of matches holds of the requests of a tenant. -/

set_option autoImplicit false

namespace Countinghouse

open Reconciliation

theorem Reconciliation.matchPair_candidate {state : Reconciliation} {line : StatementLine}
    {payment : Payment} (distinct : state.Distinct) (line_in : line ∈ state.lines)
    (payment_in : payment ∈ state.payments) (candidate : line.Candidate payment)
    (actor : UserId) :
    state.matchPair ⟨line.id, payment.id, actor, [.bankReconcile]⟩ =
      .ok (state.written line payment) := by
  have lineFound := Rows.find?_key distinct.lines line_in
  have paymentFound := Rows.find?_key distinct.payments payment_in
  have made : line.matchTo payment actor [.bankReconcile] = .ok ⟨line.id, payment.id, actor⟩ :=
    StatementLine.matchTo_ok_iff.mpr ⟨List.mem_singleton_self _, candidate, rfl⟩
  simp only [matchPair, lineFound, paymentFound, made]
  rfl

namespace Store

variable {store : Store} {ctx : Context}

def reconciliation (store : Store) (ctx : Context) : Reconciliation where
  lines := (store.statementLines.filter fun row => row.tenant = ctx.tenant).map (·.line)
  payments := (store.payments.filter fun row => row.tenant = ctx.tenant).map fun row =>
    row.payment (store.isReconciled ctx row.id)

theorem isReconciled_lines (id : PaymentId) : store.isReconciled ctx id =
    (store.reconciliation ctx).lines.any fun line => line.matched = some id := by
  rw [reconciliation, List.any_map, List.any_filter]
  rfl

theorem Paired.distinct (paired : store.Paired) : (store.reconciliation ctx).Distinct := by
  constructor
  · rw [reconciliation, List.map_map]
    exact (List.filter_sublist.map _).nodup paired.lineIds
  · rw [reconciliation, List.map_map]
    exact (List.filter_sublist.map _).nodup paired.paymentIds

theorem reconciliation_eq {after : Store} (payments : after.payments = store.payments)
    (lines : (after.reconciliation ctx).lines = (store.reconciliation ctx).lines) :
    after.reconciliation ctx = store.reconciliation ctx := by
  have read : after.isReconciled ctx = store.isReconciled ctx := by
    funext id
    rw [isReconciled_lines, isReconciled_lines, lines]
  have payments' : (after.reconciliation ctx).payments = (store.reconciliation ctx).payments := by
    simp only [reconciliation, payments, read]
  rw [Reconciliation.mk.injEq]
  exact ⟨lines, payments'⟩

variable {after : Store} {old : StoredStatementLine} {payment : StoredPayment} {mark : Mark}

theorem reconciliation_other (distinct : (store.statementLines.map (·.line.id)).Nodup)
    (stored : old ∈ store.statementLines) (other : old.tenant ≠ ctx.tenant)
    (payments : after.payments = store.payments)
    (written : after.statementLines = Rows.replace (·.line.id) (old.matchedTo payment.id mark)
      store.statementLines) : after.reconciliation ctx = store.reconciliation ctx := by
  refine reconciliation_eq payments ?_
  have mine : ∀ row ∈ store.statementLines, row.line.id = old.line.id →
      row.tenant ≠ ctx.tenant := by
    intro row present same
    obtain rfl := List.inj_on_of_nodup_map distinct present stored same
    exact other
  rw [reconciliation, reconciliation, written,
    Rows.filter_replace (by exact decide_eq_false other)]
  intro row present same
  simpa using mine row present same

theorem isReconciled_written (paired : store.Paired) (stored : old ∈ store.statementLines)
    (mine : old.tenant = ctx.tenant) (free : old.line.matched = none)
    (written : after.statementLines = Rows.replace (·.line.id) (old.matchedTo payment.id mark)
      store.statementLines) (id : PaymentId) :
    after.isReconciled ctx id = true ↔ store.isReconciled ctx id = true ∨ id = payment.id := by
  have present_iff :=
    Rows.mem_replace_iff (·.line.id) (old.matchedTo payment.id mark) stored rfl
  rw [isReconciled_iff, isReconciled_iff, written]
  constructor
  · rintro ⟨row, present, tenant, found⟩
    rcases (present_iff row).mp present with rfl | ⟨before, _⟩
    · exact Or.inr (Option.some.inj found).symm
    · exact Or.inl ⟨row, before, tenant, found⟩
  · rintro (⟨row, before, tenant, found⟩ | rfl)
    · refine ⟨row, (present_iff row).mpr (Or.inr ⟨before, fun same => ?_⟩), tenant, found⟩
      obtain rfl := List.inj_on_of_nodup_map paired.lineIds before stored same
      rw [free] at found
      cases found
    · exact ⟨_, (present_iff _).mpr (Or.inl rfl), mine, rfl⟩

theorem reconciliation_written (paired : store.Paired) (stored : old ∈ store.statementLines)
    (mine : old.tenant = ctx.tenant) (free : old.line.matched = none)
    (paid : payment ∈ store.payments) (payments : after.payments = store.payments)
    (written : after.statementLines = Rows.replace (·.line.id) (old.matchedTo payment.id mark)
      store.statementLines) :
    after.reconciliation ctx = (store.reconciliation ctx).written old.line
      (payment.payment (store.isReconciled ctx payment.id)) := by
  have now := isReconciled_written paired stored mine free written
  rw [Reconciliation.written, Reconciliation.mk.injEq]
  constructor
  · rw [reconciliation, reconciliation, written, Rows.replace, Rows.filter_map_kept,
      Rows.replace, List.map_map, List.map_map]
    · refine List.map_congr_left fun row _ => ?_
      exact apply_ite StoredStatementLine.line _ _ _
    · intro row present
      by_cases same : row.line.id = old.line.id
      · obtain rfl := List.inj_on_of_nodup_map paired.lineIds present stored same
        simp [StoredStatementLine.matchedTo]
      · simp [StoredStatementLine.matchedTo, same]
  · simp only [reconciliation, payments, Rows.replace, List.map_map]
    refine List.map_congr_left fun row chosen => ?_
    by_cases same : row.id = payment.id
    · have stored' := (List.mem_filter.mp chosen).1
      obtain rfl := List.inj_on_of_nodup_map paired.paymentIds stored' paid same
      simp [StoredPayment.payment, (now row.id).mpr (Or.inr rfl)]
    · have kept : after.isReconciled ctx row.id = store.isReconciled ctx row.id := by
        rw [Bool.eq_iff_iff, now row.id]
        exact or_iff_left same
      simp [StoredPayment.payment, kept, same]

theorem Paired.matched_pair (paired : store.Paired) (request : MatchRequest) (ctx : Context) :
    (store.matched request).reconciliation ctx = store.reconciliation ctx ∨
      ∃ pairing, (store.reconciliation ctx).matchPair pairing =
        .ok ((store.matched request).reconciliation ctx) := by
  have payments := store.matched_payments request
  rcases store.matched_lines request with
    same | ⟨old, stored, payment, paid, mark, fits, free, untaken, written⟩
  · refine Or.inl (reconciliation_eq payments ?_)
    rw [reconciliation, same, reconciliation]
  by_cases mine : old.tenant = ctx.tenant
  · have unpaid : store.isReconciled ctx payment.id = false := by
      rw [Bool.eq_false_iff, ne_eq, isReconciled_iff]
      rintro ⟨other, present, tenant, found⟩
      exact untaken other present (tenant.trans mine.symm) found
    have line_in : old.line ∈ (store.reconciliation ctx).lines :=
      List.mem_map_of_mem (List.mem_filter.mpr ⟨stored, decide_eq_true mine⟩)
    have payment_in : payment.payment (store.isReconciled ctx payment.id) ∈
        (store.reconciliation ctx).payments :=
      List.mem_map_of_mem (f := fun row => row.payment (store.isReconciled ctx row.id))
        (List.mem_filter.mpr ⟨paid, decide_eq_true (fits.tenant.trans mine)⟩)
    have candidate : old.line.Candidate (payment.payment (store.isReconciled ctx payment.id)) :=
      ⟨by rw [StatementLine.isReconciled, free]; rfl, unpaid, fits.bank.symm, fits.posted,
        fits.amount⟩
    rw [reconciliation_written paired stored mine free paid payments written]
    exact Or.inr ⟨_, matchPair_candidate paired.distinct line_in payment_in candidate ctx.user⟩
  · exact Or.inl (reconciliation_other paired.lineIds stored mine payments written)

theorem Paired.matchAll_pairs (paired : store.Paired) (requests : List MatchRequest)
    (ctx : Context) : ∃ pairings, (store.reconciliation ctx).matchPairs pairings =
      .ok ((store.matchAll requests).reconciliation ctx) := by
  induction requests generalizing store with
  | nil => exact ⟨[], rfl⟩
  | cons request rest ih =>
    obtain ⟨pairings, others⟩ := ih (paired.matched request)
    rcases paired.matched_pair request ctx with same | ⟨pairing, first⟩
    · rw [same] at others
      exact ⟨pairings, others⟩
    · refine ⟨pairing :: pairings, ?_⟩
      rw [matchPairs, first]
      exact others

end Store

end Countinghouse
