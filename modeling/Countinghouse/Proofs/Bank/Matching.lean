import Countinghouse.Proofs.Store.Rows
import Countinghouse.Proofs.Success
import Countinghouse.Store.Banking

/-! # Matches one to one

Lines are matched in any order, by anyone and whatever they are granted at the time.
A payment is never matched to two lines, a match is final, and it stays within one
bank account.  This last fact is what makes the two readings of a payment agree: that
a line of the tenant is matched to it, and that a line of its bank account is. -/

set_option autoImplicit false

namespace Countinghouse

/-- A request to match a line, with the grants in force when it is made. -/
structure MatchRequest where
  ctx : Context
  userRoles : List StoredAssignment
  rolePermissions : List StoredGrant
  line : StatementLineId
  payment : PaymentId

theorem StatementLine.matchTo_ok_iff {line : StatementLine} {payment : Payment} {actor : UserId}
    {held : PermissionSet} {made : Match} :
    line.matchTo payment actor held = .ok made ↔
      .bankReconcile ∈ held ∧ line.Candidate payment ∧ made = ⟨line.id, payment.id, actor⟩ := by
  simp only [matchTo, Candidate, liftM, monadLift, MonadLift.monadLift, bind_ok_iff,
    mapError_ok_iff, pure_ok_iff, require_ok_iff, ite_ok_iff, throw_ok_iff, exists_const,
    false_and, and_false, false_or, and_assoc, Bool.not_eq_true, Decidable.not_not, ne_eq]

theorem Bank.adjustmentLines_permitted {difference : Decimal} {matchable : Nat}
    {bank offset : AccountId} {held : PermissionSet} {lines : List Line}
    (accepted : adjustmentLines difference matchable bank offset held = .ok lines) :
    .bankReconcile ∈ held := by
  simp only [adjustmentLines, liftM, monadLift, MonadLift.monadLift, bind_ok_iff, mapError_ok_iff,
    require_ok_iff, exists_const] at accepted
  exact accepted.1

namespace StoredStatementLine

/-- The payment is one that the line could be matched to if both were free. -/
structure Fits (row : StoredStatementLine) (payment : StoredPayment) : Prop where
  tenant : payment.tenant = row.tenant
  bank : payment.bank = row.line.bank
  amount : row.line.amount.Same payment.amount
  posted : payment.status = .posted

def matchedTo (row : StoredStatementLine) (payment : PaymentId) (mark : Mark) :
    StoredStatementLine :=
  { row with line := { row.line with matched := some payment }, mark := some mark }

end StoredStatementLine

namespace Store

def granting (store : Store) (request : MatchRequest) : Store :=
  { store with userRoles := request.userRoles, rolePermissions := request.rolePermissions }

def matched (store : Store) (request : MatchRequest) : Store :=
  match (store.granting request).matchLine request.ctx request.line request.payment with
  | .ok (after, _) => after
  | .error _ => store.granting request

def matchAll (store : Store) : List MatchRequest → Store
  | [] => store
  | request :: rest => (store.matched request).matchAll rest

/-- No payment is matched to two lines, and each match fits. -/
structure Paired (store : Store) : Prop where
  lineIds : (store.statementLines.map (·.line.id)).Nodup
  paymentIds : (store.payments.map (·.id)).Nodup
  fits : ∀ row ∈ store.statementLines, ∀ id, row.line.matched = some id →
    ∃ payment ∈ store.payments, payment.id = id ∧ row.Fits payment
  once : ∀ row ∈ store.statementLines, ∀ other ∈ store.statementLines, ∀ id,
    row.line.matched = some id → other.line.matched = some id → row = other

/-! ## One match -/

theorem isReconciled_iff {store : Store} {ctx : Context} {id : PaymentId} :
    store.isReconciled ctx id = true ↔
      ∃ row ∈ store.statementLines, row.tenant = ctx.tenant ∧ row.line.matched = some id := by
  simp [isReconciled]

/-- A line and a payment of the tenant that fit each other are both free, and may be matched. -/
structure Matches (store : Store) (ctx : Context) (old : StoredStatementLine)
    (payment : StoredPayment) : Prop where
  permitted : ∃ held, store.permissions ctx ctx.user = .ok held ∧ .bankReconcile ∈ held
  stored : old ∈ store.statementLines
  paid : payment ∈ store.payments
  fits : old.Fits payment
  free : old.line.matched = none
  untaken : ∀ other ∈ store.statementLines, other.tenant = old.tenant →
    other.line.matched ≠ some payment.id

theorem matchLine_ok {store after : Store} {ctx : Context} {lineId : StatementLineId}
    {paymentId : PaymentId} {row : StoredStatementLine}
    (accepted : store.matchLine ctx lineId paymentId = .ok (after, row)) :
    ∃ old payment, store.Matches ctx old payment ∧
      after = { store with
        statementLines := Rows.replace (·.line.id)
          (old.matchedTo payment.id ⟨ctx.user, ctx.now⟩) store.statementLines } := by
  simp only [matchLine, liftM, monadLift, MonadLift.monadLift, bind_ok_iff,
    mapError_ok_iff] at accepted
  obtain ⟨_, _, accepted⟩ := accepted
  split at accepted
  case h_2 => simp only [bind_ok_iff, throw_ok_iff, false_and, exists_false] at accepted
  rename_i old lineFound
  simp only [bind_ok_iff, pure_ok_iff, mapError_ok_iff, exists_eq_left] at accepted
  obtain ⟨_, _, accepted⟩ := accepted
  split at accepted
  case h_2 => simp only [bind_ok_iff, throw_ok_iff, false_and, exists_false] at accepted
  rename_i payment paymentFound
  simp only [bind_ok_iff, pure_ok_iff, mapError_ok_iff, exists_eq_left,
    StatementLine.matchTo_ok_iff, Prod.mk.injEq] at accepted
  obtain ⟨held, read, _, ⟨permitted, candidate, rfl⟩, rfl, _⟩ := accepted
  obtain ⟨_, tenant⟩ : _ ∧ old.tenant = ctx.tenant := by simpa using List.find?_some lineFound
  obtain ⟨rfl, tenant'⟩ : payment.id = paymentId ∧ payment.tenant = ctx.tenant := by
    simpa using List.find?_some paymentFound
  obtain ⟨lineFree, paymentFree, bank, posted, amount⟩ := candidate
  refine ⟨old, payment, ⟨⟨held, read, permitted⟩, List.mem_of_find?_eq_some lineFound,
    List.mem_of_find?_eq_some paymentFound, ⟨?_, bank.symm, amount, posted⟩, ?_, ?_⟩, rfl⟩
  · exact tenant'.trans tenant.symm
  · simpa [StatementLine.isReconciled] using lineFree
  · intro other present same taken
    have reconciled := isReconciled_iff.mpr ⟨other, present, same.trans tenant, taken⟩
    exact Bool.false_ne_true (paymentFree.symm.trans reconciled)

theorem matched_payments (store : Store) (request : MatchRequest) :
    (store.matched request).payments = store.payments := by
  unfold matched
  cases asked : (store.granting request).matchLine request.ctx request.line request.payment with
  | error refusal => rfl
  | ok result =>
    obtain ⟨after, row⟩ := result
    obtain ⟨old, payment, _, rfl⟩ := matchLine_ok asked
    rfl

theorem matched_lines (store : Store) (request : MatchRequest) :
    (store.matched request).statementLines = store.statementLines ∨
      ∃ old ∈ store.statementLines, ∃ payment ∈ store.payments, ∃ mark,
        old.Fits payment ∧ old.line.matched = none ∧
        (∀ other ∈ store.statementLines, other.tenant = old.tenant →
          other.line.matched ≠ some payment.id) ∧
        (store.matched request).statementLines =
          Rows.replace (·.line.id) (old.matchedTo payment.id mark) store.statementLines := by
  unfold matched
  cases asked : (store.granting request).matchLine request.ctx request.line request.payment with
  | error refusal => exact Or.inl rfl
  | ok result =>
    obtain ⟨after, row⟩ := result
    obtain ⟨old, payment, made, rfl⟩ := matchLine_ok asked
    exact Or.inr ⟨old, made.stored, payment, made.paid, ⟨request.ctx.user, request.ctx.now⟩,
      made.fits, made.free, made.untaken, rfl⟩

theorem Paired.matched {store : Store} (paired : store.Paired) (request : MatchRequest) :
    (store.matched request).Paired := by
  have payments := store.matched_payments request
  rcases store.matched_lines request with
    same | ⟨old, stored, payment, paid, mark, fits, free, untaken, written⟩
  · constructor
    · rw [same]; exact paired.lineIds
    · rw [payments]; exact paired.paymentIds
    · rw [same, payments]; exact paired.fits
    · rw [same]; exact paired.once
  -- A line that has the payment already would be one of this tenant: the payment is.
  have unpaid : ∀ other ∈ store.statementLines, other.line.matched ≠ some payment.id := by
    intro other present taken
    obtain ⟨payment', paid', sameId, fits'⟩ := paired.fits other present payment.id taken
    obtain rfl := List.inj_on_of_nodup_map paired.paymentIds paid' paid sameId
    exact untaken other present (fits'.tenant.symm.trans fits.tenant) taken
  have present_iff :=
    Rows.mem_replace_iff (·.line.id) (old.matchedTo payment.id mark) stored rfl
  constructor
  · rw [written, Rows.keys_replace]
    exact paired.lineIds
  · rw [payments]
    exact paired.paymentIds
  · rw [written, payments]
    intro row present id found
    rcases (present_iff row).mp present with rfl | ⟨before, _⟩
    · obtain rfl : payment.id = id := by simpa [StoredStatementLine.matchedTo] using found
      exact ⟨payment, paid, rfl, fits.tenant, fits.bank, fits.amount, fits.posted⟩
    · exact paired.fits row before id found
  · rw [written]
    intro row present other present' id found found'
    rcases (present_iff row).mp present with rfl | ⟨before, _⟩ <;>
      rcases (present_iff other).mp present' with rfl | ⟨before', _⟩
    · rfl
    · obtain rfl : payment.id = id := by simpa [StoredStatementLine.matchedTo] using found
      exact absurd found' (unpaid other before')
    · obtain rfl : payment.id = id := by simpa [StoredStatementLine.matchedTo] using found'
      exact absurd found (unpaid row before)
    · exact paired.once row before other before' id found found'

theorem Paired.keeps {store : Store} (paired : store.Paired) (request : MatchRequest)
    {row : StoredStatementLine} (stored : row ∈ store.statementLines)
    (reconciled : row.line.matched ≠ none) : row ∈ (store.matched request).statementLines := by
  rcases store.matched_lines request with same | ⟨old, stored', _, _, mark, _, free, _, written⟩
  · rw [same]
    exact stored
  · rw [written]
    apply (Rows.mem_replace_iff (·.line.id) (old.matchedTo _ mark) stored' rfl row).mpr
    refine Or.inr ⟨stored, fun equal => ?_⟩
    obtain rfl := List.inj_on_of_nodup_map paired.lineIds stored stored' equal
    exact reconciled free

/-! ## Runs -/

theorem Paired.matchAll {store : Store} (paired : store.Paired) (requests : List MatchRequest) :
    (store.matchAll requests).Paired := by
  induction requests generalizing store with
  | nil => exact paired
  | cons request rest ih => exact ih (paired.matched request)

theorem Paired.keeps_all {store : Store} (paired : store.Paired) {row : StoredStatementLine}
    (stored : row ∈ store.statementLines) (reconciled : row.line.matched ≠ none)
    (requests : List MatchRequest) : row ∈ (store.matchAll requests).statementLines := by
  induction requests generalizing store with
  | nil => exact stored
  | cons request rest ih =>
    exact ih (paired.matched request) (paired.keeps request stored reconciled)

/-! ## The two readings of a payment -/

def bankLines (store : Store) (ctx : Context) (bank : BankAccountId) : List StatementLine :=
  (store.statementLines.filter fun row =>
    row.tenant = ctx.tenant && row.line.bank = bank).map (·.line)

/-- The position of a bank account takes a payment for reconciled when one of the
account's own lines is matched to it. -/
theorem mem_bankPosition {store : Store} {ctx : Context} {bank : BankAccountId}
    {position : BankPosition} (loaded : store.bankPosition ctx bank = .ok position)
    (payment : Payment) :
    payment ∈ position.payments ↔ ∃ row ∈ store.payments, row.tenant = ctx.tenant ∧
      row.bank = bank ∧ row.payment
        ((StatementLine.matchedPayments (store.bankLines ctx bank)).contains row.id) = payment := by
  have sorted := List.mergeSort_perm (store.bankLines ctx bank) fun a b => decide (a.date ≤ b.date)
  have same := fun id : PaymentId => (sorted.filterMap (·.matched)).contains_eq (a := id)
  simp only [bankPosition, liftM, monadLift, MonadLift.monadLift, bind_ok_iff,
    mapError_ok_iff] at loaded
  obtain ⟨_, _, loaded⟩ := loaded
  split at loaded
  case h_2 => simp only [bind_ok_iff, throw_ok_iff, false_and, exists_false] at loaded
  simp only [bind_ok_iff, pure_ok_iff, mapError_ok_iff, exists_eq_left] at loaded
  obtain ⟨_, _, _, _, rfl⟩ := loaded
  simp only [bankLines] at same
  simp only [StatementLine.matchedPayments, bankLines, same, List.mem_map, List.mem_mergeSort,
    List.mem_filter, Bool.and_eq_true, decide_eq_true_eq, and_assoc]

/-- A match stays within its bank account, so the lines of the account tell as much of
a payment of it as all lines of the tenant. -/
theorem Paired.readings_agree {store : Store} (paired : store.Paired) (ctx : Context)
    {row : StoredPayment} (stored : row ∈ store.payments) (tenant : row.tenant = ctx.tenant) :
    (StatementLine.matchedPayments (store.bankLines ctx row.bank)).contains row.id =
      store.isReconciled ctx row.id := by
  rw [Bool.eq_iff_iff, isReconciled_iff, List.contains_iff_mem, StatementLine.matchedPayments,
    List.mem_filterMap]
  simp only [bankLines, List.mem_map, List.mem_filter, Bool.and_eq_true, decide_eq_true_eq]
  constructor
  · rintro ⟨_, ⟨line, ⟨present, sameTenant, _⟩, rfl⟩, found⟩
    exact ⟨line, present, sameTenant, found⟩
  · rintro ⟨line, present, sameTenant, found⟩
    obtain ⟨payment, stored', sameId, fits⟩ := paired.fits line present row.id found
    obtain rfl := List.inj_on_of_nodup_map paired.paymentIds stored' stored sameId
    exact ⟨line.line, ⟨line, ⟨present, sameTenant, fits.bank.symm⟩, rfl⟩, found⟩

theorem paired_of_unmatched {store : Store}
    (lineIds : (store.statementLines.map (·.line.id)).Nodup)
    (paymentIds : (store.payments.map (·.id)).Nodup)
    (unmatched : ∀ row ∈ store.statementLines, row.line.matched = none) : store.Paired where
  lineIds := lineIds
  paymentIds := paymentIds
  fits row present id found := by simp [unmatched row present] at found
  once row present _ _ id found := by simp [unmatched row present] at found

/-- Matches are one to one and fit, they are final, and the position of every bank
account takes the same payments for reconciled as a request to match does. -/
theorem matchAll_one_to_one (store : Store)
    (lineIds : (store.statementLines.map (·.line.id)).Nodup)
    (paymentIds : (store.payments.map (·.id)).Nodup)
    (unmatched : ∀ row ∈ store.statementLines, row.line.matched = none)
    (requests : List MatchRequest) :
    (store.matchAll requests).Paired ∧
      (∀ row ∈ (store.matchAll requests).statementLines, row.line.matched ≠ none →
        ∀ more, row ∈ ((store.matchAll requests).matchAll more).statementLines) ∧
      (∀ ctx, ∀ row ∈ (store.matchAll requests).payments, row.tenant = ctx.tenant →
        (StatementLine.matchedPayments
          ((store.matchAll requests).bankLines ctx row.bank)).contains row.id =
            (store.matchAll requests).isReconciled ctx row.id) ∧
      (∀ ctx bank position, (store.matchAll requests).bankPosition ctx bank = .ok position →
        ∀ payment, payment ∈ position.payments ↔
          ∃ row ∈ (store.matchAll requests).payments, row.tenant = ctx.tenant ∧ row.bank = bank ∧
            row.payment ((store.matchAll requests).isReconciled ctx row.id) = payment) := by
  have paired := (paired_of_unmatched lineIds paymentIds unmatched).matchAll requests
  refine ⟨paired, ?_, ?_, ?_⟩
  · intro row stored reconciled more
    exact paired.keeps_all stored reconciled more
  · intro ctx row stored tenant
    exact paired.readings_agree ctx stored tenant
  · intro ctx bank position loaded payment
    rw [mem_bankPosition loaded]
    constructor
    · rintro ⟨row, stored, tenant, rfl, rfl⟩
      exact ⟨row, stored, tenant, rfl, by rw [paired.readings_agree ctx stored tenant]⟩
    · rintro ⟨row, stored, tenant, rfl, rfl⟩
      exact ⟨row, stored, tenant, rfl, by rw [paired.readings_agree ctx stored tenant]⟩

def transferDay : Date := ⟨20001, by decide, by decide⟩

def fifty : Decimal := ⟨50, 0, Decimal.zero.scale_le, by decide⟩

def fiftyInMills : Decimal := ⟨50000, 3, by decide, by decide⟩

/-- Two bank accounts, the first with two lines and the second with one, all of fifty,
and a payment of fifty from each. -/
def twoBanks : Store :=
  let line (id bank : Nat) (amount : Decimal) : StoredStatementLine :=
    ⟨Id.ofNat 1, ⟨Id.ofNat id, Id.ofNat bank, transferDay, "transfer", amount, none⟩, none⟩
  let payment (id bank : Nat) : StoredPayment :=
    ⟨Id.ofNat id, Id.ofNat 1, Id.ofNat bank, transferDay, fifty, .posted⟩
  { Store.empty with
    statementLines := [line 1 1 fifty, line 2 1 fiftyInMills, line 3 2 fifty]
    payments := [payment 1 1, payment 2 2] }

/-- A match is tried across bank accounts, made, tried again on another line, and made
in the other bank account. -/
def twoBanksRequests : List MatchRequest :=
  let ask (user line payment : Nat) : MatchRequest :=
    ⟨⟨Id.ofNat 1, Id.ofNat user, ⟨0⟩, 1, .default, .none⟩,
      [⟨Id.ofNat 1, Id.ofNat user, Id.ofNat 1⟩],
      [⟨Id.ofNat 1, Id.ofNat 1, "bank.reconcile"⟩], Id.ofNat line, Id.ofNat payment⟩
  [ask 1 3 1, ask 1 2 1, ask 2 1 1, ask 2 3 2]

theorem twoBanks_one_to_one :
    ((twoBanks.matchAll twoBanksRequests).statementLines.map fun row => row.line.matched) =
        [none, some (Id.ofNat 1), some (Id.ofNat 2)] ∧
      (twoBanks.matchAll twoBanksRequests).Paired := by
  have outcome : ((twoBanks.matchAll twoBanksRequests).statementLines.map fun row =>
      row.line.matched) = [none, some (Id.ofNat 1), some (Id.ofNat 2)] := by decide
  exact ⟨outcome, (matchAll_one_to_one twoBanks (by decide) (by decide) (by decide)
    twoBanksRequests).1⟩

end Store

end Countinghouse
