import Countinghouse.Proofs.Decimal.Exact
import Countinghouse.Proofs.Store.Placed

/-! # The ledger balance of an account

A bank account is reconciled against the lines that were posted to its ledger account up to a
date; the balances of periods are what was added on each posting.  At the end of a period the
two come to the same: the lines up to that day are those of the journals in the periods that have
ended, and each of these periods has them in its balance. -/

set_option autoImplicit false

namespace Countinghouse

def Line.net (line : Line) : Int := line.debit.grains - line.credit.grains

def StoredBalance.net (row : StoredBalance) : Int :=
  row.balance.debit.grains - row.balance.credit.grains

namespace Store

variable {store : Store} {ctx : Context} {account : AccountId} {asOf : Date}

def postedUpTo (store : Store) (ctx : Context) (asOf : Date) : List Journal :=
  store.journals.filter fun row =>
    row.tenant = ctx.tenant && row.state.status = .posted && row.date ≤ asOf

def ledgerLines (store : Store) (ctx : Context) (account : AccountId) (asOf : Date) : List Line :=
  (store.journalLines.filter fun row =>
    ((store.postedUpTo ctx asOf).map (·.id)).contains row.journal &&
      row.line.account = account).map (·.line)

def endedBy (store : Store) (ctx : Context) (asOf : Date) : List StoredPeriod :=
  store.periods.filter fun row => row.tenant = ctx.tenant && row.period.finish ≤ asOf

def netOn (store : Store) (period : PeriodId) (account : AccountId) : Int :=
  ((store.balancesOn period account).map StoredBalance.net).sum

/-! ## The journals of the ended periods -/

theorem Placed.past_period (placed : store.Placed) (keyed : store.Keyed) {last : StoredPeriod}
    (ends : last ∈ store.periods) (ofTenant : last.tenant = ctx.tenant) {journal : Journal}
    (stored : journal ∈ store.journals) :
    journal.tenant = ctx.tenant ∧ journal.date ≤ last.period.finish ↔
      journal.period ∈ (store.endedBy ctx last.period.finish).map (·.period.id) := by
  obtain ⟨row, present, inTenant, isIt, contains⟩ := placed.within journal stored
  simp only [endedBy, List.mem_map, List.mem_filter, Bool.and_eq_true, decide_eq_true_eq]
  constructor
  · rintro ⟨mine, past⟩
    have sameTenant : row.tenant = last.tenant := by rw [inTenant, mine, ofTenant]
    exact ⟨row, ⟨present, inTenant.trans mine,
      (placed.past_iff keyed ends present sameTenant contains).mp past⟩, isIt⟩
  · rintro ⟨other, ⟨present', mine, ended⟩, isIt'⟩
    obtain rfl := List.inj_on_of_nodup_map keyed.periods present present' (isIt.trans isIt'.symm)
    exact ⟨inTenant.symm.trans mine,
      (placed.past_iff keyed ends present (mine.trans ofTenant.symm) contains).mpr ended⟩

theorem Placed.postedUpTo_perm (placed : store.Placed) (keyed : store.Keyed)
    {last : StoredPeriod} (ends : last ∈ store.periods) (ofTenant : last.tenant = ctx.tenant) :
    (store.postedUpTo ctx last.period.finish).Perm
      ((store.endedBy ctx last.period.finish).flatMap fun row => store.postedIn row.period.id) := by
  have distinct : ((store.endedBy ctx last.period.finish).map (·.period.id)).Nodup :=
    keyed.periods.sublist (List.filter_sublist.map _)
  have byPeriod := Rows.filter_keys_perm (·.period) distinct
    (store.journals.filter fun journal => journal.state.status = .posted)
  have chosen : store.postedUpTo ctx last.period.finish =
      (store.journals.filter fun journal => journal.state.status = .posted).filter
        fun journal => journal.period ∈
          (store.endedBy ctx last.period.finish).map (·.period.id) := by
    rw [postedUpTo, List.filter_filter]
    refine List.filter_congr fun journal stored => ?_
    rw [Bool.eq_iff_iff]
    have past := placed.past_period keyed ends ofTenant stored
    simp only [Bool.and_eq_true, decide_eq_true_eq, ← past]
    tauto
  rw [chosen]
  refine byPeriod.trans (.of_eq ?_)
  rw [List.flatMap_map]
  refine List.flatMap_congr fun row _ => ?_
  rw [postedIn, List.filter_filter]
  refine List.filter_congr fun journal _ => ?_
  rw [Bool.and_comm]

/-! ## The lines of the ended periods -/

theorem Placed.ledgerLines_perm (placed : store.Placed) (keyed : store.Keyed)
    {last : StoredPeriod} (ends : last ∈ store.periods) (ofTenant : last.tenant = ctx.tenant)
    (account : AccountId) :
    (store.ledgerLines ctx account last.period.finish).Perm
      ((store.endedBy ctx last.period.finish).flatMap fun row =>
        store.linesOn row.period.id account) := by
  have distinct : ((store.postedUpTo ctx last.period.finish).map (·.id)).Nodup :=
    keyed.journals.sublist (List.filter_sublist.map _)
  have byJournal := (Rows.filter_keys_perm (·.journal) distinct store.journalLines).map (·.line)
  have byPeriod := (placed.postedUpTo_perm keyed ends ofTenant).flatMap_right fun journal =>
    (rowsOf journal.id store.journalLines).map (·.line)
  rw [List.flatMap_assoc] at byPeriod
  rw [List.flatMap_map, List.map_flatMap] at byJournal
  have chosen : store.ledgerLines ctx account last.period.finish =
      ((store.journalLines.filter fun row =>
        row.journal ∈ (store.postedUpTo ctx last.period.finish).map (·.id)).map (·.line)).filter
          (·.account = account) := by
    rw [ledgerLines, List.filter_map, List.filter_filter]
    refine congrArg (List.map _) (List.filter_congr fun row _ => ?_)
    rw [List.contains_eq_mem, Bool.and_comm]
    rfl
  have together := (byJournal.trans byPeriod).filter (·.account = account)
  rw [List.filter_flatMap] at together
  rw [chosen]
  exact together

/-! ## Sums -/

theorem sum_net (lines : List Line) : (lines.map Line.net).sum =
    (lines.map (·.debit.grains)).sum - (lines.map (·.credit.grains)).sum := by
  induction lines with
  | nil => rfl
  | cons line rest ih =>
    simp only [List.map_cons, List.sum_cons, ih, Line.net]
    omega

theorem netOn_eq (store : Store) (period : PeriodId) (account : AccountId) :
    store.netOn period account =
      ((store.balancesOn period account).map (·.balance.debit.grains)).sum -
        ((store.balancesOn period account).map (·.balance.credit.grains)).sum := by
  rw [netOn]
  induction store.balancesOn period account with
  | nil => rfl
  | cons row rest ih =>
    simp only [List.map_cons, List.sum_cons, ih, StoredBalance.net]
    omega

theorem InBalance.sum_linesOn_net (inBalance : store.InBalance) (period : PeriodId)
    (account : AccountId) :
    ((store.linesOn period account).map Line.net).sum = store.netOn period account := by
  have sums := (inBalance.tally.agree period).sums (· = account)
  rw [sum_linesOn, sum_balancesOn] at sums
  obtain ⟨debits, credits⟩ := Prod.mk.inj sums
  rw [sum_net, netOn_eq, debits, credits]

theorem InBalance.sum_periods (inBalance : store.InBalance) (account : AccountId)
    (periods : List StoredPeriod) :
    ((periods.flatMap fun row => store.linesOn row.period.id account).map Line.net).sum =
      (periods.map fun row => store.netOn row.period.id account).sum := by
  induction periods with
  | nil => rfl
  | cons row rest ih =>
    rw [List.flatMap_cons, List.map_append, List.sum_append, ih, inBalance.sum_linesOn_net,
      List.map_cons, List.sum_cons]

/-! ## The sum as it is computed -/

def turnover (lines : List Line) : Int :=
  (lines.map fun line => line.debit.grains + line.credit.grains).sum

theorem turnover_nonneg {lines : List Line} (amounts : ∀ line ∈ lines, line.entry.Amounts) :
    0 ≤ turnover lines := by
  refine List.sum_nonneg ?_
  rw [List.forall_mem_map]
  intro line present
  have amounts := amounts line present
  exact add_nonneg amounts.1.1 amounts.2.1

theorem netOf_exact {acc : Decimal} {lines : List Line}
    (amounts : ∀ line ∈ lines, line.entry.Amounts) (columnar : 10 ^ 24 ∣ acc.grains)
    (small : acc.grains.natAbs + turnover lines < Decimal.exactLimit) :
    ∃ net, netOf acc lines = .ok net ∧ net.grains = acc.grains + (lines.map Line.net).sum := by
  induction lines generalizing acc with
  | nil => exact ⟨acc, rfl, (add_zero _).symm⟩
  | cons line rest ih =>
    obtain ⟨⟨⟨debit_nonneg, debit_columnar⟩, credit_nonneg, credit_columnar⟩, others⟩ :=
      List.forall_mem_cons.mp amounts
    have later := turnover_nonneg others
    have first : turnover (line :: rest) =
        line.debit.grains + line.credit.grains + turnover rest := rfl
    simp only [Line.entry] at debit_nonneg debit_columnar credit_nonneg credit_columnar
    obtain ⟨debited, plus, debited_eq, columnar⟩ :=
      Decimal.plus_exact_of_lt columnar debit_columnar (by omega)
    obtain ⟨credited, minus, credited_eq, columnar⟩ :=
      Decimal.minus_exact_of_lt columnar credit_columnar (by omega)
    obtain ⟨net, summed, net_eq⟩ := ih others columnar (by omega)
    refine ⟨net, ?_, ?_⟩
    · rw [netOf, plus]
      simp only [bind, Except.bind, minus]
      exact summed
    · rw [net_eq, List.map_cons, List.sum_cons, Line.net]
      omega

theorem systemBalance_eq (reachable : ctx.outage = .none) :
    store.systemBalance ctx account asOf =
      match netOf .zero (store.ledgerLines ctx account asOf) with
      | .ok net => .ok net
      | .error _ => .error .overflow := by
  have lines : ctx.use .journalLines = .ok () := by simp [Context.use, reachable, Outage.Covers]
  have journals : ctx.use .journals = .ok () := by simp [Context.use, reachable, Outage.Covers]
  unfold systemBalance
  rw [lines, journals]
  rfl

theorem InBalance.ledgerLines_amounts (inBalance : store.InBalance) :
    ∀ line ∈ store.ledgerLines ctx account asOf, line.entry.Amounts := by
  rw [ledgerLines, List.forall_mem_map]
  intro row chosen
  have present := (List.mem_filter.mp chosen).1
  obtain ⟨journal, stored, isOf⟩ := inBalance.filed.owned row present
  have own : row ∈ rowsOf journal.id store.journalLines :=
    List.mem_filter.mpr ⟨present, decide_eq_true isOf.symm⟩
  exact (inBalance.filed.booked journal stored).amounts _ (List.mem_map_of_mem own)

/-! ## Runs -/

/-- Journals lie in their periods.  At the end of a period, the posted lines of an account up to
that day come to what the balances of all periods do that have ended, and this is what its ledger
balance shows. -/
structure LedgerAgrees (store : Store) : Prop where
  within : ∀ journal ∈ store.journals, store.Within journal.tenant journal.period journal.date
  sums : ∀ (ctx : Context) (account : AccountId), ∀ last ∈ store.periods,
    last.tenant = ctx.tenant →
      ((store.ledgerLines ctx account last.period.finish).map Line.net).sum =
        ((store.endedBy ctx last.period.finish).map fun row =>
          store.netOn row.period.id account).sum
  shown : ∀ (ctx : Context) (account : AccountId), ∀ last ∈ store.periods,
    last.tenant = ctx.tenant → ctx.outage = .none →
      turnover (store.ledgerLines ctx account last.period.finish) < Decimal.exactLimit →
        ∃ net, store.systemBalance ctx account last.period.finish = .ok net ∧
          net.grains = ((store.endedBy ctx last.period.finish).map fun row =>
            store.netOn row.period.id account).sum

theorem Placed.ledgerAgrees (placed : store.Placed) (keyed : store.Keyed)
    (inBalance : store.InBalance) : store.LedgerAgrees := by
  have sums : ∀ (ctx : Context) (account : AccountId), ∀ last ∈ store.periods,
      last.tenant = ctx.tenant →
        ((store.ledgerLines ctx account last.period.finish).map Line.net).sum =
          ((store.endedBy ctx last.period.finish).map fun row =>
            store.netOn row.period.id account).sum := by
    intro ctx account last ends ofTenant
    have perm := placed.ledgerLines_perm keyed ends ofTenant account
    exact (perm.map Line.net).sum_eq.trans (inBalance.sum_periods account _)
  refine ⟨placed.within, sums, ?_⟩
  intro ctx account last ends ofTenant reachable small
  have small' : Decimal.zero.grains.natAbs +
      turnover (store.ledgerLines ctx account last.period.finish) < Decimal.exactLimit := by
    rw [Decimal.grains_zero]
    simpa using small
  obtain ⟨net, summed, exact⟩ :=
    netOf_exact inBalance.ledgerLines_amounts Decimal.zero_columnar small'
  refine ⟨net, ?_, ?_⟩
  · rw [systemBalance_eq reachable, summed]
  · rw [exact, Decimal.grains_zero, zero_add, sums ctx account last ends ofTenant]

/-- From books without periods, journals and balances, whatever is attempted, by anyone and in
any order, the ledger balance of an account at the end of a period is the sum of its balances in
all periods that have ended. -/
theorem run_ledger_agrees (store : Store) (periods : store.periods = [])
    (journals : store.journals = []) (balances : store.balances = [])
    (owned : ∀ row ∈ store.journalLines, ∃ journal ∈ store.journals, journal.id = row.journal)
    (attempts : List Attempt) : (store.run attempts).LedgerAgrees := by
  have keyed : store.Keyed := by
    constructor
    · simp [journals]
    · simp [periods]
  have placed := (placed_of_empty periods journals).run keyed attempts
  have inBalance := (inBalance_of_empty journals balances owned).run attempts
  exact placed.ledgerAgrees (keyed.run attempts) inBalance

def newLedger : Store :=
  { newBooks with
    rolePermissions := newBooks.rolePermissions ++
      [⟨Id.ofNat 1, Id.ofNat 1, Permission.code .periodClose⟩]
    periods := [] }

def newLedgerAttempts : List Attempt :=
  let day (i : Fin 100) : Date := ⟨20000 + i, by omega, by omega⟩
  let amount (units : Fin 100) : Decimal := ⟨units, 0, Decimal.zero.scale_le, by omega⟩
  let lines (units : Fin 100) : List Line :=
    [⟨Id.ofNat 1, amount units, .zero, none, .none⟩,
      ⟨Id.ofNat 2, .zero, amount units, none, .none⟩]
  let ask (user base : Nat) (command : Command) : Attempt :=
    ⟨⟨Id.ofNat 1, Id.ofNat user, ⟨1728000000⟩, base, .default, .none⟩, command⟩
  let post (base : Nat) (date : Date) (lines : List Line) : List Attempt :=
    [ask 1 base (.createJournal ⟨date, none, lines⟩),
      ask 1 (base + 10) (.submitJournal (Id.ofNat (base + 1))),
      ask 2 (base + 20) (.approveJournal (Id.ofNat (base + 1))),
      ask 1 (base + 30) (.postJournal (Id.ofNat (base + 1)))]
  [ask 1 0 (.createPeriod ⟨none, day 0, day 9⟩),
    ask 1 100 (.createPeriod ⟨none, day 10, day 19⟩)] ++
    post 200 (day 5) (lines 60) ++ post 300 (day 15) (lines 70)

theorem newLedger_agrees :
    ((newLedger.run newLedgerAttempts).periods.map fun row =>
        ((newLedger.run newLedgerAttempts).systemBalance
          ⟨Id.ofNat 1, Id.ofNat 1, ⟨1728000000⟩, 0, .default, .none⟩ (Id.ofNat 1)
          row.period.finish).map (·.grains)) = [.ok (60 * 10 ^ 28), .ok (130 * 10 ^ 28)] ∧
      (newLedger.run newLedgerAttempts).LedgerAgrees := by
  refine ⟨by cbv, ?_⟩
  exact run_ledger_agrees newLedger rfl rfl rfl (List.forall_mem_nil _) newLedgerAttempts

end Store

end Countinghouse
