import Countinghouse.Proofs.Journal.Entries
import Countinghouse.Proofs.Store.Reading

/-! # Tallies of balances

A table of balances is a tally of what was posted: it has one balance for a period and
an account, and the balances of each period come to the same as the entries posted into
it.  Adding deltas to a period keeps a tally, of what was posted and the deltas. -/

set_option autoImplicit false

namespace Countinghouse

namespace StoredBalance

def key (row : StoredBalance) : PeriodId × AccountId := (row.period, row.balance.account)

def entries (rows : List StoredBalance) (period : PeriodId) : List Entry :=
  (rows.filter (·.period = period)).map (·.balance.entry)

/-- There is one balance for a period and an account, and the balances of a period
agree with what was posted into it. -/
structure Tally (rows : List StoredBalance) (posted : PeriodId → List Entry) : Prop where
  keys : (rows.map key).Nodup
  amounts : ∀ row ∈ rows, row.balance.entry.Amounts
  agree : ∀ period, Entry.Agree (entries rows period) (posted period)

def booking (period : PeriodId) (more : List Entry) (posted : PeriodId → List Entry) :
    PeriodId → List Entry :=
  fun other => if other = period then more ++ posted other else posted other

theorem booking_same (period : PeriodId) (more : List Entry) (posted : PeriodId → List Entry) :
    booking period more posted period = more ++ posted period := if_pos rfl

theorem booking_other {period other : PeriodId} (differ : other ≠ period) (more : List Entry)
    (posted : PeriodId → List Entry) : booking period more posted other = posted other :=
  if_neg differ

theorem booking_agree {more more' : List Entry} (agree : Entry.Agree more more')
    (posted : PeriodId → List Entry) (period other : PeriodId) :
    Entry.Agree (booking period more posted other) (booking period more' posted other) := by
  by_cases same : other = period
  · subst same
    rw [booking_same, booking_same]
    exact agree.append (.refl _)
  · rw [booking_other same, booking_other same]
    exact .refl _

theorem booking_nil (period : PeriodId) (posted : PeriodId → List Entry) :
    booking period [] posted = posted := by
  funext other
  by_cases same : other = period
  · subst same
    exact booking_same ..
  · exact booking_other same ..

theorem booking_cons (entry : Entry) (rest : List Entry) (posted : PeriodId → List Entry)
    (period other : PeriodId) :
    Entry.Agree (booking period rest (booking period [entry] posted) other)
      (booking period (entry :: rest) posted other) := by
  by_cases same : other = period
  · subst same
    rw [booking_same, booking_same, booking_same]
    exact .of_perm List.perm_middle
  · rw [booking_other same, booking_other same, booking_other same]
    exact .refl _

theorem entries_append (first second : List StoredBalance) (period : PeriodId) :
    entries (first ++ second) period = entries first period ++ entries second period := by
  simp [entries]

theorem entries_cons_same (row : StoredBalance) (rest : List StoredBalance) :
    entries (row :: rest) row.period = row.balance.entry :: entries rest row.period := by
  simp [entries]

theorem entries_cons_other {row : StoredBalance} {period : PeriodId}
    (differ : period ≠ row.period) (rest : List StoredBalance) :
    entries (row :: rest) period = entries rest period := by
  simp [entries, differ.symm]

namespace Tally

variable {rows : List StoredBalance} {posted posted' : PeriodId → List Entry}

theorem congr (tally : Tally rows posted)
    (agree : ∀ period, Entry.Agree (posted period) (posted' period)) : Tally rows posted' :=
  ⟨tally.keys, tally.amounts, fun period => (tally.agree period).trans (agree period)⟩

theorem insert (tally : Tally rows posted) (row : StoredBalance)
    (absent : ∀ other ∈ rows, other.key ≠ row.key) (amounts : row.balance.entry.Amounts) :
    Tally (rows ++ [row]) (booking row.period [row.balance.entry] posted) where
  keys := by
    rw [List.map_append, List.map_singleton, List.nodup_append]
    refine ⟨tally.keys, List.nodup_singleton _, ?_⟩
    simpa using absent
  amounts := by
    rw [List.forall_mem_append, List.forall_mem_singleton]
    exact ⟨tally.amounts, amounts⟩
  agree period := by
    rw [entries_append]
    by_cases same : period = row.period
    · subst same
      rw [booking_same, entries_cons_same]
      exact (Entry.Agree.of_perm List.perm_append_comm).trans ((tally.agree _).cons _)
    · rw [booking_other same, entries_cons_other same]
      simpa [entries] using tally.agree period

theorem raise (tally : Tally rows posted) {old : StoredBalance} (stored : old ∈ rows)
    (row : StoredBalance) (same : row.key = old.key) {more : Int × Int}
    (raised : row.balance.entry.amount = more + old.balance.entry.amount)
    (amounts : row.balance.entry.Amounts) :
    Tally (Rows.replace key row rows)
      (booking row.period [⟨row.balance.account, more⟩] posted) where
  keys := by
    rw [Rows.keys_replace]
    exact tally.keys
  amounts other present := by
    rcases (Rows.mem_replace_iff key row stored same other).mp present with rfl | ⟨kept, _⟩
    · exact amounts
    · exact tally.amounts other kept
  agree period := by
    have agree := tally.agree period
    obtain ⟨samePeriod, sameAccount⟩ := Prod.mk.inj same
    obtain ⟨earlier, later, split, split'⟩ := Rows.replace_split tally.keys stored same
    rw [split, entries_append] at agree
    rw [split', entries_append]
    by_cases inPeriod : period = row.period
    · subst inPeriod
      rw [samePeriod, entries_cons_same, ← samePeriod] at agree
      rw [booking_same, entries_cons_same]
      have row_entry : row.balance.entry =
          ⟨row.balance.account, more + old.balance.entry.amount⟩ := by rw [← raised]; rfl
      have old_entry : old.balance.entry =
          ⟨row.balance.account, old.balance.entry.amount⟩ := by rw [sameAccount]; rfl
      have merged : Entry.Agree
          (row.balance.entry :: (entries earlier row.period ++ entries later row.period))
          (⟨row.balance.account, more⟩ :: old.balance.entry ::
            (entries earlier row.period ++ entries later row.period)) := by
        rw [row_entry, old_entry]
        exact .merge ..
      have front := (Entry.Agree.of_perm List.perm_middle).trans merged
      have back := (Entry.Agree.of_perm List.perm_middle.symm).trans agree
      exact front.trans (back.cons _)
    · rw [entries_cons_other (samePeriod ▸ inPeriod)] at agree
      rw [booking_other inPeriod, entries_cons_other inPeriod]
      exact agree

end Tally

end StoredBalance

namespace Store

open StoredBalance

variable {store after : Store} {ctx : Context} {period : PeriodId}

theorem replace_found {row : StoredBalance} {account : AccountId}
    (sameAccount : row.balance.account = account) (rows : List StoredBalance) :
    (rows.map fun other =>
        if other.period = row.period && other.balance.account = account then row else other) =
      Rows.replace key row rows := by
  refine List.map_congr_left fun other _ => ?_
  simp only [key, Prod.mk.injEq, sameAccount, Bool.and_eq_true, decide_eq_true_eq]

/-- A delta opens a balance where the period has none for the account, and is added to
the one it has otherwise. -/
theorem addDelta_ok {delta : Delta} (added : store.addDelta ctx period delta = .ok after) :
    ∃ debit credit, delta.debit.toColumn? = some debit ∧ delta.credit.toColumn? = some credit ∧
      ((∀ row ∈ store.balances, row.key ≠ (period, delta.account)) ∧
          after = { store with
            balances := store.balances ++ [⟨ctx.tenant, period, delta.account, debit, credit⟩] } ∨
        ∃ old ∈ store.balances, old.key = (period, delta.account) ∧
          ∃ debit' credit', old.balance.debit.columnAdd? debit = some debit' ∧
            old.balance.credit.columnAdd? credit = some credit' ∧
            after = { store with
              balances := Rows.replace key
                ⟨old.tenant, period, delta.account, debit', credit'⟩ store.balances }) := by
  simp only [addDelta, bind_ok_iff, column_ok_iff] at added
  obtain ⟨_, _, debit, debited, credit, credited, added⟩ := added
  refine ⟨debit, credit, debited, credited, ?_⟩
  split at added
  case h_1 absent =>
    obtain rfl := pure_ok_iff.mp added
    refine Or.inl ⟨?_, rfl⟩
    intro row present equal
    have differ := List.find?_eq_none.mp absent row present
    simp [(Prod.mk.inj equal).1, (Prod.mk.inj equal).2] at differ
  case h_2 old found =>
    split at added
    case h_2 => simp only [throw_ok_iff] at added
    rename_i debit' credit' debitAdded creditAdded
    obtain rfl := pure_ok_iff.mp added
    have stored := List.mem_of_find?_eq_some found
    obtain ⟨rfl, sameAccount⟩ : old.period = period ∧ old.balance.account = delta.account := by
      simpa using List.find?_some found
    refine Or.inr ⟨old, stored, Prod.ext rfl sameAccount, debit', credit', debitAdded,
      creditAdded, ?_⟩
    rw [← sameAccount, ← replace_found rfl, sameAccount]

/-- Adding writes balances of one period and nothing else. -/
theorem addDelta_frame {period : PeriodId} {delta : Delta}
    (added : store.addDelta ctx period delta = .ok after) :
    ∃ balances, after = { store with balances } ∧ ∀ other, other ≠ period →
      balances.filter (·.period = other) = store.balances.filter (·.period = other) := by
  obtain ⟨_, _, _, _, ⟨_, rfl⟩ | ⟨old, _, _, _, _, _, _, rfl⟩⟩ := addDelta_ok added
  · refine ⟨_, rfl, ?_⟩
    intro other differ
    rw [List.filter_append, List.filter_cons_of_neg (by simpa using differ.symm),
      List.filter_nil, List.append_nil]
  · refine ⟨_, rfl, ?_⟩
    intro other differ
    refine Rows.filter_replace (by simpa using differ.symm) ?_
    intro row _ same
    have inPeriod : row.period = period := (Prod.mk.inj same).1
    simpa [inPeriod] using differ.symm

theorem addDeltas_frame {period : PeriodId} {deltas : List Delta}
    (added : addDeltas ctx period store deltas = .ok after) :
    ∃ balances, after = { store with balances } ∧ ∀ other, other ≠ period →
      balances.filter (·.period = other) = store.balances.filter (·.period = other) := by
  induction deltas generalizing store with
  | nil =>
    obtain rfl := Except.ok.inj added
    exact ⟨store.balances, rfl, fun _ _ => rfl⟩
  | cons delta rest ih =>
    rw [addDeltas, bind_ok_iff] at added
    obtain ⟨middle, first, others⟩ := added
    obtain ⟨balances, rfl, kept⟩ := addDelta_frame first
    obtain ⟨balances', rfl, kept'⟩ := ih others
    exact ⟨balances', rfl, fun other differ => (kept' other differ).trans (kept other differ)⟩

theorem addDelta_tally {delta : Delta} {posted : PeriodId → List Entry}
    (added : store.addDelta ctx period delta = .ok after)
    (tally : Tally store.balances posted) (amounts : delta.entry.Amounts) :
    Tally after.balances (booking period [delta.entry] posted) ∧
      after = { store with balances := after.balances } := by
  obtain ⟨debit, credit, debited, credited, written⟩ := addDelta_ok added
  have exactDebit := Decimal.toColumn?_grains amounts.1.2 debited
  have exactCredit := Decimal.toColumn?_grains amounts.2.2 credited
  rcases written with ⟨absent, rfl⟩ | ⟨old, stored, sameKey, debit', credit', debitAdded,
    creditAdded, rfl⟩
  · refine ⟨?_, rfl⟩
    have entry : (⟨delta.account, debit, credit⟩ : Balance).entry = delta.entry := by
      simp only [Balance.entry, Delta.entry, exactDebit, exactCredit]
    rw [← entry] at amounts ⊢
    exact tally.insert ⟨ctx.tenant, period, delta.account, debit, credit⟩ absent amounts
  · refine ⟨?_, rfl⟩
    have before := tally.amounts old stored
    have sumDebit := Decimal.columnAdd?_grains before.1.2 (exactDebit ▸ amounts.1.2) debitAdded
    have sumCredit := Decimal.columnAdd?_grains before.2.2 (exactCredit ▸ amounts.2.2) creditAdded
    rw [exactDebit, add_comm] at sumDebit
    rw [exactCredit, add_comm] at sumCredit
    have sum : (⟨delta.account, debit', credit'⟩ : Balance).entry.amount =
        delta.entry.amount + old.balance.entry.amount := Prod.ext sumDebit sumCredit
    have amounts' : (⟨delta.account, debit', credit'⟩ : Balance).entry.Amounts := by
      rw [Entry.Amounts, sum]
      exact ⟨amounts.1.add before.1, amounts.2.add before.2⟩
    exact tally.raise stored ⟨old.tenant, period, delta.account, debit', credit'⟩ sameKey.symm
      sum amounts'

theorem addDeltas_tally {deltas : List Delta} {posted : PeriodId → List Entry}
    (added : addDeltas ctx period store deltas = .ok after)
    (tally : Tally store.balances posted) (amounts : ∀ delta ∈ deltas, delta.entry.Amounts) :
    Tally after.balances (booking period (deltas.map Delta.entry) posted) ∧
      after = { store with balances := after.balances } := by
  induction deltas generalizing store posted with
  | nil =>
    obtain rfl := Except.ok.inj added
    rw [List.map_nil, booking_nil]
    exact ⟨tally, rfl⟩
  | cons delta rest ih =>
    obtain ⟨first, others⟩ := List.forall_mem_cons.mp amounts
    simp only [addDeltas, bind_ok_iff] at added
    obtain ⟨middle, added, added'⟩ := added
    obtain ⟨tally', middle_eq⟩ := addDelta_tally added tally first
    obtain ⟨tally'', after_eq⟩ := ih added' tally' others
    refine ⟨tally''.congr fun other => booking_cons .., ?_⟩
    rw [after_eq, middle_eq]

end Store

end Countinghouse
