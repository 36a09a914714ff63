import Mathlib
import Countinghouse.Proofs.Journal.Life
import Countinghouse.Proofs.Store.Books

/-! # Balances are the sums of what is posted

Whatever is done, the balances of a period come to the same as the lines of the journals
posted into it.  Only posting adds to balances, and it adds the lines that the journal
has then; these can no longer change, because only a draft is changed. -/

set_option autoImplicit false

namespace Countinghouse

namespace Store

/-! ## Lines of journals -/

def postedLines (journals : List Journal) (lines : List StoredLine) (period : PeriodId) :
    List Line :=
  (journals.filter fun journal =>
    journal.state.status = .posted && journal.period = period).flatMap fun journal =>
      (rowsOf journal.id lines).map (·.line)

theorem postedLines_append (first second : List Journal) (lines : List StoredLine)
    (period : PeriodId) :
    postedLines (first ++ second) lines period =
      postedLines first lines period ++ postedLines second lines period := by
  simp [postedLines]

theorem postedLines_cons_unposted {journal : Journal} (status : journal.state.status ≠ .posted)
    (rest : List Journal) (lines : List StoredLine) (period : PeriodId) :
    postedLines (journal :: rest) lines period = postedLines rest lines period := by
  simp [postedLines, status]

theorem postedLines_cons_other {journal : Journal} {period : PeriodId}
    (differ : period ≠ journal.period) (rest : List Journal) (lines : List StoredLine) :
    postedLines (journal :: rest) lines period = postedLines rest lines period := by
  simp [postedLines, differ.symm]

theorem postedLines_cons_posted {journal : Journal} (status : journal.state.status = .posted)
    (rest : List Journal) (lines : List StoredLine) :
    postedLines (journal :: rest) lines journal.period =
      (rowsOf journal.id lines).map (·.line) ++ postedLines rest lines journal.period := by
  simp [postedLines, status]

theorem postedLines_congr {journals : List Journal} {lines lines' : List StoredLine}
    (same : ∀ journal ∈ journals, journal.state.status = .posted →
      rowsOf journal.id lines = rowsOf journal.id lines') (period : PeriodId) :
    postedLines journals lines period = postedLines journals lines' period := by
  unfold postedLines
  refine List.flatMap_congr fun journal present => ?_
  obtain ⟨stored, fits⟩ := List.mem_filter.mp present
  rw [same journal stored (by simpa using (Bool.and_eq_true_iff.mp fits).1)]

theorem postedLines_replace {journals : List Journal} {old new : Journal}
    (ids : (journals.map (·.id)).Nodup) (stored : old ∈ journals) (sameId : new.id = old.id)
    (status : old.state.status ≠ .posted) (status' : new.state.status ≠ .posted)
    (lines : List StoredLine) (period : PeriodId) :
    postedLines (Rows.replace (·.id) new journals) lines period =
      postedLines journals lines period := by
  obtain ⟨earlier, later, split, split'⟩ := Rows.replace_split ids stored sameId
  rw [split', postedLines_append, postedLines_cons_unposted status', split, postedLines_append,
    postedLines_cons_unposted status]

/-! ## Journals with their lines -/

/-- Journals are told apart, and every line belongs to one.  The lines of each are
booked. -/
structure Filed (journals : List Journal) (lines : List StoredLine) : Prop where
  ids : (journals.map (·.id)).Nodup
  owned : ∀ row ∈ lines, ∃ journal ∈ journals, journal.id = row.journal
  booked : ∀ journal ∈ journals, Entry.Booked ((rowsOf journal.id lines).map (·.line.entry))

namespace Filed

variable {journals : List Journal} {lines : List StoredLine}

/-- A new journal comes with its lines; those of the others are as they were. -/
theorem drafted (filed : Filed journals lines) {journal : Journal} {rows : List StoredLine}
    (fresh : ∀ other ∈ journals, other.id ≠ journal.id)
    (status : journal.state.status = .draft) (owned : ∀ row ∈ rows, row.journal = journal.id)
    (booked : Entry.Booked (rows.map (·.line.entry))) :
    Filed (journals ++ [journal]) (lines ++ rows) ∧
      ∀ period, postedLines (journals ++ [journal]) (lines ++ rows) period =
        postedLines journals lines period := by
  -- No line can be waiting for the new id: every line has a journal.
  have foreign : ∀ row ∈ lines, row.journal ≠ journal.id := by
    intro row present equal
    obtain ⟨other, stored, isOf⟩ := filed.owned row present
    exact fresh other stored (isOf.trans equal)
  have kept : ∀ other ∈ journals, rowsOf other.id (lines ++ rows) = rowsOf other.id lines := by
    intro other stored
    have none_new : rowsOf other.id rows = [] :=
      rowsOf_foreign fun row present => (owned row present).trans_ne (fresh other stored).symm
    rw [rowsOf_append, none_new, List.append_nil]
  refine ⟨⟨?_, ?_, ?_⟩, ?_⟩
  · rw [List.map_append, List.map_singleton, List.nodup_append]
    refine ⟨filed.ids, List.nodup_singleton _, ?_⟩
    simpa using fresh
  · intro row present
    rcases List.mem_append.mp present with before | new
    · obtain ⟨other, stored, isOf⟩ := filed.owned row before
      exact ⟨other, List.mem_append_left _ stored, isOf⟩
    · exact ⟨journal, List.mem_append_right _ List.mem_cons_self, (owned row new).symm⟩
  · rw [List.forall_mem_append, List.forall_mem_singleton]
    constructor
    · intro other stored
      rw [kept other stored]
      exact filed.booked other stored
    · rw [rowsOf_append, rowsOf_foreign foreign, rowsOf_own owned, List.nil_append]
      exact booked
  · intro period
    rw [postedLines_append, postedLines_cons_unposted (by simp [status]),
      postedLines_congr fun other stored _ => kept other stored]
    exact List.append_nil _

theorem replaced (filed : Filed journals lines) {old new : Journal} (stored : old ∈ journals)
    (sameId : new.id = old.id) : Filed (Rows.replace (·.id) new journals) lines := by
  have present_iff := Rows.mem_replace_iff (·.id) new stored sameId
  constructor
  · rw [Rows.keys_replace]
    exact filed.ids
  · intro row present
    obtain ⟨journal, stored', isOf⟩ := filed.owned row present
    by_cases mine : journal.id = new.id
    · exact ⟨new, (present_iff new).mpr (Or.inl rfl), mine.symm.trans isOf⟩
    · exact ⟨journal, (present_iff journal).mpr (Or.inr ⟨stored', mine⟩), isOf⟩
  · intro journal present
    rcases (present_iff journal).mp present with rfl | ⟨stored', _⟩
    · rw [sameId]
      exact filed.booked old stored
    · exact filed.booked journal stored'

/-- The lines of one journal give way to others. -/
theorem rewritten (filed : Filed journals lines) {journal : Journal} {rows : List StoredLine}
    (stored : journal ∈ journals) (status : journal.state.status = .draft)
    (owned : ∀ row ∈ rows, row.journal = journal.id)
    (booked : Entry.Booked (rows.map (·.line.entry))) :
    Filed journals ((lines.filter fun row => row.journal ≠ journal.id) ++ rows) ∧
      ∀ period,
        postedLines journals ((lines.filter fun row => row.journal ≠ journal.id) ++ rows) period =
          postedLines journals lines period := by
  have kept : ∀ other ∈ journals, other ≠ journal →
      rowsOf other.id ((lines.filter fun row => row.journal ≠ journal.id) ++ rows) =
        rowsOf other.id lines := by
    intro other stored' differ
    have differ : other.id ≠ journal.id :=
      fun equal => differ (List.inj_on_of_nodup_map filed.ids stored' stored equal)
    have none_new : rowsOf other.id rows = [] :=
      rowsOf_foreign fun row present => (owned row present).trans_ne differ.symm
    rw [rowsOf_append, rowsOf_without differ, none_new, List.append_nil]
  refine ⟨⟨filed.ids, ?_, ?_⟩, ?_⟩
  · intro row present
    rcases List.mem_append.mp present with before | added
    · exact filed.owned row (List.mem_filter.mp before).1
    · exact ⟨journal, stored, (owned row added).symm⟩
  · intro other stored'
    by_cases same : other = journal
    · subst same
      have none_old : rowsOf other.id (lines.filter fun row => row.journal ≠ other.id) = [] :=
        rowsOf_foreign fun row present => by simpa using (List.mem_filter.mp present).2
      rw [rowsOf_append, none_old, rowsOf_own owned, List.nil_append]
      exact booked
    · rw [kept other stored' same]
      exact filed.booked other stored'
  · intro period
    refine postedLines_congr (fun other stored' posted => kept other stored' ?_) period
    rintro rfl
    simp [status] at posted

end Filed

/-! ## Books in balance -/

/-- The balances are a tally of what is posted. -/
structure InBalance (store : Store) : Prop where
  filed : Filed store.journals store.journalLines
  tally : StoredBalance.Tally store.balances fun period =>
    (postedLines store.journals store.journalLines period).map Line.entry

theorem postedLines_posted {journals : List Journal} {old new : Journal}
    (ids : (journals.map (·.id)).Nodup) (stored : old ∈ journals) (sameId : new.id = old.id)
    (samePeriod : new.period = old.period) (status : old.state.status ≠ .posted)
    (status' : new.state.status = .posted) (lines : List StoredLine) (period : PeriodId) :
    Entry.Agree
      (StoredBalance.booking old.period ((rowsOf old.id lines).map (·.line.entry))
        (fun period => (postedLines journals lines period).map Line.entry) period)
      ((postedLines (Rows.replace (·.id) new journals) lines period).map Line.entry) := by
  obtain ⟨earlier, later, split, split'⟩ := Rows.replace_split ids stored sameId
  rw [split', split, postedLines_append]
  by_cases same : period = old.period
  · subst same
    rw [StoredBalance.booking_same, postedLines_append, postedLines_cons_unposted status,
      ← samePeriod, postedLines_cons_posted status', sameId]
    apply Entry.Agree.of_perm
    simp only [List.map_append, List.map_map, ← List.append_assoc]
    exact List.perm_append_comm.append_right _
  · rw [StoredBalance.booking_other same, postedLines_append, postedLines_cons_unposted status,
      postedLines_cons_other (samePeriod ▸ same)]
    exact .refl _

theorem InBalance.writes {before after : Store} (inBalance : before.InBalance)
    (writes : before.Writes after) : after.InBalance := by
  obtain ⟨filed, tally⟩ := inBalance
  cases writes with
  | unchanged journals lines balances =>
    constructor
    · rw [journals, lines]
      exact filed
    · rw [journals, lines, balances]
      exact tally
  | drafted fresh status dated owned booked journals lines balances =>
    obtain ⟨filed', posted⟩ := filed.drafted fresh status owned booked
    constructor
    · rw [journals, lines]
      exact filed'
    · simp only [journals, lines, balances, posted]
      exact tally
  | edited stored sameId status status' dated owned booked journals lines balances =>
    obtain ⟨filed', posted⟩ := filed.rewritten stored status owned booked
    constructor
    · rw [journals, lines]
      exact filed'.replaced stored sameId
    · simp only [journals, lines, balances]
      refine tally.congr fun period => ?_
      rw [postedLines_replace filed.ids stored sameId (by simp [status]) (by simp [status']),
        posted]
      exact .refl _
  | moved stored sameId samePeriod sameDate step status isIn journals lines balances =>
    have unposted := fun posted => JournalState.posted_refuses posted step
    constructor
    · rw [journals, lines]
      exact filed.replaced stored sameId
    · simp only [journals, lines, balances,
        postedLines_replace filed.ids stored sameId unposted status]
      exact tally
  | @posted _ old _ _ rows deltas stored sameId samePeriod sameDate step status isIn sorted made
      added =>
    have unposted := fun posted => JournalState.posted_refuses posted step
    have lines : (rows.map (·.line)).map Line.entry = rows.map (·.line.entry) := List.map_map ..
    have booked := (filed.booked old stored).perm (sorted.symm.map _)
    rw [← lines] at booked
    obtain ⟨agree, amounts⟩ := Delta.ofLines_agree booked made
    obtain ⟨tally', after_eq⟩ := addDeltas_tally added tally amounts
    rw [after_eq]
    refine ⟨filed.replaced stored sameId, tally'.congr fun period => ?_⟩
    -- The deltas come to the same as the lines, and these are what is posted besides.
    have sameEntries : Entry.Agree (deltas.map Delta.entry)
        ((rowsOf old.id before.journalLines).map (·.line.entry)) := by
      rw [lines] at agree
      exact agree.trans (.of_perm (sorted.map _))
    have posted := postedLines_posted filed.ids stored sameId samePeriod unposted status
      before.journalLines period
    exact (StoredBalance.booking_agree sameEntries _ old.period period).trans posted

theorem InBalance.after {store : Store} (inBalance : store.InBalance) (attempt : Attempt) :
    (store.after attempt).InBalance := by
  rcases store.after_cases attempt with
    ⟨done, records, succeeded, reached⟩ | ⟨_, records, _, reached⟩
  · have written := inBalance.writes (command_writes succeeded)
    rw [reached]
    exact ⟨written.filed, written.tally⟩
  · rw [reached]
    exact ⟨inBalance.filed, inBalance.tally⟩

theorem InBalance.run {store : Store} (inBalance : store.InBalance) (attempts : List Attempt) :
    (store.run attempts).InBalance :=
  run_preserves InBalance (fun _ attempt inBalance => inBalance.after attempt) store attempts
    inBalance

/-! ## Sums -/

def linesOn (store : Store) (period : PeriodId) (account : AccountId) : List Line :=
  (postedLines store.journals store.journalLines period).filter (·.account = account)

def balancesOn (store : Store) (period : PeriodId) (account : AccountId) : List StoredBalance :=
  (store.balances.filter (·.period = period)).filter (·.balance.account = account)

/-- An account has a balance in a period exactly when something was posted to it there,
and one only.  It is the sum of what was posted, and in every period debits equal
credits. -/
structure Summed (store : Store) : Prop where
  unposted : ∀ period account, store.linesOn period account = [] →
    store.balancesOn period account = []
  posted : ∀ period account, store.linesOn period account ≠ [] →
    ∃ row, store.balancesOn period account = [row] ∧
      row.balance.debit.grains = ((store.linesOn period account).map (·.debit.grains)).sum ∧
      row.balance.credit.grains = ((store.linesOn period account).map (·.credit.grains)).sum
  equal : ∀ period,
    ((store.balances.filter (·.period = period)).map (·.balance.debit.grains)).sum =
      ((store.balances.filter (·.period = period)).map (·.balance.credit.grains)).sum

theorem total_posted {journals : List Journal} {lines : List StoredLine}
    (booked : ∀ journal ∈ journals, Entry.Booked ((rowsOf journal.id lines).map (·.line.entry)))
    (period : PeriodId) :
    (Entry.total ((postedLines journals lines period).map Line.entry)).1 =
      (Entry.total ((postedLines journals lines period).map Line.entry)).2 := by
  induction journals with
  | nil => rfl
  | cons journal rest ih =>
    obtain ⟨first, others⟩ := List.forall_mem_cons.mp booked
    by_cases status : journal.state.status = .posted
    · by_cases same : period = journal.period
      · subst same
        rw [postedLines_cons_posted status, List.map_append, List.map_map, Entry.total_append]
        exact congrArg₂ (· + ·) first.equal (ih others)
      · rw [postedLines_cons_other same]
        exact ih others
    · rw [postedLines_cons_unposted status]
      exact ih others

theorem sum_linesOn (store : Store) (period : PeriodId) (account : AccountId) :
    Entry.sum (· = account)
        ((postedLines store.journals store.journalLines period).map Line.entry) =
      (((store.linesOn period account).map (·.debit.grains)).sum,
        ((store.linesOn period account).map (·.credit.grains)).sum) := by
  rw [Entry.sum_eq, List.filter_map, List.map_map, List.map_map]
  rfl

theorem sum_balancesOn (store : Store) (period : PeriodId) (account : AccountId) :
    Entry.sum (· = account) (StoredBalance.entries store.balances period) =
      (((store.balancesOn period account).map (·.balance.debit.grains)).sum,
        ((store.balancesOn period account).map (·.balance.credit.grains)).sum) := by
  rw [StoredBalance.entries, Entry.sum_eq, List.filter_map, List.map_map, List.map_map]
  rfl

theorem InBalance.one_balance {store : Store} (inBalance : store.InBalance)
    {row : StoredBalance} (stored : row ∈ store.balances) :
    store.balancesOn row.period row.balance.account = [row] := by
  rw [← Rows.filter_key inBalance.tally.keys stored, balancesOn, List.filter_filter]
  refine List.filter_congr fun other _ => ?_
  simp [StoredBalance.key, and_comm]

theorem InBalance.summed {store : Store} (inBalance : store.InBalance) : store.Summed := by
  have agree := inBalance.tally.agree
  have accounts : ∀ period account, (∃ row, row ∈ store.balancesOn period account) ↔
      ∃ line, line ∈ store.linesOn period account := by
    intro period account
    simpa [StoredBalance.entries, balancesOn, linesOn, Balance.entry, Line.entry, and_assoc,
      and_comm] using (agree period).accounts account
  constructor
  · intro period account none_posted
    by_contra some_balance
    obtain ⟨line, present⟩ :=
      (accounts period account).mp (List.exists_mem_of_ne_nil _ some_balance)
    simp [none_posted] at present
  · intro period account some_posted
    obtain ⟨row, present⟩ :=
      (accounts period account).mpr (List.exists_mem_of_ne_nil _ some_posted)
    obtain ⟨present', onAccount⟩ := List.mem_filter.mp present
    obtain ⟨stored, inPeriod⟩ := List.mem_filter.mp present'
    obtain rfl := of_decide_eq_true onAccount
    obtain rfl := of_decide_eq_true inPeriod
    have one := inBalance.one_balance stored
    have sums := (agree row.period).sums (· = row.balance.account)
    rw [sum_linesOn, sum_balancesOn, one] at sums
    refine ⟨row, one, ?_, ?_⟩
    · simpa using (Prod.mk.inj sums).1
    · simpa using (Prod.mk.inj sums).2
  · intro period
    have sums := (agree period).sums fun _ => true
    have equal := total_posted inBalance.filed.booked period
    rw [Entry.total, ← sums, Entry.sum_eq] at equal
    simpa [StoredBalance.entries, Function.comp_def, Balance.entry] using equal

theorem inBalance_of_empty {store : Store} (journals : store.journals = [])
    (balances : store.balances = [])
    (owned : ∀ row ∈ store.journalLines, ∃ journal ∈ store.journals, journal.id = row.journal) :
    store.InBalance := by
  constructor
  · refine ⟨?_, owned, ?_⟩
    · rw [journals]
      exact List.nodup_nil
    · simp [journals]
  · rw [journals, balances]
    exact ⟨List.nodup_nil, List.forall_mem_nil _, fun _ => .refl _⟩

/-- From books without journals and balances, whatever is attempted, by anyone and in any
order, the balances are the sums of what is posted. -/
theorem run_summed (store : Store) (journals : store.journals = [])
    (balances : store.balances = [])
    (owned : ∀ row ∈ store.journalLines, ∃ journal ∈ store.journals, journal.id = row.journal)
    (attempts : List Attempt) : (store.run attempts).Summed := by
  have start : store.InBalance := inBalance_of_empty journals balances owned
  have reached : (store.run attempts).InBalance := start.run attempts
  exact reached.summed

def newBooks : Store :=
  let tenant : TenantId := Id.ofNat 1
  let account (id : Nat) : StoredAccount := ⟨tenant, Id.ofNat id, .asset, true, true, false⟩
  let grant (p : Permission) : StoredGrant := ⟨tenant, Id.ofNat 1, p.code⟩
  { Store.empty with
    userRoles := [⟨tenant, Id.ofNat 1, Id.ofNat 1⟩, ⟨tenant, Id.ofNat 2, Id.ofNat 1⟩]
    rolePermissions :=
      [grant .journalCreate, grant .journalSubmit, grant .journalApprove, grant .journalPost]
    accounts := [account 1, account 2]
    periods := [⟨tenant, JournalState.samplePeriod, "first", none, none, none⟩] }

/-- A journal of sixty is drafted, changed to seventy, submitted, approved and posted. -/
def newBooksAttempts : List Attempt :=
  let ask (user base : Nat) (command : Command) : Attempt :=
    ⟨⟨Id.ofNat 1, Id.ofNat user, ⟨1728000000⟩, base, .default, .none⟩, command⟩
  let day : Date := ⟨20010, by decide, by decide⟩
  let sixty : Decimal := ⟨60, 0, Decimal.zero.scale_le, by decide⟩
  let seventy : Decimal := ⟨700, 1, by decide, by decide⟩
  let lines (amount : Decimal) : List Line :=
    [⟨Id.ofNat 1, amount, .zero, none, .none⟩, ⟨Id.ofNat 2, .zero, amount, none, .none⟩]
  [ask 1 1 (.createJournal ⟨day, none, lines sixty⟩),
    ask 1 10 (.updateJournal (Id.ofNat 2) ⟨day, none, lines seventy⟩),
    ask 1 20 (.submitJournal (Id.ofNat 2)), ask 2 40 (.approveJournal (Id.ofNat 2)),
    ask 1 50 (.postJournal (Id.ofNat 2))]

theorem newBooks_summed :
    ((newBooks.run newBooksAttempts).balances.map fun row =>
        (row.balance.debit.grains, row.balance.credit.grains)) =
          [(70 * 10 ^ 28, 0), (0, 70 * 10 ^ 28)] ∧
      (newBooks.run newBooksAttempts).Summed := by
  refine ⟨by cbv, ?_⟩
  exact run_summed newBooks rfl rfl (List.forall_mem_nil _) newBooksAttempts

end Store

end Countinghouse
