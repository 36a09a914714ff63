import Countinghouse.Proofs.Journal.Deltas
import Countinghouse.Proofs.Journal.Step

/-! # What fits the columns

Each line of a draft is small enough to be stored, but a draft has as many lines as one likes.
Its totals fit their columns exactly when its debits come to less than `10 ^ 15`, and the delta
of an account does when what the lines put on the account is less than that.  This holds of any
number of lines: past the range of exact sums, what a sum has led to is too large to be stored. -/

set_option autoImplicit false

namespace Countinghouse

/-! ## Deltas of any number of lines -/

namespace Delta

/-- The amounts are what running sums over the entries on the account have led to. -/
def CountsOn (entries : List Entry) (delta : Delta) : Prop :=
  delta.debit.Counts (Entry.sum (· = delta.account) entries).1 ∧
    delta.credit.Counts (Entry.sum (· = delta.account) entries).2

variable {line : Line} {entries : List Entry} {delta : Delta} {deltas deltas' : List Delta}

theorem sum_line_cons (account : AccountId) (line : Line) (entries : List Entry) :
    Entry.sum (· = account) (line.entry :: entries) =
      (if line.account = account then line.entry.amount else 0) +
        Entry.sum (· = account) entries :=
  Entry.sum_account_cons account line.entry entries

theorem CountsOn.other (counts : delta.CountsOn entries) (differ : line.account ≠ delta.account) :
    delta.CountsOn (line.entry :: entries) := by
  rwa [CountsOn, sum_line_cons, if_neg differ, zero_add]

theorem countsOn_new (next : line.entry.Amounts)
    (none : Entry.sum (· = line.account) entries = 0) :
    CountsOn (line.entry :: entries) ⟨line.account, line.debit, line.credit⟩ := by
  rw [CountsOn, sum_line_cons, if_pos rfl, none, add_zero]
  exact ⟨⟨next.1, Or.inl rfl⟩, next.2, Or.inl rfl⟩

theorem CountsOn.add {debit credit : Decimal} (counts : delta.CountsOn entries)
    (same : line.account = delta.account) (next : line.entry.Amounts)
    (debited : delta.debit.plus line.debit = .ok debit)
    (credited : delta.credit.plus line.credit = .ok credit) :
    CountsOn (line.entry :: entries) ⟨delta.account, debit, credit⟩ := by
  rw [CountsOn, sum_line_cons, if_pos same, add_comm]
  exact ⟨counts.1.add next.1 (Decimal.plus_ok_iff.mp debited),
    counts.2.add next.2 (Decimal.plus_ok_iff.mp credited)⟩

/-- Adding a line keeps what each delta counts, the entries on new accounts coming to nothing
so far. -/
theorem addLine_counts (next : line.entry.Amounts)
    (increasing : (deltas.map (·.account)).Pairwise (· < ·))
    (counts : ∀ delta ∈ deltas, delta.CountsOn entries)
    (none : line.account ∉ deltas.map (·.account) → Entry.sum (· = line.account) entries = 0)
    (added : addLine line deltas = .ok deltas') :
    ∀ delta ∈ deltas', delta.CountsOn (line.entry :: entries) := by
  induction deltas generalizing deltas' with
  | nil =>
    obtain rfl := Except.ok.inj added
    exact List.forall_mem_singleton.mpr (countsOn_new next (none List.not_mem_nil))
  | cons delta rest ih =>
    obtain ⟨first, others⟩ := List.forall_mem_cons.mp counts
    rw [List.map_cons, List.pairwise_cons, List.forall_mem_map] at increasing
    obtain ⟨after, increasing⟩ := increasing
    obtain ⟨before, rfl⟩ | ⟨same, debit, credit, debited, credited, rfl⟩ |
      ⟨_, differ, rest', inserted, rfl⟩ := addLine_cons_ok added
    · -- The new delta stands before all others, so none of them is on its account.
      have differ : ∀ other ∈ delta :: rest, line.account ≠ other.account := by
        refine List.forall_mem_cons.mpr ⟨Id.ne_of_lt before, fun other present => ?_⟩
        exact Id.ne_of_lt (Nat.lt_trans before (after other present))
      refine List.forall_mem_cons.mpr ⟨countsOn_new next (none ?_), fun other present =>
        (counts other present).other (differ other present)⟩
      rw [List.mem_map]
      rintro ⟨other, present, same⟩
      exact differ other present same.symm
    · refine List.forall_mem_cons.mpr
        ⟨first.add same next debited credited, fun other present => ?_⟩
      exact (others other present).other (same ▸ Id.ne_of_lt (after other present))
    · refine List.forall_mem_cons.mpr ⟨first.other differ, ih increasing others ?_ inserted⟩
      intro absent
      refine none ?_
      rw [List.map_cons, List.mem_cons, not_or]
      exact ⟨differ, absent⟩

theorem addLines_counts {lines : List Line} (next : ∀ line ∈ lines, line.entry.Amounts)
    (increasing : (deltas.map (·.account)).Pairwise (· < ·))
    (counts : ∀ delta ∈ deltas, delta.CountsOn entries)
    (none : ∀ account, account ∉ deltas.map (·.account) → Entry.sum (· = account) entries = 0)
    (added : addLines deltas lines = .ok deltas') :
    ∀ delta ∈ deltas', delta.CountsOn ((lines.map Line.entry).reverse ++ entries) := by
  induction lines generalizing deltas entries with
  | nil =>
    obtain rfl := Except.ok.inj added
    exact counts
  | cons line rest ih =>
    obtain ⟨first, others⟩ := List.forall_mem_cons.mp next
    simp only [addLines, bind_ok_iff] at added
    obtain ⟨middle, added, added'⟩ := added
    have accounts := addLine_accounts added
    rw [List.map_cons, List.reverse_cons, List.append_assoc]
    refine ih others ?_ (addLine_counts first increasing counts (none _) added) ?_ added'
    · rw [accounts]
      exact Id.insertOnce_increasing increasing
    · intro account absent
      rw [accounts, Id.mem_insertOnce, not_or] at absent
      rw [List.singleton_append, sum_line_cons, if_neg (Ne.symm absent.1), zero_add]
      exact none account absent.2

/-- The deltas of lines, however many, count what the lines put on their accounts. -/
theorem ofLines_counts {lines : List Line} (next : ∀ line ∈ lines, line.entry.Amounts)
    (made : ofLines lines = .ok deltas) (delta : Delta) (present : delta ∈ deltas) :
    delta.debit.Counts (Line.debits (lines.filter (·.account = delta.account))) ∧
      delta.credit.Counts (Line.credits (lines.filter (·.account = delta.account))) := by
  have counts : delta.CountsOn ((lines.map Line.entry).reverse ++ []) :=
    addLines_counts next List.Pairwise.nil (List.forall_mem_nil _) (fun _ _ => rfl) made delta
      present
  rw [List.append_nil, CountsOn, Entry.sum_perm (List.reverse_perm _), Line.sum_entries] at counts
  exact counts

end Delta

/-! ## Drafts -/

namespace Line

theorem sums_filter_le {lines : List Line} (amounts : ∀ line ∈ lines, line.entry.Amounts)
    (chosen : Line → Bool) :
    debits (lines.filter chosen) ≤ debits lines ∧
      credits (lines.filter chosen) ≤ credits lines := by
  have sublist : ((lines.filter chosen).map entry).Sublist (lines.map entry) :=
    List.filter_sublist.map entry
  have part := Entry.total_sublist sublist (List.forall_mem_map.mpr amounts)
  rwa [total_entries, total_entries] at part

end Line

namespace Draft

def FitsColumns (draft : Draft) (lines : List Line) : Prop :=
  (draft.totals.debit.Storable ∧ draft.totals.credit.Storable) ∧
    ∀ deltas, Delta.ofLines lines = .ok deltas →
      ∀ delta ∈ deltas, delta.debit.Storable ∧ delta.credit.Storable

/-- What of a draft and of its lines can be stored as it is. -/
structure Columns (draft : Draft) (lines : List Line) : Prop where
  fits : draft.FitsColumns lines ↔ Line.debits lines < 10 ^ 15 * 10 ^ 28
  debit : draft.totals.debit.Storable ↔ Line.debits lines < 10 ^ 15 * 10 ^ 28
  credit : draft.totals.credit.Storable ↔ Line.credits lines < 10 ^ 15 * 10 ^ 28
  deltas : ∀ deltas, Delta.ofLines lines = .ok deltas → ∀ delta ∈ deltas,
    (delta.debit.Storable ↔
        Line.debits (lines.filter (·.account = delta.account)) < 10 ^ 15 * 10 ^ 28) ∧
      (delta.credit.Storable ↔
        Line.credits (lines.filter (·.account = delta.account)) < 10 ^ 15 * 10 ^ 28)
  /-- There are deltas where the totals can be stored. -/
  made : Line.debits lines < 10 ^ 15 * 10 ^ 28 → ∃ deltas, Delta.ofLines lines = .ok deltas

variable {lines : List Line} {date : Date} {periods : List Period} {chart : Chart} {draft : Draft}

/-- A draft fits its columns exactly when its debits come to less than `10 ^ 15`.  The limit on
each of its lines does not see to it. -/
theorem prepare_columns (prepared : Draft.prepare lines date periods chart = .ok draft) :
    draft.Columns lines := by
  obtain ⟨_, _, _, validated⟩ := JournalState.prepare_ok_iff.mp prepared
  obtain ⟨amounts, debit_counts, credit_counts, balanced⟩ := Chart.validate_ok validated
  rw [Line.total_entries] at debit_counts credit_counts
  have debit := debit_counts.storable_iff
  have credit := credit_counts.storable_iff
  have deltas : ∀ deltas, Delta.ofLines lines = .ok deltas → ∀ delta ∈ deltas,
      (delta.debit.Storable ↔
          Line.debits (lines.filter (·.account = delta.account)) < 10 ^ 15 * 10 ^ 28) ∧
        (delta.credit.Storable ↔
          Line.credits (lines.filter (·.account = delta.account)) < 10 ^ 15 * 10 ^ 28) := by
    intro deltas made delta present
    obtain ⟨debit_counts, credit_counts⟩ := Delta.ofLines_counts amounts made delta present
    exact ⟨debit_counts.storable_iff, credit_counts.storable_iff⟩
  have alike : Line.debits lines < 10 ^ 15 * 10 ^ 28 ↔ Line.credits lines < 10 ^ 15 * 10 ^ 28 := by
    have same : draft.totals.debit.grains = draft.totals.credit.grains := balanced
    rw [← debit, ← credit, Decimal.storable_iff, Decimal.storable_iff, same]
  refine ⟨⟨fun fits => debit.mp fits.1.1, ?_⟩, debit, credit, deltas, ?_⟩
  · intro small
    refine ⟨⟨debit.mpr small, credit.mpr (alike.mp small)⟩, ?_⟩
    intro deltas' made delta present
    obtain ⟨debits, credits⟩ := Line.sums_filter_le amounts (·.account = delta.account)
    obtain ⟨debit', credit'⟩ := deltas deltas' made delta present
    exact ⟨debit'.mpr (debits.trans_lt small), credit'.mpr (credits.trans_lt (alike.mp small))⟩
  · intro small
    have small' := alike.mp small
    have within : Entry.Within (Entry.total (lines.map Line.entry)) := by
      rw [Line.total_entries]
      unfold Entry.Within Decimal.exactLimit
      omega
    obtain ⟨deltas', made, _⟩ := Delta.ofLines_exact amounts within
    exact ⟨deltas', made⟩

def largestAmount : Decimal := (Decimal.ofUnits? (10 ^ 19 - 1) 4).getD .zero

def largestLines (count : Nat) : List Line :=
  List.replicate count ⟨Id.ofNat 1, largestAmount, .zero, none, .none⟩ ++
    List.replicate count ⟨Id.ofNat 2, .zero, largestAmount, none, .none⟩

def newYear : Date := ⟨20089, by decide, by decide⟩

theorem largestLines_columns :
    ∃ draft, Draft.prepare (largestLines 1) newYear [⟨Id.ofNat 1, newYear, newYear, .open⟩]
        Chart.twoAccounts = .ok draft ∧
      draft.Columns (largestLines 1) ∧ draft.FitsColumns (largestLines 1) := by
  obtain ⟨draft, prepared⟩ : ∃ draft, Draft.prepare (largestLines 1) newYear
      [⟨Id.ofNat 1, newYear, newYear, .open⟩] Chart.twoAccounts = .ok draft := ⟨_, rfl⟩
  have columns := prepare_columns prepared
  exact ⟨draft, prepared, columns, columns.fits.mpr (by decide)⟩

/-- Two such lines on a side are accepted, and neither the totals nor the deltas can be stored. -/
theorem two_largest_unfit :
    ∃ draft deltas, Draft.prepare (largestLines 2) newYear
        [⟨Id.ofNat 1, newYear, newYear, .open⟩] Chart.twoAccounts = .ok draft ∧
      Delta.ofLines (largestLines 2) = .ok deltas ∧
      ¬ draft.totals.debit.Storable ∧ ¬ draft.totals.credit.Storable ∧
      (∀ delta ∈ deltas, ¬ (delta.debit.Storable ∧ delta.credit.Storable)) ∧
      ¬ draft.FitsColumns (largestLines 2) := by
  refine ⟨_, _, rfl, rfl, by decide, by decide, by decide, ?_⟩
  intro fits
  exact absurd fits.1.1 (by decide)

end Draft

end Countinghouse
