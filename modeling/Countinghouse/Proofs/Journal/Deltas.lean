import Countinghouse.Proofs.Journal.Entries
import Countinghouse.Proofs.Journal.Validation
import Countinghouse.Proofs.Sorted

/-! # What validated lines post

Lines that were validated are gathered into one delta for each of their accounts.  The order of
the lines does not show in the deltas: their accounts are in increasing order, and their amounts
are exact sums.  As a list of lines has fewer than `2 ^ 31`, no sum leaves the range in which
amounts with four places are exact, and neither does a balance that takes in the deltas of two
such lists, in whichever order. -/

set_option autoImplicit false

namespace Countinghouse

/-! ## Sums of lines -/

namespace Line

theorem sum_entries (counted : AccountId → Bool) (lines : List Line) :
    Entry.sum counted (lines.map entry) =
      (debits (lines.filter fun line => counted line.account),
        credits (lines.filter fun line => counted line.account)) := by
  rw [Entry.sum_eq, List.filter_map, List.map_map, List.map_map]
  rfl

theorem total_entries (lines : List Line) :
    Entry.total (lines.map entry) = (debits lines, credits lines) := by
  rw [Entry.total, sum_entries, List.filter_true]

theorem Bookable.entry_amounts {line : Line} (bookable : line.Bookable) : line.entry.Amounts :=
  ⟨bookable.amounts.1.1, bookable.amounts.2.1⟩

theorem total_le {lines : List Line} (bookable : ∀ line ∈ lines, line.Bookable) :
    (Entry.total (lines.map entry)).1 ≤ lines.length * 10 ^ 43 ∧
      (Entry.total (lines.map entry)).2 ≤ lines.length * 10 ^ 43 := by
  induction lines with
  | nil => exact ⟨le_rfl, le_rfl⟩
  | cons line rest ih =>
    obtain ⟨first, others⟩ := List.forall_mem_cons.mp bookable
    obtain ⟨⟨_, debit⟩, _, credit⟩ := first.amounts
    obtain ⟨debits, credits⟩ := ih others
    rw [List.map_cons, Entry.total_cons, List.length_cons, Nat.cast_succ]
    simp only [Prod.fst_add, Prod.snd_add, entry] at *
    constructor <;> omega

theorem total_within {lines : List Line} (few : lines.length < 2 ^ 31)
    (bookable : ∀ line ∈ lines, line.Bookable) :
    Entry.Within (Entry.total (lines.map entry)) := by
  obtain ⟨debits, credits⟩ := total_le bookable
  unfold Entry.Within Decimal.exactLimit
  omega

end Line

namespace Entry

theorem sum_of_mem {entries : List Entry} {entry : Entry}
    (apart : (entries.map (·.account)).Nodup) (present : entry ∈ entries) :
    sum (· = entry.account) entries = entry.amount := by
  induction entries with
  | nil => cases present
  | cons first rest ih =>
    rw [List.map_cons, List.nodup_cons] at apart
    rw [sum_account_cons]
    rcases List.mem_cons.mp present with rfl | present
    · have none : rest.filter (fun other => decide (other.account = entry.account)) = [] := by
        simpa [List.filter_eq_nil_iff] using apart.1
      rw [if_pos rfl, sum, none]
      exact add_zero entry.amount
    · have other : first.account ≠ entry.account := by
        rintro same
        exact apart.1 (same ▸ List.mem_map_of_mem present)
      rw [if_neg other, zero_add]
      exact ih apart.2 present

theorem total_sublist {chosen entries : List Entry} (sublist : chosen.Sublist entries)
    (amounts : ∀ entry ∈ entries, entry.Amounts) :
    (total chosen).1 ≤ (total entries).1 ∧ (total chosen).2 ≤ (total entries).2 := by
  induction sublist with
  | slnil => exact ⟨le_rfl, le_rfl⟩
  | cons entry _ ih =>
    obtain ⟨first, others⟩ := List.forall_mem_cons.mp amounts
    rw [total_cons]
    exact ⟨le_add_of_nonneg_of_le first.1.1 (ih others).1,
      le_add_of_nonneg_of_le first.2.1 (ih others).2⟩
  | cons_cons entry _ ih =>
    obtain ⟨_, others⟩ := List.forall_mem_cons.mp amounts
    rw [total_cons, total_cons]
    exact ⟨add_le_add_right (ih others).1 _, add_le_add_right (ih others).2 _⟩

def gathered (entries : List Entry) : List Entry :=
  (Id.sorted (entries.map (·.account))).map fun account =>
    ⟨account, sum (· = account) entries⟩

theorem gathered_perm {first second : List Entry} (perm : first.Perm second) :
    gathered first = gathered second := by
  have accounts : Id.sorted (first.map (·.account)) = Id.sorted (second.map (·.account)) :=
    Id.sorted_congr fun _ => (perm.map _).mem_iff
  simp only [gathered, accounts, sum_perm perm]

end Entry

/-! ## One delta for each account -/

namespace Delta

theorem addLine_cons_ok {line : Line} {delta : Delta} {rest deltas' : List Delta}
    (added : addLine line (delta :: rest) = .ok deltas') :
    (line.account < delta.account ∧
        deltas' = ⟨line.account, line.debit, line.credit⟩ :: delta :: rest) ∨
      (line.account = delta.account ∧ ∃ debit credit, delta.debit.plus line.debit = .ok debit ∧
        delta.credit.plus line.credit = .ok credit ∧
        deltas' = ⟨delta.account, debit, credit⟩ :: rest) ∨
      (¬ line.account < delta.account ∧ line.account ≠ delta.account ∧
        ∃ rest', addLine line rest = .ok rest' ∧ deltas' = delta :: rest') := by
  unfold addLine at added
  split at added
  case isTrue before => exact Or.inl ⟨before, (Except.ok.inj added).symm⟩
  case isFalse notBefore =>
    split at added
    case isTrue same =>
      simp only [bind_ok_iff, pure_ok_iff] at added
      obtain ⟨debit, debited, credit, credited, rfl⟩ := added
      exact Or.inr (Or.inl ⟨same, debit, credit, debited, credited, rfl⟩)
    case isFalse differ =>
      simp only [bind_ok_iff, pure_ok_iff] at added
      obtain ⟨rest', added, rfl⟩ := added
      exact Or.inr (Or.inr ⟨notBefore, differ, rest', added, rfl⟩)

theorem addLine_accounts {line : Line} {deltas deltas' : List Delta}
    (added : addLine line deltas = .ok deltas') :
    deltas'.map (·.account) = Id.insertOnce line.account (deltas.map (·.account)) := by
  induction deltas generalizing deltas' with
  | nil =>
    obtain rfl := Except.ok.inj added
    rfl
  | cons delta rest ih =>
    rw [List.map_cons, Id.insertOnce]
    obtain ⟨before, rfl⟩ | ⟨same, _, _, _, _, rfl⟩ | ⟨notBefore, differ, rest', inserted, rfl⟩ :=
      addLine_cons_ok added
    · rw [if_pos before]
      rfl
    · have notBefore : ¬ line.account < delta.account := fun before => Id.ne_of_lt before same
      rw [if_neg notBefore, if_pos same]
      rfl
    · rw [if_neg notBefore, if_neg differ, ← ih inserted]
      rfl

theorem addLines_increasing {lines : List Line} {deltas deltas' : List Delta}
    (added : addLines deltas lines = .ok deltas')
    (increasing : (deltas.map (·.account)).Pairwise (· < ·)) :
    (deltas'.map (·.account)).Pairwise (· < ·) := by
  induction lines generalizing deltas with
  | nil =>
    obtain rfl := Except.ok.inj added
    exact increasing
  | cons line rest ih =>
    simp only [addLines, bind_ok_iff] at added
    obtain ⟨middle, first, others⟩ := added
    refine ih others ?_
    rw [addLine_accounts first]
    exact Id.insertOnce_increasing increasing

theorem entries_gathered {lines : List Line} {deltas : List Delta}
    (made : ofLines lines = .ok deltas)
    (agree : Entry.Agree (deltas.map entry) (lines.map Line.entry)) :
    deltas.map entry = Entry.gathered (lines.map Line.entry) := by
  have increasing : (deltas.map (·.account)).Pairwise (· < ·) :=
    addLines_increasing made List.Pairwise.nil
  have accounts : deltas.map (·.account) =
      Id.sorted ((lines.map Line.entry).map (·.account)) := by
    refine Id.eq_sorted increasing fun account => ?_
    have same := agree.accounts account
    simp only [List.mem_map] at same ⊢
    simpa [entry] using same
  have apart : ((deltas.map entry).map (·.account)).Nodup := by
    rw [List.map_map]
    exact increasing.nodup
  have sums : ∀ delta ∈ deltas, delta.entry =
      ⟨delta.account, Entry.sum (· = delta.account) (lines.map Line.entry)⟩ := by
    intro delta present
    have amount := Entry.sum_of_mem apart (List.mem_map_of_mem (f := entry) present)
    rw [← agree.sums]
    exact congrArg (Entry.mk delta.account) amount.symm
  rw [Entry.gathered, ← accounts, List.map_map]
  exact List.map_congr_left sums

/-- There is one delta for each account of the lines, in increasing order of accounts, and it has
the sums of what the lines put on the account. -/
structure Gathers (deltas : List Delta) (lines : List Line) : Prop where
  increasing : deltas.Pairwise (·.account < ·.account)
  accounts : ∀ account,
    (∃ delta ∈ deltas, delta.account = account) ↔ ∃ line ∈ lines, line.account = account
  debit : ∀ delta ∈ deltas,
    delta.debit.grains = Line.debits (lines.filter (·.account = delta.account))
  credit : ∀ delta ∈ deltas,
    delta.credit.grains = Line.credits (lines.filter (·.account = delta.account))

theorem gathers_of_entries {lines : List Line} {deltas : List Delta}
    (gathered : deltas.map entry = Entry.gathered (lines.map Line.entry)) :
    Gathers deltas lines := by
  have accounts : deltas.map (·.account) = Id.sorted (lines.map (·.account)) := by
    have accounts := congrArg (List.map Entry.account) gathered
    rw [Entry.gathered, List.map_map, List.map_map, List.map_map] at accounts
    simpa [Function.comp_def, entry, Line.entry] using accounts
  have sums : ∀ delta ∈ deltas,
      delta.entry.amount = Entry.sum (· = delta.account) (lines.map Line.entry) := by
    intro delta present
    have listed := List.mem_map_of_mem (f := entry) present
    rw [gathered, Entry.gathered, List.mem_map] at listed
    obtain ⟨account, _, made⟩ := listed
    rw [← made]
    have same : account = delta.account := congrArg Entry.account made
    rw [same]
  constructor
  · have increasing := Id.sorted_increasing (lines.map (·.account))
    rwa [← accounts, List.pairwise_map] at increasing
  · intro account
    have same : account ∈ deltas.map (·.account) ↔ account ∈ lines.map (·.account) := by
      rw [accounts, Id.mem_sorted]
    simpa only [List.mem_map] using same
  · intro delta present
    have amount := sums delta present
    rw [Line.sum_entries] at amount
    exact congrArg Prod.fst amount
  · intro delta present
    have amount := sums delta present
    rw [Line.sum_entries] at amount
    exact congrArg Prod.snd amount

theorem total_entries (deltas : List Delta) :
    Entry.total (deltas.map entry) =
      ((deltas.map (·.debit.grains)).sum, (deltas.map (·.credit.grains)).sum) := by
  rw [Entry.total, Entry.sum_eq, List.filter_true, List.map_map, List.map_map]
  rfl

theorem ofLines_bookable {lines : List Line} (few : lines.length < 2 ^ 31)
    (bookable : ∀ line ∈ lines, line.Bookable) :
    ∃ deltas, ofLines lines = .ok deltas ∧
      Entry.Agree (deltas.map entry) (lines.map Line.entry) ∧
      ∀ delta ∈ deltas, delta.entry.Amounts :=
  ofLines_exact (fun line present => (bookable line present).entry_amounts)
    (Line.total_within few bookable)

end Delta

/-! ## Balances that take deltas in -/

namespace Balance

def applyAll (b : Balance) : List Delta → Except Overflow Balance
  | [] => .ok b
  | delta :: rest => do
      let b' ← b.apply delta
      b'.applyAll rest

def Columnar (b : Balance) : Prop := 10 ^ 24 ∣ b.debit.grains ∧ 10 ^ 24 ∣ b.credit.grains

/-- Both amounts are multiples of a ten-thousandth, and below `10 ^ 24` in size. -/
structure Moderate (b : Balance) : Prop where
  columnar : b.Columnar
  debit : b.debit.grains.natAbs < 10 ^ 24 * 10 ^ 28
  credit : b.credit.grains.natAbs < 10 ^ 24 * 10 ^ 28

theorem apply_exact {b : Balance} {delta : Delta} (columnar : b.Columnar)
    (amounts : delta.entry.Amounts)
    (debit_small : (b.debit.grains + delta.debit.grains).natAbs < Decimal.exactLimit)
    (credit_small : (b.credit.grains + delta.credit.grains).natAbs < Decimal.exactLimit) :
    ∃ b', b.apply delta = .ok b' ∧ b'.Columnar ∧
      b'.entry = ⟨b.account, b.entry.amount + delta.entry.amount⟩ := by
  obtain ⟨debit, debited, exactDebit, debit_columnar⟩ :=
    Decimal.plus_exact_of_lt columnar.1 amounts.1.2 debit_small
  obtain ⟨credit, credited, exactCredit, credit_columnar⟩ :=
    Decimal.plus_exact_of_lt columnar.2 amounts.2.2 credit_small
  rw [apply, debited, credited]
  refine ⟨_, rfl, ⟨debit_columnar, credit_columnar⟩, ?_⟩
  simp only [entry, exactDebit, exactCredit]
  rfl

/-- As deltas only ever raise a balance, it is in range throughout if it is at the beginning and
at the end. -/
theorem applyAll_exact {b : Balance} {deltas : List Delta} (columnar : b.Columnar)
    (amounts : ∀ delta ∈ deltas, delta.entry.Amounts)
    (debit_low : -(Decimal.exactLimit : Int) < b.debit.grains)
    (credit_low : -(Decimal.exactLimit : Int) < b.credit.grains)
    (within : Entry.Within (b.entry.amount + Entry.total (deltas.map Delta.entry))) :
    ∃ b', b.applyAll deltas = .ok b' ∧
      b'.entry = ⟨b.account, b.entry.amount + Entry.total (deltas.map Delta.entry)⟩ := by
  induction deltas generalizing b with
  | nil => exact ⟨b, rfl, by simp [entry]⟩
  | cons delta rest ih =>
    obtain ⟨first, others⟩ := List.forall_mem_cons.mp amounts
    obtain ⟨debits, credits⟩ := Entry.amounts_total (List.forall_mem_map.mpr others)
    rw [List.map_cons, Entry.total_cons, ← add_assoc] at within ⊢
    obtain ⟨debit_within, credit_within⟩ := within.part ⟨debits.1, credits.1⟩
    have debit_raised : 0 ≤ delta.debit.grains := first.1.1
    have credit_raised : 0 ≤ delta.credit.grains := first.2.1
    simp only [entry, Delta.entry, Prod.fst_add, Prod.snd_add] at debit_within credit_within
    obtain ⟨b', applied, columnar', reached⟩ :=
      apply_exact columnar first (by omega) (by omega)
    have amount : b'.entry.amount = b.entry.amount + delta.entry.amount := by rw [reached]
    have account : b'.account = b.account := congrArg Entry.account reached
    have debit : b'.debit.grains = b.debit.grains + delta.debit.grains := congrArg Prod.fst amount
    have credit : b'.credit.grains = b.credit.grains + delta.credit.grains :=
      congrArg Prod.snd amount
    rw [← amount] at within ⊢
    obtain ⟨b'', applied', reached'⟩ := ih columnar' others (by omega) (by omega) within
    rw [applyAll, applied]
    exact ⟨b'', applied', by rw [reached', account]⟩

end Balance

/-! ## Posting two lists -/

namespace Delta

/-- Amounts that come to no more than validated lines may come to. -/
structure Light (deltas : List Delta) : Prop where
  amounts : ∀ delta ∈ deltas, delta.entry.Amounts
  debit : (Entry.total (deltas.map entry)).1 ≤ 2 ^ 31 * 10 ^ 43
  credit : (Entry.total (deltas.map entry)).2 ≤ 2 ^ 31 * 10 ^ 43

theorem Light.sublist {chosen deltas : List Delta} (light : Light deltas)
    (sublist : chosen.Sublist deltas) : Light chosen := by
  obtain ⟨debit, credit⟩ :=
    Entry.total_sublist (sublist.map entry) (List.forall_mem_map.mpr light.amounts)
  exact ⟨fun delta present => light.amounts delta (sublist.subset present),
    debit.trans light.debit, credit.trans light.credit⟩

theorem ofLines_light {lines : List Line} {deltas : List Delta} (few : lines.length < 2 ^ 31)
    (bookable : ∀ line ∈ lines, line.Bookable) (made : ofLines lines = .ok deltas) :
    Light deltas := by
  obtain ⟨_, rebuilt, agree, amounts⟩ := ofLines_bookable few bookable
  obtain rfl := Except.ok.inj (made.symm.trans rebuilt)
  have total : Entry.total (deltas.map entry) = Entry.total (lines.map Line.entry) := agree.sums _
  obtain ⟨debit, credit⟩ := Line.total_le bookable
  rw [← total] at debit credit
  exact ⟨amounts, by omega, by omega⟩

def Commute (deltas deltas' : List Delta) : Prop :=
  ∀ b : Balance, b.Moderate → ∀ chosen chosen' : List Delta,
    chosen.Sublist deltas → chosen'.Sublist deltas' →
      ∃ one other, b.applyAll (chosen ++ chosen') = .ok one ∧
        b.applyAll (chosen' ++ chosen) = .ok other ∧ one.entry = other.entry

end Delta

theorem Balance.Moderate.applyAll {b : Balance} (moderate : b.Moderate)
    {deltas deltas' : List Delta} (light : Delta.Light deltas) (light' : Delta.Light deltas') :
    ∃ b', b.applyAll (deltas ++ deltas') = .ok b' ∧
      b'.entry = ⟨b.account, b.entry.amount +
        (Entry.total (deltas.map Delta.entry) + Entry.total (deltas'.map Delta.entry))⟩ := by
  have debit := moderate.debit
  have credit := moderate.credit
  have within : Entry.Within (b.entry.amount +
      Entry.total ((deltas ++ deltas').map Delta.entry)) := by
    obtain ⟨_, debits, credits⟩ := light
    obtain ⟨_, debits', credits'⟩ := light'
    rw [List.map_append, Entry.total_append]
    simp only [Entry.Within, Balance.entry, Decimal.exactLimit, Prod.fst_add, Prod.snd_add]
    omega
  have amounts : ∀ delta ∈ deltas ++ deltas', delta.entry.Amounts :=
    List.forall_mem_append.mpr ⟨light.amounts, light'.amounts⟩
  have applied := Balance.applyAll_exact moderate.columnar amounts
    (by unfold Decimal.exactLimit; omega) (by unfold Decimal.exactLimit; omega) within
  rwa [List.map_append, Entry.total_append] at applied

theorem Delta.Light.commute {deltas deltas' : List Delta} (light : Light deltas)
    (light' : Light deltas') : Commute deltas deltas' := by
  intro b moderate chosen chosen' sublist sublist'
  obtain ⟨one, applied, reached⟩ :=
    moderate.applyAll (light.sublist sublist) (light'.sublist sublist')
  obtain ⟨other, applied', reached'⟩ :=
    moderate.applyAll (light'.sublist sublist') (light.sublist sublist)
  refine ⟨one, other, applied, applied', ?_⟩
  rw [reached, reached', add_comm (Entry.total (chosen.map Delta.entry))]

/-! ## Validated lines -/

/-- What the deltas of lines have to do with the lines and with their totals. -/
structure Delta.Conserve (deltas : List Delta) (lines : List Line) (totals : Totals) : Prop where
  gathers : Gathers deltas lines
  debit : (deltas.map (·.debit.grains)).sum = totals.debit.grains
  credit : (deltas.map (·.credit.grains)).sum = totals.credit.grains
  equal : (deltas.map (·.debit.grains)).sum = (deltas.map (·.credit.grains)).sum
  /-- The lines may stand in any order. -/
  permuted : ∀ lines', lines'.Perm lines →
    ∃ deltas', ofLines lines' = .ok deltas' ∧ deltas'.map entry = deltas.map entry

namespace Chart

variable {chart : Chart} {lines : List Line} {totals : Totals}

theorem accepted_lines (few : lines.length < 2 ^ 31)
    (validated : chart.validate lines = .ok totals) :
    (∀ line ∈ lines, line.Bookable) ∧ totals.debit.grains = Line.debits lines ∧
      totals.credit.grains = Line.credits lines ∧ Line.debits lines = Line.credits lines := by
  have judgement := chart.validate_judgement few
  rw [validated] at judgement
  cases judgement with
  | balanced _ accepted debit credit equal =>
    exact ⟨fun line present => (accepted line present).1, debit, credit, equal⟩

/-- Lines that were accepted, fewer than `2 ^ 31`, have deltas: one for each account with the
exact sums of the account, altogether the totals, the same in whichever order the lines stand.
The deltas of two such lists are added to balances in either order alike. -/
theorem validated_gather (few : lines.length < 2 ^ 31)
    (validated : chart.validate lines = .ok totals) :
    ∃ deltas, Delta.ofLines lines = .ok deltas ∧ Delta.Conserve deltas lines totals ∧
      ∀ (chart' : Chart) (lines' : List Line) (totals' : Totals), lines'.length < 2 ^ 31 →
        chart'.validate lines' = .ok totals' →
          ∀ deltas', Delta.ofLines lines' = .ok deltas' → Delta.Commute deltas deltas' := by
  obtain ⟨bookable, debit, credit, equal⟩ := accepted_lines few validated
  obtain ⟨deltas, made, agree, _⟩ := Delta.ofLines_bookable few bookable
  have gathered := Delta.entries_gathered made agree
  have total : ((deltas.map (·.debit.grains)).sum, (deltas.map (·.credit.grains)).sum) =
      (Line.debits lines, Line.credits lines) := by
    rw [← Delta.total_entries, ← Line.total_entries]
    exact agree.sums _
  obtain ⟨debits, credits⟩ := Prod.mk.inj total
  refine ⟨deltas, made, ⟨Delta.gathers_of_entries gathered, ?_, ?_, ?_, ?_⟩, ?_⟩
  · rw [debits, debit]
  · rw [credits, credit]
  · rw [debits, credits, equal]
  · intro lines' perm
    obtain ⟨deltas', made', agree', _⟩ := Delta.ofLines_bookable (perm.length_eq ▸ few)
      fun line present => bookable line (perm.mem_iff.mp present)
    refine ⟨deltas', made', ?_⟩
    rw [gathered, Delta.entries_gathered made' agree', Entry.gathered_perm (perm.map _)]
  · intro chart' lines' totals' few' validated' deltas' made'
    have light := Delta.ofLines_light few bookable made
    have light' := Delta.ofLines_light few' (accepted_lines few' validated').1 made'
    exact light.commute light'

/-- Wages in two lines, a part of which is taken back; the amounts are written to different
places. -/
def wages : List Line :=
  let amount (units : Int) (scale : Nat) : Decimal := (Decimal.ofUnits? units scale).getD .zero
  [⟨Id.ofNat 2, amount 12050 2, .zero, none, .none⟩, ⟨Id.ofNat 1, .zero, amount 120 0, none, .none⟩,
    ⟨Id.ofNat 2, amount 30 0, .zero, none, .none⟩,
    ⟨Id.ofNat 2, .zero, amount 5000000000 10, none, .none⟩,
    ⟨Id.ofNat 1, .zero, amount 300000 4, none, .none⟩]

theorem wages_gather :
    wages.length < 2 ^ 31 ∧ ∃ totals deltas, twoAccounts.validate wages = .ok totals ∧
      Delta.ofLines wages = .ok deltas ∧
      deltas.map Delta.entry = [⟨Id.ofNat 1, 0, 1500 * 10 ^ 27⟩,
        ⟨Id.ofNat 2, 1505 * 10 ^ 27, 5 * 10 ^ 27⟩] ∧
      Delta.Conserve deltas wages totals ∧ Delta.Commute deltas deltas := by
  have few : wages.length < 2 ^ 31 := by decide
  obtain ⟨totals, validated⟩ : ∃ totals, twoAccounts.validate wages = .ok totals := ⟨_, rfl⟩
  obtain ⟨deltas, made, conserve, commute⟩ := validated_gather few validated
  have found : (Delta.ofLines wages).map (·.map Delta.entry) =
      .ok [⟨Id.ofNat 1, 0, 1500 * 10 ^ 27⟩, ⟨Id.ofNat 2, 1505 * 10 ^ 27, 5 * 10 ^ 27⟩] := by rfl
  rw [made] at found
  exact ⟨few, totals, deltas, validated, made, Except.ok.inj found, conserve,
    commute twoAccounts wages totals few validated deltas made⟩

end Chart

end Countinghouse
