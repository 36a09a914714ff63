import Countinghouse.Journal.Balance
import Countinghouse.Journal.Validation
import Countinghouse.Proofs.Decimal.Exact
import Countinghouse.Proofs.Success
import Mathlib.Algebra.BigOperators.Group.List.Basic
import Mathlib.Algebra.Group.Prod

/-! # Entries

What a line, a delta or a balance puts on an account, as whole numbers of grains.
Deltas come to the same as the lines they are made of, whichever accounts are counted,
as long as the lines come to something that amounts with four places can come to. -/

set_option autoImplicit false

namespace Countinghouse

/-- An account with what it is debited and what it is credited, in grains. -/
structure Entry where
  account : AccountId
  amount : Int × Int

def Line.entry (line : Line) : Entry := ⟨line.account, line.debit.grains, line.credit.grains⟩

def Delta.entry (delta : Delta) : Entry :=
  ⟨delta.account, delta.debit.grains, delta.credit.grains⟩

def Balance.entry (balance : Balance) : Entry :=
  ⟨balance.account, balance.debit.grains, balance.credit.grains⟩

namespace Entry

def sum (counted : AccountId → Bool) (entries : List Entry) : Int × Int :=
  ((entries.filter fun entry => counted entry.account).map (·.amount)).sum

def total (entries : List Entry) : Int × Int := sum (fun _ => true) entries

@[simp] theorem sum_nil (counted : AccountId → Bool) : sum counted [] = 0 := rfl

@[simp] theorem sum_cons (counted : AccountId → Bool) (entry : Entry) (rest : List Entry) :
    sum counted (entry :: rest) =
      (if counted entry.account then entry.amount else 0) + sum counted rest := by
  by_cases included : counted entry.account = true <;> simp [sum, included]

theorem sum_account_cons (account : AccountId) (entry : Entry) (rest : List Entry) :
    sum (· = account) (entry :: rest) =
      (if entry.account = account then entry.amount else 0) + sum (· = account) rest := by
  simp only [sum_cons, decide_eq_true_eq]

@[simp] theorem sum_append (counted : AccountId → Bool) (first second : List Entry) :
    sum counted (first ++ second) = sum counted first + sum counted second := by
  simp [sum]

@[simp] theorem total_nil : total [] = 0 := rfl

@[simp] theorem total_cons (entry : Entry) (rest : List Entry) :
    total (entry :: rest) = entry.amount + total rest := by
  rw [total, sum_cons, if_pos rfl, total]

theorem sum_eq (counted : AccountId → Bool) (entries : List Entry) :
    sum counted entries =
      (((entries.filter fun entry => counted entry.account).map (·.amount.1)).sum,
        ((entries.filter fun entry => counted entry.account).map (·.amount.2)).sum) := by
  rw [sum]
  induction entries.filter fun entry => counted entry.account with
  | nil => rfl
  | cons entry rest ih =>
    rw [List.map_cons, List.sum_cons, ih]
    rfl

@[simp] theorem total_append (first second : List Entry) :
    total (first ++ second) = total first + total second := sum_append ..

theorem sum_perm {first second : List Entry} (perm : first.Perm second)
    (counted : AccountId → Bool) : sum counted first = sum counted second :=
  ((perm.filter _).map _).sum_eq

/-- Two lists of entries come to the same on every choice of accounts, and are about
the same accounts. -/
structure Agree (first second : List Entry) : Prop where
  sums : ∀ counted, sum counted first = sum counted second
  accounts : ∀ account,
    (∃ entry ∈ first, entry.account = account) ↔ ∃ entry ∈ second, entry.account = account

namespace Agree

variable {first second third : List Entry}

theorem refl (entries : List Entry) : Agree entries entries := ⟨fun _ => rfl, fun _ => Iff.rfl⟩

theorem trans (left : Agree first second) (right : Agree second third) : Agree first third :=
  ⟨fun counted => (left.sums counted).trans (right.sums counted),
    fun account => (left.accounts account).trans (right.accounts account)⟩

theorem of_perm (perm : first.Perm second) : Agree first second :=
  ⟨sum_perm perm, fun account => by simp [perm.mem_iff]⟩

theorem append {first' second' : List Entry} (left : Agree first second)
    (right : Agree first' second') : Agree (first ++ first') (second ++ second') where
  sums counted := by simp [left.sums, right.sums]
  accounts account := by
    simp only [List.mem_append, or_and_right, exists_or, left.accounts, right.accounts]

theorem cons (entry : Entry) (rest : Agree first second) :
    Agree (entry :: first) (entry :: second) :=
  (refl [entry]).append rest

theorem merge (account : AccountId) (amount more : Int × Int) (rest : List Entry) :
    Agree (⟨account, amount + more⟩ :: rest) (⟨account, amount⟩ :: ⟨account, more⟩ :: rest) where
  sums counted := by by_cases included : counted account <;> simp [included, add_assoc]
  accounts other := by simp

end Agree

def Amounts (entry : Entry) : Prop :=
  Decimal.Amount entry.amount.1 ∧ Decimal.Amount entry.amount.2

theorem amounts_total {entries : List Entry} (amounts : ∀ entry ∈ entries, entry.Amounts) :
    Decimal.Amount (total entries).1 ∧ Decimal.Amount (total entries).2 := by
  induction entries with
  | nil => exact ⟨Decimal.amount_zero, Decimal.amount_zero⟩
  | cons entry rest ih =>
    have head := amounts entry List.mem_cons_self
    have tail := ih fun other present => amounts other (List.mem_cons_of_mem _ present)
    rw [total_cons]
    exact ⟨head.1.add tail.1, head.2.add tail.2⟩

def Small (amount : Int × Int) : Prop := amount.1 < 10 ^ 52 ∧ amount.2 < 10 ^ 52

/-- Sums below this are found, and exact. -/
def Within (amount : Int × Int) : Prop :=
  amount.1 < Decimal.exactLimit ∧ amount.2 < Decimal.exactLimit

theorem Small.within {amount : Int × Int} (small : Small amount) : Within amount := by
  obtain ⟨first, second⟩ := small
  unfold Within Decimal.exactLimit
  omega

theorem Within.part {amount more : Int × Int} (within : Within (amount + more))
    (part : 0 ≤ more.1 ∧ 0 ≤ more.2) : Within amount :=
  ⟨lt_of_le_of_lt (le_add_of_nonneg_right part.1) within.1,
    lt_of_le_of_lt (le_add_of_nonneg_right part.2) within.2⟩

/-- Entries with a small total, debits equal to credits. -/
structure Booked (entries : List Entry) : Prop where
  amounts : ∀ entry ∈ entries, entry.Amounts
  equal : (total entries).1 = (total entries).2
  small : Small (total entries)

theorem Booked.perm {first second : List Entry} (booked : Booked first)
    (perm : first.Perm second) : Booked second where
  amounts entry present := booked.amounts entry (perm.mem_iff.mpr present)
  equal := by
    rw [total, ← sum_perm perm]
    exact booked.equal
  small := by
    rw [total, ← sum_perm perm]
    exact booked.small

end Entry

/-! ## Lines that were validated -/

theorem Line.checkAmounts_ok {line : Line} {index : Nat} {u : Unit}
    (checked : line.checkAmounts index = .ok u) : line.entry.Amounts := by
  simp only [checkAmounts, ite_ok_iff, reduceCtorEq, and_false, false_or, not_or, not_and,
    Decidable.not_not, and_true] at checked
  obtain ⟨⟨debit, credit⟩, nonzero, oneSide, _, fits⟩ := checked
  have debit : 0 ≤ line.debit.grains := not_lt.mp debit
  have credit : 0 ≤ line.credit.grains := not_lt.mp credit
  have columnar := fits.columnar
  unfold amount at columnar
  cases empty : line.debit.isZero with
  | true =>
    rw [if_pos empty] at columnar
    have zero := Decimal.isZero_iff.mp empty
    refine ⟨⟨debit, ?_⟩, credit, columnar⟩
    simp only [entry, zero, dvd_zero]
  | false =>
    rw [if_neg (by simp [empty])] at columnar
    have zero := Decimal.isZero_iff.mp (oneSide (by simp [empty]))
    refine ⟨⟨debit, columnar⟩, credit, ?_⟩
    simp only [entry, zero, dvd_zero]

theorem Chart.checkLines_ok {chart : Chart} {index : Nat} {lines : List Line} {u : Unit}
    (checked : chart.checkLines index lines = .ok u) : ∀ line ∈ lines, line.entry.Amounts := by
  induction lines generalizing index with
  | nil => simp
  | cons line rest ih =>
    unfold checkLines at checked
    split at checked
    · cases checked
    rename_i amounts
    split at checked
    · cases checked
    rw [List.forall_mem_cons]
    exact ⟨Line.checkAmounts_ok amounts, ih checked⟩

theorem Totals.addLines_counts {acc totals : Totals} {index : Nat} {lines : List Line}
    {sum : Int × Int} (debit : acc.debit.Counts sum.1) (credit : acc.credit.Counts sum.2)
    (amounts : ∀ line ∈ lines, line.entry.Amounts)
    (added : acc.addLines index lines = .ok totals) :
    totals.debit.Counts (sum + Entry.total (lines.map Line.entry)).1 ∧
      totals.credit.Counts (sum + Entry.total (lines.map Line.entry)).2 := by
  induction lines generalizing acc index sum with
  | nil =>
    obtain rfl := Except.ok.inj added
    simpa using ⟨debit, credit⟩
  | cons line rest ih =>
    obtain ⟨first, others⟩ := List.forall_mem_cons.mp amounts
    unfold addLines at added
    split at added
    case h_2 => cases added
    rename_i debit' credit' debitAdded creditAdded
    have debit : debit'.Counts (sum + line.entry.amount).1 := debit.add first.1 debitAdded
    have credit : credit'.Counts (sum + line.entry.amount).2 := credit.add first.2 creditAdded
    have reached := ih debit credit others added
    rwa [add_assoc, ← Entry.total_cons] at reached

theorem Chart.validate_ok {chart : Chart} {lines : List Line} {totals : Totals}
    (validated : chart.validate lines = .ok totals) :
    (∀ line ∈ lines, line.entry.Amounts) ∧
      totals.debit.Counts (Entry.total (lines.map Line.entry)).1 ∧
      totals.credit.Counts (Entry.total (lines.map Line.entry)).2 ∧ totals.Balanced := by
  unfold validate at validated
  split at validated
  · cases validated
  split at validated
  · cases validated
  rename_i checked
  split at validated
  · cases validated
  rename_i totals' added
  split at validated
  case isFalse => cases validated
  rename_i balanced
  obtain rfl := Except.ok.inj validated
  have amounts := checkLines_ok checked
  have zero : Totals.zero.debit.Counts (0 : Int × Int).1 := Decimal.counts_zero
  obtain ⟨debit, credit⟩ := Totals.addLines_counts zero zero amounts added
  rw [zero_add] at debit credit
  exact ⟨amounts, debit, credit, balanced⟩

/-! ## Deltas -/

theorem Decimal.plus_ok_iff {a b c : Decimal} : a.plus b = .ok c ↔ a.add? b = some c := by
  unfold plus
  cases a.add? b <;> simp

namespace Delta

theorem plus_line {delta : Delta} {line : Line} (amounts : delta.entry.Amounts)
    (next : line.entry.Amounts) (within : Entry.Within (line.entry.amount + delta.entry.amount)) :
    ∃ debit credit, delta.debit.plus line.debit = .ok debit ∧
      delta.credit.plus line.credit = .ok credit ∧
      (⟨delta.account, debit, credit⟩ : Delta).entry =
        ⟨delta.account, line.entry.amount + delta.entry.amount⟩ := by
  have debit_nonneg := (amounts.1.add next.1).1
  have credit_nonneg := (amounts.2.add next.2).1
  rw [add_comm] at within ⊢
  obtain ⟨debit_small, credit_small⟩ := within
  simp only [entry, Line.entry, Prod.fst_add, Prod.snd_add] at *
  obtain ⟨debit, debited, exactDebit, _⟩ :=
    Decimal.plus_exact_of_lt amounts.1.2 next.1.2 (by omega)
  obtain ⟨credit, credited, exactCredit, _⟩ :=
    Decimal.plus_exact_of_lt amounts.2.2 next.2.2 (by omega)
  refine ⟨debit, credit, debited, credited, ?_⟩
  rw [exactDebit, exactCredit]
  rfl

theorem addLine_exact {line : Line} {deltas : List Delta} (next : line.entry.Amounts)
    (amounts : ∀ delta ∈ deltas, delta.entry.Amounts)
    (within : Entry.Within (line.entry.amount + Entry.total (deltas.map entry))) :
    ∃ deltas', addLine line deltas = .ok deltas' ∧
      Entry.Agree (deltas'.map entry) (line.entry :: deltas.map entry) ∧
      ∀ delta ∈ deltas', delta.entry.Amounts := by
  induction deltas with
  | nil => exact ⟨_, rfl, .refl _, List.forall_mem_singleton.mpr next⟩
  | cons delta rest ih =>
    obtain ⟨first, others⟩ := List.forall_mem_cons.mp amounts
    have positive := Entry.amounts_total (List.forall_mem_map.mpr others)
    rw [List.map_cons, Entry.total_cons] at within
    rw [addLine]
    split
    case isTrue => exact ⟨_, rfl, .refl _, List.forall_mem_cons.mpr ⟨next, amounts⟩⟩
    split
    case isTrue same =>
      rw [← add_assoc] at within
      obtain ⟨debit, credit, debited, credited, merged⟩ :=
        plus_line first next (within.part ⟨positive.1.1, positive.2.1⟩)
      rw [debited, credited]
      refine ⟨_, rfl, ?_⟩
      rw [List.map_cons, List.map_cons, merged, List.forall_mem_cons, merged]
      refine ⟨?_, ⟨next.1.add first.1, next.2.add first.2⟩, others⟩
      have line_entry : line.entry = ⟨delta.account, line.entry.amount⟩ := by rw [← same]; rfl
      rw [line_entry]
      exact .merge ..
    case isFalse =>
      rw [add_left_comm, add_comm] at within
      obtain ⟨rest', added, agree, amounts'⟩ :=
        ih others (within.part ⟨first.1.1, first.2.1⟩)
      rw [added]
      refine ⟨_, rfl, ?_, List.forall_mem_cons.mpr ⟨first, amounts'⟩⟩
      exact (agree.cons delta.entry).trans (.of_perm (List.Perm.swap ..))

theorem addLines_exact {lines : List Line} {deltas : List Delta}
    (next : ∀ line ∈ lines, line.entry.Amounts)
    (amounts : ∀ delta ∈ deltas, delta.entry.Amounts)
    (within : Entry.Within
      (Entry.total (lines.map Line.entry) + Entry.total (deltas.map entry))) :
    ∃ deltas', addLines deltas lines = .ok deltas' ∧
      Entry.Agree (deltas'.map entry) (lines.map Line.entry ++ deltas.map entry) ∧
      ∀ delta ∈ deltas', delta.entry.Amounts := by
  induction lines generalizing deltas with
  | nil => exact ⟨deltas, rfl, .refl _, amounts⟩
  | cons line rest ih =>
    obtain ⟨first, others⟩ := List.forall_mem_cons.mp next
    have positive := Entry.amounts_total (List.forall_mem_map.mpr others)
    rw [List.map_cons, Entry.total_cons, add_right_comm] at within
    obtain ⟨middle, added, agree, amounts'⟩ :=
      addLine_exact first amounts (within.part ⟨positive.1.1, positive.2.1⟩)
    have middleTotal : Entry.total (middle.map entry) =
        line.entry.amount + Entry.total (deltas.map entry) := by
      rw [← Entry.total_cons]
      exact agree.sums _
    rw [add_comm, ← middleTotal] at within
    obtain ⟨deltas', added', agree', amounts''⟩ := ih others amounts' within
    rw [addLines, added]
    refine ⟨deltas', added', agree'.trans ?_, amounts''⟩
    exact ((Entry.Agree.refl _).append agree).trans (.of_perm List.perm_middle)

theorem ofLines_exact {lines : List Line} (amounts : ∀ line ∈ lines, line.entry.Amounts)
    (within : Entry.Within (Entry.total (lines.map Line.entry))) :
    ∃ deltas, ofLines lines = .ok deltas ∧
      Entry.Agree (deltas.map entry) (lines.map Line.entry) ∧
      ∀ delta ∈ deltas, delta.entry.Amounts := by
  rw [← add_zero (Entry.total _)] at within
  have exact := addLines_exact amounts (List.forall_mem_nil _) within
  rwa [List.map_nil, List.append_nil] at exact

theorem ofLines_agree {lines : List Line} {deltas : List Delta}
    (booked : Entry.Booked (lines.map Line.entry)) (made : ofLines lines = .ok deltas) :
    Entry.Agree (deltas.map entry) (lines.map Line.entry) ∧
      ∀ delta ∈ deltas, delta.entry.Amounts := by
  obtain ⟨deltas', made', exact⟩ :=
    ofLines_exact (List.forall_mem_map.mp booked.amounts) booked.small.within
  obtain rfl := Except.ok.inj (made'.symm.trans made)
  exact exact

end Delta

end Countinghouse
