import Countinghouse.Journal.Reversal
import Countinghouse.Proofs.Journal.Deltas

/-! # Reversals

To exchange the sides of every line twice is to leave the lines as they are.  No check of the
validation tells the sides apart, so reversed lines get the answer that the lines get, with the
sides exchanged.  What lines put on one side of an account their reversal puts on the other:
posted together they leave what the account has on one side beyond the other. -/

set_option autoImplicit false

namespace Countinghouse

/-! ## Exchanged sides -/

namespace Line

theorem checkAmounts_swap (line : Line) (index : Nat) :
    line.swap.checkAmounts index = line.checkAmounts index := by
  rw [checkAmounts_eq, checkAmounts_eq, amount_grains, amount_grains]
  simp only [swap]
  by_cases debit : line.debit.grains = 0 <;> by_cases credit : line.credit.grains = 0 <;>
    simp [debit, credit, or_comm]

theorem Single.swap {line : Line} {amount : Int} (single : line.Single amount) :
    line.swap.Single amount :=
  ⟨single.positive, single.side.symm.imp And.symm And.symm⟩

theorem Bookable.swap {line : Line} (bookable : line.Bookable) : line.swap.Bookable := by
  obtain ⟨amount, single, small, columnar⟩ := bookable
  exact ⟨amount, single.swap, small, columnar⟩

theorem debits_append (first second : List Line) :
    debits (first ++ second) = debits first + debits second := by
  simp [debits]

theorem credits_append (first second : List Line) :
    credits (first ++ second) = credits first + credits second := by
  simp [credits]

theorem debits_swap (lines : List Line) : debits (lines.map swap) = credits lines := by
  rw [debits, List.map_map]
  rfl

theorem credits_swap (lines : List Line) : credits (lines.map swap) = debits lines := by
  rw [credits, List.map_map]
  rfl

end Line

def Totals.swap (totals : Totals) : Totals := ⟨totals.credit, totals.debit⟩

theorem Totals.balanced_swap {totals : Totals} : totals.swap.Balanced ↔ totals.Balanced := eq_comm

/-- The same refusal for exchanged sides: one that names both sides names them the other way. -/
def LedgerError.swap : LedgerError → LedgerError
  | .unbalanced debit credit => .unbalanced credit debit
  | e => e

def Totals.exchanged : Except LedgerError Totals → Except LedgerError Totals
  | .ok totals => .ok totals.swap
  | .error e => .error e.swap

theorem Totals.addLines_swap (acc : Totals) (index : Nat) (lines : List Line) :
    acc.swap.addLines index (lines.map Line.swap) = exchanged (acc.addLines index lines) := by
  induction lines generalizing acc index with
  | nil => rfl
  | cons line rest ih =>
    rw [List.map_cons, addLines, addLines]
    simp only [swap, Line.swap]
    cases acc.debit.add? line.debit with
    | none => cases acc.credit.add? line.credit <;> rfl
    | some debit =>
      cases acc.credit.add? line.credit with
      | none => rfl
      | some credit => exact ih ⟨debit, credit⟩ (index + 1)

namespace Chart

variable {chart : Chart} {line : Line} {index : Nat} {e : LedgerError}

theorem Fault.swap_eq (fault : chart.Fault index line e) : e.swap = e := by
  rcases fault with fault | ⟨_, fault⟩ <;> cases fault <;> rfl

theorem checkLines_swap (chart : Chart) (index : Nat) (lines : List Line) :
    chart.checkLines index (lines.map Line.swap) = chart.checkLines index lines := by
  induction lines generalizing index with
  | nil => rfl
  | cons line rest ih =>
    rw [List.map_cons, checkLines, checkLines, line.checkAmounts_swap, ih]
    rfl

theorem checkLines_error_swap {lines : List Line}
    (refused : chart.checkLines index lines = .error e) : e.swap = e := by
  induction lines generalizing index with
  | nil => cases refused
  | cons line rest ih =>
    rcases chart.accepts_or_fault index line with accepts | ⟨e', fault⟩
    · rw [checkLines_accepted accepts] at refused
      exact ih refused
    · rw [checkLines_fault fault] at refused
      obtain rfl := Except.error.inj refused
      exact fault.swap_eq

theorem validate_swap (chart : Chart) (lines : List Line) :
    chart.validate (lines.map Line.swap) = Totals.exchanged (chart.validate lines) := by
  rw [validate, validate, List.isEmpty_map, checkLines_swap]
  have totals_swap :
      Totals.ofLines (lines.map Line.swap) = Totals.exchanged (Totals.ofLines lines) :=
    Totals.addLines_swap .zero 0 lines
  rw [totals_swap]
  split
  · rfl
  cases checked : chart.checkLines 0 lines with
  | error e => exact congrArg Except.error (checkLines_error_swap checked).symm
  | ok u =>
    cases Totals.ofLines lines with
    | error e => rfl
    | ok totals =>
      simp only [Totals.exchanged, Totals.balanced_swap]
      split <;> rfl

end Chart

/-! ## Opposite deltas -/

namespace Entry

def swap (entry : Entry) : Entry := ⟨entry.account, entry.amount.swap⟩

theorem sum_swap (counted : AccountId → Bool) (entries : List Entry) :
    sum counted (entries.map swap) = (sum counted entries).swap := by
  induction entries with
  | nil => rfl
  | cons entry rest ih =>
    rw [List.map_cons, sum_cons, sum_cons, ih, Prod.swap_add, swap]
    split <;> rfl

theorem gathered_swap (entries : List Entry) :
    gathered (entries.map swap) = (gathered entries).map swap := by
  have accounts : (entries.map swap).map (·.account) = entries.map (·.account) := by
    rw [List.map_map]
    rfl
  rw [gathered, gathered, accounts, List.map_map]
  simp only [sum_swap]
  rfl

end Entry

theorem Line.entries_swap (lines : List Line) :
    (lines.map swap).map entry = (lines.map entry).map Entry.swap := by
  rw [List.map_map, List.map_map]
  rfl

namespace Delta

/-- The second deltas are the first with their sides exchanged. -/
def Opposite (deltas reversed : List Delta) : Prop :=
  reversed.map entry = (deltas.map entry).map Entry.swap

def onAccount (account : AccountId) (deltas : List Delta) : List Delta :=
  deltas.filter (·.account = account)

theorem total_onAccount (account : AccountId) (deltas : List Delta) :
    Entry.total ((onAccount account deltas).map entry) =
      Entry.sum (· = account) (deltas.map entry) := by
  rw [onAccount, Entry.total, Entry.sum, Entry.sum, List.filter_true, List.filter_map]
  rfl

theorem Opposite.total_onAccount {deltas reversed : List Delta}
    (opposite : Opposite deltas reversed) (account : AccountId) :
    Entry.total ((onAccount account reversed).map entry) =
      (Entry.total ((onAccount account deltas).map entry)).swap := by
  rw [Delta.total_onAccount, Delta.total_onAccount, opposite, Entry.sum_swap]

theorem Light.onAccount {deltas : List Delta} (light : Light deltas) (account : AccountId) :
    Light (onAccount account deltas) :=
  light.sublist List.filter_sublist

end Delta

/-! ## Balances that take in both -/

namespace Balance

def difference (b : Balance) : Int := b.debit.grains - b.credit.grains

theorem net_exact {b : Balance} (columnar : b.Columnar)
    (small : b.difference.natAbs < Decimal.exactLimit) :
    ∃ net, b.net = .ok net ∧ net.grains = b.difference := by
  obtain ⟨net, computed, exact, _⟩ := Decimal.minus_exact_of_lt columnar.1 columnar.2 small
  exact ⟨net, computed, exact⟩

/-- A balance has the same difference afterwards, and it is computed to be the same. -/
structure SameNet (b after : Balance) : Prop where
  account : after.account = b.account
  difference : after.difference = b.difference
  computed : ∃ net net', b.net = .ok net ∧ after.net = .ok net' ∧ net'.Same net

variable {deltas reversed : List Delta}

theorem Moderate.sameNet {b : Balance} (moderate : b.Moderate) (light : Delta.Light deltas)
    (light' : Delta.Light reversed) (opposite : Delta.Opposite deltas reversed) :
    ∃ after, b.applyAll (Delta.onAccount b.account deltas ++
      Delta.onAccount b.account reversed) = .ok after ∧ b.SameNet after := by
  have chosen := light.onAccount b.account
  obtain ⟨after, applied, reached⟩ := moderate.applyAll chosen (light'.onAccount b.account)
  rw [opposite.total_onAccount] at reached
  obtain ⟨debits, credits⟩ := Entry.amounts_total (List.forall_mem_map.mpr chosen.amounts)
  generalize Entry.total ((Delta.onAccount b.account deltas).map Delta.entry) = sum at *
  have debit : after.debit.grains = b.debit.grains + (sum.1 + sum.2) :=
    congrArg (·.amount.1) reached
  have credit : after.credit.grains = b.credit.grains + (sum.2 + sum.1) :=
    congrArg (·.amount.2) reached
  have same : after.difference = b.difference := by
    unfold difference
    omega
  have columnar : after.Columnar := by
    rw [Columnar, debit, credit]
    exact ⟨Int.dvd_add moderate.columnar.1 (debits.add credits).2,
      Int.dvd_add moderate.columnar.2 (credits.add debits).2⟩
  have small : b.difference.natAbs < Decimal.exactLimit := by
    have debit := moderate.debit
    have credit := moderate.credit
    unfold difference Decimal.exactLimit
    omega
  obtain ⟨net, computed, exact⟩ := net_exact moderate.columnar small
  obtain ⟨net', computed', exact'⟩ := net_exact columnar (same ▸ small)
  refine ⟨after, applied, congrArg Entry.account reached, same, net, net', computed, computed', ?_⟩
  rw [Decimal.Same, exact, exact', same]

/-- Where the two are posted into balances of two periods, one difference rises by as much as the
other falls. -/
theorem Moderate.sum_difference {b c : Balance} (moderate : b.Moderate) (moderate' : c.Moderate)
    (account : c.account = b.account) (light : Delta.Light deltas)
    (light' : Delta.Light reversed) (opposite : Delta.Opposite deltas reversed) :
    ∃ b' c', b.applyAll (Delta.onAccount b.account deltas) = .ok b' ∧
      c.applyAll (Delta.onAccount c.account reversed) = .ok c' ∧
      b'.difference + c'.difference = b.difference + c.difference := by
  have chosen := light.onAccount b.account
  have chosen' := light'.onAccount c.account
  obtain ⟨b', applied, reached⟩ := moderate.applyAll chosen (chosen.sublist (List.nil_sublist _))
  obtain ⟨c', applied', reached'⟩ :=
    moderate'.applyAll chosen' (chosen'.sublist (List.nil_sublist _))
  rw [List.append_nil] at applied applied'
  rw [List.map_nil, Entry.total_nil, add_zero] at reached reached'
  rw [opposite.total_onAccount, account] at reached'
  generalize Entry.total ((Delta.onAccount b.account deltas).map Delta.entry) = sum at *
  have debit : b'.debit.grains = b.debit.grains + sum.1 := congrArg (·.amount.1) reached
  have credit : b'.credit.grains = b.credit.grains + sum.2 := congrArg (·.amount.2) reached
  have debit' : c'.debit.grains = c.debit.grains + sum.2 := congrArg (·.amount.1) reached'
  have credit' : c'.credit.grains = c.credit.grains + sum.1 := congrArg (·.amount.2) reached'
  refine ⟨b', c', applied, applied', ?_⟩
  unfold difference
  omega

end Balance

/-! ## Reversed lines -/

namespace Reversal

/-- Lines and their reversal cancel on every account. -/
structure Cancel (lines : List Line) (deltas reversed : List Delta) : Prop where
  made : Delta.ofLines lines = .ok deltas
  made_reversed : Delta.ofLines (Reversal.lines lines) = .ok reversed
  opposite : Delta.Opposite deltas reversed
  /-- As one list of lines they put as much on one side of an account as on the other. -/
  joined : ∃ both, Delta.ofLines (lines ++ Reversal.lines lines) = .ok both ∧
    Delta.Gathers both (lines ++ Reversal.lines lines) ∧
    ∀ delta ∈ both, delta.debit.Same delta.credit
  /-- A balance that takes in its deltas of both keeps its difference. -/
  same_period : ∀ b : Balance, b.Moderate → ∃ after,
    b.applyAll (Delta.onAccount b.account deltas ++ Delta.onAccount b.account reversed) =
      .ok after ∧ b.SameNet after
  /-- Balances of an account in two periods keep the sum of their differences. -/
  two_periods : ∀ b c : Balance, b.Moderate → c.Moderate → c.account = b.account → ∃ b' c',
    b.applyAll (Delta.onAccount b.account deltas) = .ok b' ∧
      c.applyAll (Delta.onAccount c.account reversed) = .ok c' ∧
      b'.difference + c'.difference = b.difference + c.difference

theorem bookable_lines {lines : List Line} (bookable : ∀ line ∈ lines, line.Bookable) :
    ∀ line ∈ Reversal.lines lines, line.Bookable :=
  List.forall_mem_map.mpr fun line present => (bookable line present).swap

theorem joined_same {lines : List Line} {both : List Delta} {delta : Delta}
    (gathers : Delta.Gathers both (lines ++ Reversal.lines lines)) (present : delta ∈ both) :
    delta.debit.Same delta.credit := by
  have reversed : (Reversal.lines lines).filter (·.account = delta.account) =
      (lines.filter (·.account = delta.account)).map Line.swap := List.filter_map
  rw [Decimal.Same, gathers.debit delta present, gathers.credit delta present,
    List.filter_append, reversed, Line.debits_append, Line.credits_append, Line.debits_swap,
    Line.credits_swap, add_comm]

theorem cancel_of_bookable {lines : List Line} (few : lines.length < 2 ^ 30)
    (bookable : ∀ line ∈ lines, line.Bookable) :
    ∃ deltas reversed, Cancel lines deltas reversed := by
  have bookable' := bookable_lines bookable
  have joined_bookable := List.forall_mem_append.mpr ⟨bookable, bookable'⟩
  have same_length : (Reversal.lines lines).length = lines.length := List.length_map ..
  have joined_few : (lines ++ Reversal.lines lines).length < 2 ^ 31 := by
    rw [List.length_append]
    omega
  obtain ⟨deltas, made, agree, _⟩ := Delta.ofLines_bookable (by omega) bookable
  obtain ⟨reversed, made', agree', _⟩ := Delta.ofLines_bookable (by omega) bookable'
  obtain ⟨both, joined, agree'', _⟩ := Delta.ofLines_bookable joined_few joined_bookable
  have light := Delta.ofLines_light (by omega) bookable made
  have light' := Delta.ofLines_light (by omega) bookable' made'
  have gathers := Delta.gathers_of_entries (Delta.entries_gathered joined agree'')
  have opposite : Delta.Opposite deltas reversed := by
    rw [Delta.Opposite, Delta.entries_gathered made agree, Delta.entries_gathered made' agree',
      Reversal.lines, Line.entries_swap, Entry.gathered_swap]
  refine ⟨deltas, reversed, made, made', opposite, ⟨both, joined, gathers, ?_⟩, ?_, ?_⟩
  · intro delta present
    exact joined_same gathers present
  · intro b moderate
    exact moderate.sameNet light light' opposite
  · intro b c moderate moderate' account
    exact moderate.sum_difference moderate' account light light' opposite

/-- Reversed lines are reversed back to the lines; validation answers for them what it answers
for the lines, with the sides exchanged; and accepted lines cancel with their reversal. -/
theorem lines_mirror (chart : Chart) (lines : List Line) :
    Reversal.lines (Reversal.lines lines) = lines ∧
      chart.validate (Reversal.lines lines) = Totals.exchanged (chart.validate lines) ∧
      ∀ totals, chart.validate lines = .ok totals → lines.length < 2 ^ 30 →
        ∃ deltas reversed, Cancel lines deltas reversed := by
  refine ⟨?_, chart.validate_swap lines, ?_⟩
  · rw [Reversal.lines, Reversal.lines, List.map_map]
    exact List.map_id lines
  · intro totals validated few
    exact cancel_of_bookable few (Chart.accepted_lines (by omega) validated).1

theorem wages_cancel :
    ∃ totals deltas reversed, Chart.twoAccounts.validate Chart.wages = .ok totals ∧
      Chart.twoAccounts.validate (Reversal.lines Chart.wages) = .ok totals.swap ∧
      Chart.wages.length < 2 ^ 30 ∧ Cancel Chart.wages deltas reversed ∧
      reversed.map Delta.entry = [⟨Id.ofNat 1, 1500 * 10 ^ 27, 0⟩,
        ⟨Id.ofNat 2, 5 * 10 ^ 27, 1505 * 10 ^ 27⟩] := by
  obtain ⟨totals, validated⟩ : ∃ totals, Chart.twoAccounts.validate Chart.wages = .ok totals :=
    ⟨_, rfl⟩
  obtain ⟨_, mirrored, cancelled⟩ := lines_mirror Chart.twoAccounts Chart.wages
  have few : Chart.wages.length < 2 ^ 30 := by decide
  obtain ⟨deltas, reversed, cancel⟩ := cancelled totals validated few
  have found : (Delta.ofLines (Reversal.lines Chart.wages)).map (·.map Delta.entry) =
      .ok [⟨Id.ofNat 1, 1500 * 10 ^ 27, 0⟩, ⟨Id.ofNat 2, 5 * 10 ^ 27, 1505 * 10 ^ 27⟩] := by rfl
  rw [cancel.made_reversed] at found
  rw [validated] at mirrored
  exact ⟨totals, deltas, reversed, validated, mirrored, few, cancel, Except.ok.inj found⟩

end Reversal

end Countinghouse
