import Countinghouse.Journal.Validation
import Countinghouse.Proofs.Decimal.Exact

/-! # What validation decides

Lines are accepted when each of them has an amount that can be stored on one side of an account
that takes postings, and both sides come to the same.  Otherwise the first line with a fault
decides, and its amounts do before its account.  Fewer than `2 ^ 31` amounts that can be stored
have an exact sum in four places, so the running totals never round and never leave the range:
neither can make lines balance that do not, or refuse lines without a fault. -/

set_option autoImplicit false

namespace Countinghouse

namespace Line

/-- One side has the amount, in grains, and the other side is empty. -/
structure Single (line : Line) (amount : Int) : Prop where
  positive : 0 < amount
  side : line.debit.grains = amount ∧ line.credit.grains = 0 ∨
    line.debit.grains = 0 ∧ line.credit.grains = amount

/-- The amount is below `10 ^ 15` and a multiple of a ten-thousandth. -/
def Bookable (line : Line) : Prop :=
  ∃ amount, line.Single amount ∧ amount < 10 ^ 15 * 10 ^ 28 ∧ 10 ^ 24 ∣ amount

/-- What is wrong with the amounts of a line, the line having an index. -/
inductive AmountFault (line : Line) (index : Nat) : LedgerError → Prop where
  | negative (below : line.debit.grains < 0 ∨ line.credit.grains < 0) :
      AmountFault line index (.negativeAmount index)
  | empty (debit : line.debit.grains = 0) (credit : line.credit.grains = 0) :
      AmountFault line index (.zeroAmount index)
  | double (debit : 0 < line.debit.grains) (credit : 0 < line.credit.grains) :
      AmountFault line index (.bothSides index)
  | large {amount : Int} (single : line.Single amount) (beyond : 10 ^ 15 * 10 ^ 28 ≤ amount) :
      AmountFault line index (.amountOutOfRange index)
  | fine {amount : Int} (single : line.Single amount) (within : amount < 10 ^ 15 * 10 ^ 28)
      (places : ¬ 10 ^ 24 ∣ amount) : AmountFault line index (.amountPrecision index)

def debits (lines : List Line) : Int := (lines.map (·.debit.grains)).sum

def credits (lines : List Line) : Int := (lines.map (·.credit.grains)).sum

end Line

namespace Chart

def Takes (chart : Chart) (id : AccountId) : Prop :=
  ∃ account, chart id = some account ∧ account.active = true ∧ account.directPosting = true

inductive AccountFault (chart : Chart) (id : AccountId) : LedgerError → Prop where
  | unknown (missing : chart id = none) : AccountFault chart id (.accountNotFound id)
  | inactive {account : Account} (known : chart id = some account)
      (unused : account.active = false) : AccountFault chart id (.accountInactive id)
  | reserved {account : Account} (known : chart id = some account)
      (used : account.active = true) (closed : account.directPosting = false) :
      AccountFault chart id (.accountNoDirectPosting id)

def Accepts (chart : Chart) (line : Line) : Prop := line.Bookable ∧ chart.Takes line.account

/-- The account is judged where nothing is wrong with the amounts. -/
def Fault (chart : Chart) (index : Nat) (line : Line) (e : LedgerError) : Prop :=
  line.AmountFault index e ∨ line.Bookable ∧ chart.AccountFault line.account e

end Chart

/-! ## One line -/

namespace Line

variable {line : Line} {index : Nat} {e : LedgerError}

theorem amount_grains (line : Line) : line.amount.grains =
    if line.debit.grains = 0 then line.credit.grains else line.debit.grains := by
  by_cases empty : line.debit.grains = 0
  · rw [amount, if_pos (Decimal.isZero_iff.mpr empty), if_pos empty]
  · rw [amount, if_neg (mt Decimal.isZero_iff.mp empty), if_neg empty]

theorem Single.amount_eq {amount : Int} (single : line.Single amount) :
    line.amount.grains = amount := by
  have positive := single.positive
  rw [amount_grains]
  rcases single.side with ⟨debit, credit⟩ | ⟨debit, credit⟩
  · rw [if_neg (by omega), debit]
  · rw [if_pos debit, credit]

theorem single_amount (debit : 0 ≤ line.debit.grains) (credit : 0 ≤ line.credit.grains)
    (some : ¬ (line.debit.grains = 0 ∧ line.credit.grains = 0))
    (one : line.debit.grains = 0 ∨ line.credit.grains = 0) :
    line.Single line.amount.grains := by
  rw [amount_grains]
  split
  case isTrue empty => exact ⟨by omega, Or.inr ⟨empty, rfl⟩⟩
  case isFalse full => exact ⟨by omega, Or.inl ⟨rfl, one.resolve_left full⟩⟩

theorem checkAmounts_eq (line : Line) (index : Nat) : line.checkAmounts index =
    if line.debit.grains < 0 ∨ line.credit.grains < 0 then .error (.negativeAmount index)
    else if line.debit.grains = 0 ∧ line.credit.grains = 0 then .error (.zeroAmount index)
    else if ¬ line.debit.grains = 0 ∧ ¬ line.credit.grains = 0 then .error (.bothSides index)
    else if ¬ line.amount.grains < 10 ^ 15 * 10 ^ 28 then .error (.amountOutOfRange index)
    else if ¬ 10 ^ 24 ∣ line.amount.grains then .error (.amountPrecision index)
    else .ok () := by
  simp only [checkAmounts, Decimal.lt_zero_iff, Decimal.lt_columnLimit_iff, Decimal.isZero_iff,
    Decimal.fitsScale_iff]

theorem bookable_or_fault (line : Line) (index : Nat) :
    line.Bookable ∨ ∃ e, line.AmountFault index e := by
  by_cases below : line.debit.grains < 0 ∨ line.credit.grains < 0
  · exact Or.inr ⟨_, .negative below⟩
  have debit : 0 ≤ line.debit.grains := by omega
  have credit : 0 ≤ line.credit.grains := by omega
  by_cases none : line.debit.grains = 0 ∧ line.credit.grains = 0
  · exact Or.inr ⟨_, .empty none.1 none.2⟩
  by_cases one : line.debit.grains = 0 ∨ line.credit.grains = 0
  · have single := single_amount debit credit none one
    by_cases within : line.amount.grains < 10 ^ 15 * 10 ^ 28
    · by_cases columnar : 10 ^ 24 ∣ line.amount.grains
      · exact Or.inl ⟨_, single, within, columnar⟩
      · exact Or.inr ⟨_, .fine single within columnar⟩
    · exact Or.inr ⟨_, .large single (by omega)⟩
  · exact Or.inr ⟨_, .double (by omega) (by omega)⟩

theorem AmountFault.checked (fault : line.AmountFault index e) :
    line.checkAmounts index = .error e := by
  rw [checkAmounts_eq]
  cases fault with
  | negative below => rw [if_pos below]
  | empty debit credit => rw [if_neg (by omega), if_pos ⟨debit, credit⟩]
  | double debit credit =>
    rw [if_neg (by omega), if_neg (by omega), if_pos ⟨by omega, by omega⟩]
  | large single beyond =>
    have positive := single.positive
    have side := single.side
    rw [if_neg (by omega), if_neg (by omega), if_neg (by omega), single.amount_eq,
      if_pos (by omega)]
  | fine single within places =>
    have positive := single.positive
    have side := single.side
    rw [if_neg (by omega), if_neg (by omega), if_neg (by omega), single.amount_eq,
      if_neg (by omega), if_pos places]

theorem Bookable.checked (bookable : line.Bookable) (index : Nat) :
    line.checkAmounts index = .ok () := by
  obtain ⟨amount, single, within, columnar⟩ := bookable
  have positive := single.positive
  have side := single.side
  rw [checkAmounts_eq, if_neg (by omega), if_neg (by omega), if_neg (by omega), single.amount_eq,
    if_neg (by omega), if_neg (not_not.mpr columnar)]

theorem Bookable.amounts (bookable : line.Bookable) :
    (Decimal.Amount line.debit.grains ∧ line.debit.grains < 10 ^ 15 * 10 ^ 28) ∧
      Decimal.Amount line.credit.grains ∧ line.credit.grains < 10 ^ 15 * 10 ^ 28 := by
  obtain ⟨amount, ⟨positive, side⟩, within, columnar⟩ := bookable
  have full : Decimal.Amount amount := ⟨positive.le, columnar⟩
  rcases side with ⟨debit, credit⟩ | ⟨debit, credit⟩
  · rw [debit, credit]
    exact ⟨⟨full, within⟩, Decimal.amount_zero, by norm_num⟩
  · rw [debit, credit]
    exact ⟨⟨Decimal.amount_zero, by norm_num⟩, full, within⟩

end Line

namespace Chart

variable {chart : Chart} {line : Line} {index : Nat} {e : LedgerError}

theorem takes_or_fault (chart : Chart) (id : AccountId) :
    chart.Takes id ∨ ∃ e, chart.AccountFault id e := by
  cases known : chart id with
  | none => exact Or.inr ⟨_, .unknown known⟩
  | some account =>
    cases used : account.active with
    | false => exact Or.inr ⟨_, .inactive known used⟩
    | true =>
      cases direct : account.directPosting with
      | false => exact Or.inr ⟨_, .reserved known used direct⟩
      | true => exact Or.inl ⟨account, known, used, direct⟩

theorem AccountFault.checked {id : AccountId} (fault : chart.AccountFault id e) :
    chart.usable id = .error e := by
  unfold usable
  cases fault with
  | unknown missing => rw [missing]
  | inactive known unused => simp [known, unused]
  | reserved known used closed => simp [known, used, closed]

theorem Takes.usable {id : AccountId} (takes : chart.Takes id) :
    ∃ account, chart.usable id = .ok account := by
  obtain ⟨account, known, used, direct⟩ := takes
  exact ⟨account, by simp [Chart.usable, known, used, direct]⟩

theorem accepts_or_fault (chart : Chart) (index : Nat) (line : Line) :
    chart.Accepts line ∨ ∃ e, chart.Fault index line e := by
  rcases line.bookable_or_fault index with bookable | ⟨e, fault⟩
  · rcases chart.takes_or_fault line.account with takes | ⟨e, fault⟩
    · exact Or.inl ⟨bookable, takes⟩
    · exact Or.inr ⟨e, Or.inr ⟨bookable, fault⟩⟩
  · exact Or.inr ⟨e, Or.inl fault⟩

theorem checkLines_accepted (accepts : chart.Accepts line) (index : Nat) (rest : List Line) :
    chart.checkLines index (line :: rest) = chart.checkLines (index + 1) rest := by
  obtain ⟨account, usable⟩ := accepts.2.usable
  rw [checkLines, accepts.1.checked index]
  dsimp only
  rw [usable]

theorem checkLines_fault (fault : chart.Fault index line e) (rest : List Line) :
    chart.checkLines index (line :: rest) = .error e := by
  rw [checkLines]
  rcases fault with fault | ⟨bookable, fault⟩
  · rw [fault.checked]
  · rw [bookable.checked index]
    dsimp only
    rw [fault.checked]

/-! ## All lines -/

theorem checkLines_append {earlier : List Line} (accepted : ∀ line ∈ earlier, chart.Accepts line)
    (index : Nat) (later : List Line) :
    chart.checkLines index (earlier ++ later) =
      chart.checkLines (index + earlier.length) later := by
  induction earlier generalizing index with
  | nil => rfl
  | cons line rest ih =>
    obtain ⟨first, others⟩ := List.forall_mem_cons.mp accepted
    rw [List.cons_append, checkLines_accepted first, ih others, List.length_cons]
    congr 1
    omega

theorem checkLines_all {lines : List Line} (accepted : ∀ line ∈ lines, chart.Accepts line)
    (index : Nat) : chart.checkLines index lines = .ok () := by
  have checked := checkLines_append accepted index []
  rwa [List.append_nil] at checked

theorem exists_first (chart : Chart) (lines : List Line) :
    (∀ line ∈ lines, chart.Accepts line) ∨
      ∃ earlier line later, lines = earlier ++ line :: later ∧
        (∀ other ∈ earlier, chart.Accepts other) ∧ ¬ chart.Accepts line := by
  induction lines with
  | nil => exact Or.inl (List.forall_mem_nil _)
  | cons line rest ih =>
    by_cases accepts : chart.Accepts line
    · rcases ih with accepted | ⟨earlier, other, later, rfl, accepted, refused⟩
      · exact Or.inl (List.forall_mem_cons.mpr ⟨accepts, accepted⟩)
      · exact Or.inr ⟨line :: earlier, other, later, rfl,
          List.forall_mem_cons.mpr ⟨accepts, accepted⟩, refused⟩
    · exact Or.inr ⟨[], line, rest, rfl, List.forall_mem_nil _, accepts⟩

end Chart

/-! ## Totals -/

theorem Totals.addLines_exact (acc : Totals) (index : Nat) {lines : List Line}
    (bookable : ∀ line ∈ lines, line.Bookable) (debit : Decimal.Amount acc.debit.grains)
    (credit : Decimal.Amount acc.credit.grains)
    (debit_small : acc.debit.grains + lines.length * 10 ^ 43 < Decimal.exactLimit)
    (credit_small : acc.credit.grains + lines.length * 10 ^ 43 < Decimal.exactLimit) :
    ∃ totals, acc.addLines index lines = .ok totals ∧
      totals.debit.grains = acc.debit.grains + Line.debits lines ∧
      totals.credit.grains = acc.credit.grains + Line.credits lines := by
  induction lines generalizing acc index with
  | nil => exact ⟨acc, rfl, (add_zero _).symm, (add_zero _).symm⟩
  | cons line rest ih =>
    obtain ⟨first, others⟩ := List.forall_mem_cons.mp bookable
    obtain ⟨⟨debit', debit_within⟩, credit', credit_within⟩ := first.amounts
    -- A line adds less than `10 ^ 43` grains to a side, which leaves the room the others need.
    rw [List.length_cons, Nat.cast_succ] at debit_small credit_small
    have debit_nonneg := (debit.add debit').1
    have credit_nonneg := (credit.add credit').1
    obtain ⟨debited, debit_added, debit_eq⟩ := Decimal.add?_exact debit.2 debit'.2 (by omega)
    obtain ⟨credited, credit_added, credit_eq⟩ := Decimal.add?_exact credit.2 credit'.2 (by omega)
    have debit_amount := debit.add debit'
    have credit_amount := credit.add credit'
    rw [← debit_eq] at debit_amount
    rw [← credit_eq] at credit_amount
    obtain ⟨totals, added, debit_total, credit_total⟩ :=
      ih ⟨debited, credited⟩ (index + 1) others debit_amount credit_amount
        (by dsimp only; omega) (by dsimp only; omega)
    refine ⟨totals, ?_, ?_, ?_⟩
    · rw [addLines, debit_added, credit_added]
      exact added
    · rw [debit_total, Line.debits, Line.debits, List.map_cons, List.sum_cons, ← add_assoc,
        debit_eq]
    · rw [credit_total, Line.credits, Line.credits, List.map_cons, List.sum_cons, ← add_assoc,
        credit_eq]

theorem Totals.ofLines_exact {lines : List Line} (few : lines.length < 2 ^ 31)
    (bookable : ∀ line ∈ lines, line.Bookable) :
    ∃ totals, Totals.ofLines lines = .ok totals ∧ totals.debit.grains = Line.debits lines ∧
      totals.credit.grains = Line.credits lines := by
  have small : (0 : Int) + lines.length * 10 ^ 43 < Decimal.exactLimit := by
    unfold Decimal.exactLimit
    omega
  obtain ⟨totals, added, debit, credit⟩ :=
    Totals.addLines_exact .zero 0 bookable Decimal.amount_zero Decimal.amount_zero small small
  exact ⟨totals, added, debit.trans (zero_add _), credit.trans (zero_add _)⟩

/-! ## The judgement -/

namespace Chart

/-- The answers that lines may get. -/
inductive Judgement (chart : Chart) (lines : List Line) : Except LedgerError Totals → Prop where
  | empty (none : lines = []) : Judgement chart lines (.error .noLines)
  | faulty {earlier later : List Line} {line : Line} {e : LedgerError}
      (split : lines = earlier ++ line :: later)
      (accepted : ∀ other ∈ earlier, chart.Accepts other)
      (fault : chart.Fault earlier.length line e) : Judgement chart lines (.error e)
  | unbalanced {totals : Totals} (accepted : ∀ line ∈ lines, chart.Accepts line)
      (debit : totals.debit.grains = Line.debits lines)
      (credit : totals.credit.grains = Line.credits lines)
      (differ : Line.debits lines ≠ Line.credits lines) :
      Judgement chart lines (.error (.unbalanced totals.debit totals.credit))
  | balanced {totals : Totals} (some : lines ≠ [])
      (accepted : ∀ line ∈ lines, chart.Accepts line)
      (debit : totals.debit.grains = Line.debits lines)
      (credit : totals.credit.grains = Line.credits lines)
      (equal : Line.debits lines = Line.credits lines) : Judgement chart lines (.ok totals)

/-- What validation answers for lines. -/
structure Validates (chart : Chart) (lines : List Line) : Prop where
  accepted_iff : (∃ totals, chart.validate lines = .ok totals) ↔
    lines ≠ [] ∧ (∀ line ∈ lines, chart.Accepts line) ∧ Line.debits lines = Line.credits lines
  exact : ∀ totals, chart.validate lines = .ok totals →
    totals.debit.grains = Line.debits lines ∧ totals.credit.grains = Line.credits lines
  empty : lines = [] → chart.validate lines = .error .noLines
  first_fault : ∀ earlier line later, lines = earlier ++ line :: later →
    (∀ other ∈ earlier, chart.Accepts other) → ¬ chart.Accepts line →
      ∀ e, chart.validate lines = .error e ↔ chart.Fault earlier.length line e
  unbalanced : ∀ debit credit, chart.validate lines = .error (.unbalanced debit credit) →
    (∀ line ∈ lines, chart.Accepts line) ∧ debit.grains = Line.debits lines ∧
      credit.grains = Line.credits lines ∧ Line.debits lines ≠ Line.credits lines
  /-- A line may be out of range, the sums of lines that passed never are. -/
  out_of_range : ∀ index, chart.validate lines = .error (.amountOutOfRange index) →
    ∃ line amount, lines[index]? = some line ∧ line.Single amount ∧ 10 ^ 15 * 10 ^ 28 ≤ amount
  totalled : (∀ line ∈ lines, line.Bookable) → ∃ totals, Totals.ofLines lines = .ok totals

variable {chart : Chart} {lines : List Line} {line : Line} {e : LedgerError}

theorem validate_accepted (some : lines ≠ []) (accepted : ∀ line ∈ lines, chart.Accepts line)
    {totals : Totals} (totalled : Totals.ofLines lines = .ok totals) :
    chart.validate lines =
      if totals.Balanced then .ok totals else .error (.unbalanced totals.debit totals.credit) := by
  rw [validate, List.isEmpty_eq_false_iff.mpr some, if_neg Bool.false_ne_true,
    checkLines_all accepted]
  dsimp only
  rw [totalled]

theorem validate_fault {earlier later : List Line}
    (accepted : ∀ other ∈ earlier, chart.Accepts other)
    (fault : chart.Fault earlier.length line e) :
    chart.validate (earlier ++ line :: later) = .error e := by
  rw [← Nat.zero_add earlier.length] at fault
  rw [validate, List.isEmpty_eq_false_iff.mpr (by simp), if_neg Bool.false_ne_true,
    checkLines_append accepted, checkLines_fault fault]

theorem validate_error_iff {earlier later : List Line}
    (accepted : ∀ other ∈ earlier, chart.Accepts other) (refused : ¬ chart.Accepts line) :
    chart.validate (earlier ++ line :: later) = .error e ↔
      chart.Fault earlier.length line e := by
  refine ⟨fun answered => ?_, validate_fault accepted⟩
  obtain ⟨e', fault⟩ := (chart.accepts_or_fault earlier.length line).resolve_left refused
  rw [validate_fault accepted fault] at answered
  obtain rfl := Except.error.inj answered
  exact fault

theorem Fault.refused {index : Nat} (fault : chart.Fault index line e) : ¬ chart.Accepts line := by
  intro accepts
  have checked := checkLines_accepted accepts index []
  rw [checkLines_fault fault] at checked
  cases checked

theorem validate_judgement (chart : Chart) (few : lines.length < 2 ^ 31) :
    chart.Judgement lines (chart.validate lines) := by
  rcases chart.exists_first lines with accepted | ⟨earlier, line, later, rfl, accepted, refused⟩
  · by_cases none : lines = []
    · rw [none]
      exact .empty rfl
    · obtain ⟨totals, totalled, debit, credit⟩ :=
        Totals.ofLines_exact few fun line present => (accepted line present).1
      have balanced_iff : totals.Balanced ↔ Line.debits lines = Line.credits lines := by
        rw [← debit, ← credit]
        exact Iff.rfl
      rw [validate_accepted none accepted totalled]
      split
      case isTrue equal => exact .balanced none accepted debit credit (balanced_iff.mp equal)
      case isFalse differ => exact .unbalanced accepted debit credit (mt balanced_iff.mpr differ)
  · obtain ⟨e, fault⟩ := (chart.accepts_or_fault earlier.length line).resolve_left refused
    rw [validate_fault accepted fault]
    exact .faulty rfl accepted fault

/-- Fewer than `2 ^ 31` lines, whatever their amounts and accounts, are accepted exactly when
there are some, each can be booked and both sides come to the same. -/
theorem validate_exact (chart : Chart) (lines : List Line) (few : lines.length < 2 ^ 31) :
    chart.Validates lines := by
  have judgement := validate_judgement chart few
  constructor
  · constructor
    · rintro ⟨totals, answered⟩
      rw [answered] at judgement
      cases judgement with
      | balanced some accepted debit credit equal => exact ⟨some, accepted, equal⟩
    · rintro ⟨some, accepted, equal⟩
      generalize chart.validate lines = answer at judgement
      cases judgement with
      | empty none => exact absurd none some
      | faulty split _ fault => exact absurd (accepted _ (by simp [split])) fault.refused
      | unbalanced _ debit credit differ => exact absurd equal differ
      | balanced => exact ⟨_, rfl⟩
  · intro totals answered
    rw [answered] at judgement
    cases judgement with
    | balanced some accepted debit credit equal => exact ⟨debit, credit⟩
  · rintro rfl
    rfl
  · rintro earlier line later rfl accepted refused e
    exact validate_error_iff accepted refused
  · intro debited credited answered
    rw [answered] at judgement
    cases judgement with
    | faulty split accepted fault =>
      rcases fault with fault | ⟨_, fault⟩
      · cases fault
      · cases fault
    | unbalanced accepted debit credit differ => exact ⟨accepted, debit, credit, differ⟩
  · intro index answered
    rw [answered] at judgement
    cases judgement with
    | @faulty earlier _ line _ split accepted fault =>
      rcases fault with fault | ⟨_, fault⟩
      · cases fault with
        | large single beyond => exact ⟨line, _, by simp [split], single, beyond⟩
      · cases fault
  · intro bookable
    obtain ⟨totals, totalled, _⟩ := Totals.ofLines_exact few bookable
    exact ⟨totals, totalled⟩

/-- Nine hundred trillion and a half against its two parts.  The half is written to 28 places, and
so many places do not fit behind the sum. -/
def splitAmount : List Line :=
  let amount (units : Int) (scale : Nat) : Decimal := (Decimal.ofUnits? units scale).getD .zero
  [⟨Id.ofNat 1, amount 9000000000000005 1, .zero, none, .none⟩,
    ⟨Id.ofNat 2, .zero, amount (5 * 10 ^ 27) 28, none, .none⟩,
    ⟨Id.ofNat 1, .zero, amount 900000000000000 0, none, .none⟩]

def twoAccounts : Chart :=
  .ofList [⟨Id.ofNat 1, .asset, true, true, false⟩, ⟨Id.ofNat 2, .expense, true, true, true⟩]

theorem splitAmount_exact :
    splitAmount.length < 2 ^ 31 ∧ twoAccounts.Validates splitAmount ∧
      ∃ totals, twoAccounts.validate splitAmount = .ok totals ∧ totals.credit.scale = 13 := by
  refine ⟨by decide, validate_exact twoAccounts splitAmount (by decide), ?_⟩
  exact ⟨_, rfl, by decide⟩

end Chart

end Countinghouse
