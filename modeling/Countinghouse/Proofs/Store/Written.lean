import Countinghouse.Proofs.Journal.Entries
import Countinghouse.Proofs.Journal.Validation
import Countinghouse.Proofs.Store.Reading

/-! # Lines as rows

The lines of a draft are written as rows that are numbered from one, and read in the order of
their numbers.  A line is taken when its account exists and what its columns make of its amounts
stands on one side.  So lines are read back as they were written, but for the amounts: these have
four places, and are equal to what was written where that needs no more. -/

set_option autoImplicit false

namespace Countinghouse

namespace Decimal

theorem toColumn?_same_iff {a b : Decimal} (stored : a.toColumn? = some b) :
    b.Same a ↔ a.FitsScale := by
  rw [fitsScale_iff]
  constructor
  · intro same
    rw [← show b.grains = a.grains from same, (ofColumnUnits?_some stored).2]
    exact dvd_mul_left _ _
  · exact fun columnar => toColumn?_grains columnar stored

theorem Storable.toColumn? {a : Decimal} (storable : a.Storable) :
    ∃ b, a.toColumn? = some b := by
  obtain ⟨small, columnar⟩ := storable_iff.mp storable
  have units := columnUnits_grains columnar
  have within : a.columnUnits.natAbs < 10 ^ 19 := by omega
  exact ⟨_, dif_pos within⟩

end Decimal

namespace Line

/-- Two lines are equal, their amounts in value. -/
structure Same (a b : Line) : Prop where
  account : a.account = b.account
  debit : a.debit.Same b.debit
  credit : a.credit.Same b.credit
  memo : a.memo = b.memo
  dimensions : a.dimensions = b.dimensions

/-- The line is kept with what its columns make of its amounts. -/
structure KeptAs (line kept : Line) : Prop where
  account : kept.account = line.account
  debit : line.debit.toColumn? = some kept.debit
  credit : line.credit.toColumn? = some kept.credit
  memo : kept.memo = line.memo
  dimensions : kept.dimensions = line.dimensions

def Storable (line : Line) : Prop := line.debit.Storable ∧ line.credit.Storable

def FitsScale (line : Line) : Prop := line.debit.FitsScale ∧ line.credit.FitsScale

instance (line : Line) : Decidable line.Storable := inferInstanceAs (Decidable (_ ∧ _))
instance (line : Line) : Decidable line.FitsScale := inferInstanceAs (Decidable (_ ∧ _))

variable {line kept : Line}

theorem KeptAs.same_iff (keptAs : line.KeptAs kept) : kept.Same line ↔ line.FitsScale := by
  have debit := Decimal.toColumn?_same_iff keptAs.debit
  have credit := Decimal.toColumn?_same_iff keptAs.credit
  constructor
  · exact fun same => ⟨debit.mp same.debit, credit.mp same.credit⟩
  · rintro ⟨fits, fits'⟩
    exact ⟨keptAs.account, debit.mpr fits, credit.mpr fits', keptAs.memo, keptAs.dimensions⟩

theorem KeptAs.entry_eq (amounts : line.entry.Amounts) (keptAs : line.KeptAs kept) :
    kept.entry = line.entry := by
  simp only [entry, keptAs.account, Decimal.toColumn?_grains amounts.1.2 keptAs.debit,
    Decimal.toColumn?_grains amounts.2.2 keptAs.credit]

theorem Storable.fitsScale (storable : line.Storable) : line.FitsScale :=
  ⟨storable.1.2, storable.2.2⟩

theorem Storable.keptAs (storable : line.Storable) : ∃ kept, line.KeptAs kept := by
  obtain ⟨debit, debited⟩ := storable.1.toColumn?
  obtain ⟨credit, credited⟩ := storable.2.toColumn?
  exact ⟨{ line with debit, credit }, rfl, debited, credited, rfl, rfl⟩

theorem oneSided_iff : line.OneSided ↔ 0 ≤ line.debit.grains ∧ 0 ≤ line.credit.grains ∧
    (line.debit.grains = 0 ↔ line.credit.grains ≠ 0) := by
  have zero_le (a : Decimal) : .zero ≤ a ↔ 0 ≤ a.grains := by
    rw [← Decimal.grains_zero]
    exact Iff.rfl
  rw [OneSided, zero_le, zero_le, ne_eq, Bool.eq_iff_iff, Decimal.isZero_iff, Decimal.isZero_iff]
  by_cases debit : line.debit.grains = 0 <;> by_cases credit : line.credit.grains = 0 <;>
    simp [debit, credit]

theorem Same.oneSided (same : kept.Same line) (oneSided : line.OneSided) : kept.OneSided := by
  have debit : kept.debit.grains = line.debit.grains := same.debit
  have credit : kept.credit.grains = line.credit.grains := same.credit
  rw [oneSided_iff, debit, credit]
  exact oneSided_iff.mp oneSided

theorem Bookable.storable (bookable : line.Bookable) : line.Storable := by
  obtain ⟨⟨debit, smallDebit⟩, credit, smallCredit⟩ := bookable.amounts
  refine ⟨Decimal.storable_iff.mpr ⟨?_, debit.2⟩, Decimal.storable_iff.mpr ⟨?_, credit.2⟩⟩
  · have := debit.1
    omega
  · have := credit.1
    omega

theorem Bookable.oneSided (bookable : line.Bookable) : line.OneSided := by
  obtain ⟨amount, ⟨positive, side⟩, _⟩ := bookable
  rw [oneSided_iff]
  rcases side with ⟨debit, credit⟩ | ⟨debit, credit⟩
  · omega
  · omega

theorem same_iff_of_kept {lines kept : List Line} (keptAs : List.Forall₂ KeptAs lines kept) :
    List.Forall₂ Same kept lines ↔ ∀ line ∈ lines, line.FitsScale := by
  induction keptAs with
  | nil => simp
  | cons first _ ih => rw [List.forall₂_cons, List.forall_mem_cons, first.same_iff, ih]

end Line

theorem Chart.validated_accepts {chart : Chart} {lines : List Line} {totals : Totals}
    (validated : chart.validate lines = .ok totals) : ∀ line ∈ lines, chart.Accepts line := by
  rcases chart.exists_first lines with accepted | ⟨earlier, line, later, rfl, accepted, refused⟩
  · exact accepted
  · obtain ⟨e, fault⟩ := (chart.accepts_or_fault (0 + earlier.length) line).resolve_left refused
    have checked := (checkLines_append accepted 0 (line :: later)).trans
      (checkLines_fault fault later)
    rw [validate, checked] at validated
    split at validated <;> cases validated

namespace Store

variable {books other : Store} {ctx : Context} {id : JournalId} {line kept : Line} {index : Nat}
  {lines : List Line} {row : StoredLine} {rows : List StoredLine} {chart : Chart} {totals : Totals}

/-! ## One row -/

/-- The line is taken for the journal, and is kept so. -/
structure Takes (books : Store) (ctx : Context) (id : JournalId) (line kept : Line) : Prop where
  reachable : ¬ ctx.outage.Covers .journalLines
  draft : books.isDraft ctx id = true
  account : books.hasAccount line.account = true
  keptAs : line.KeptAs kept
  oneSided : kept.OneSided

theorem lineRow_ok_iff : books.lineRow ctx id line index = .ok row ↔
    books.Takes ctx id line row.line ∧
      row = ⟨ctx.newId (index + 2), ctx.tenant, id, index + 1, row.line⟩ := by
  simp only [lineRow, bind_ok_iff, pure_ok_iff, Context.use_ok_iff, column_ok_iff,
    constraint_ok_iff, Bool.and_eq_true, decide_eq_true_eq]
  constructor
  · rintro ⟨_, reachable, debit, debited, credit, credited, _, draft, _, ⟨oneSided, account⟩, rfl⟩
    exact ⟨⟨reachable, draft, account, ⟨rfl, debited, credited, rfl, rfl⟩, oneSided⟩, rfl⟩
  · rintro ⟨⟨reachable, draft, account, keptAs, oneSided⟩, isRow⟩
    have isKept : { line with debit := row.line.debit, credit := row.line.credit } = row.line := by
      rw [← keptAs.account, ← keptAs.memo, ← keptAs.dimensions]
    rw [← isKept] at oneSided isRow
    exact ⟨(), reachable, _, keptAs.debit, _, keptAs.credit, (), draft, (),
      ⟨oneSided, account⟩, isRow⟩

theorem hasAccount_iff {id : AccountId} :
    books.hasAccount id = true ↔ ∃ stored ∈ books.accounts, stored.account.id = id := by
  simp [hasAccount]

/-- Of a store it matters only whether the journal is a draft, and which accounts there are. -/
theorem lineRows_congr (draft : other.isDraft ctx id = books.isDraft ctx id)
    (accounts : ∀ line ∈ lines, other.hasAccount line.account = books.hasAccount line.account) :
    other.lineRows ctx id lines = books.lineRows ctx id lines := by
  refine mapM_congr fun x present => ?_
  have known := accounts x.1 (List.fst_mem_of_mem_zipIdx present)
  simp only [lineRow, draft, known]

/-! ## All rows -/

theorem lineRows_ok (made : books.lineRows ctx id lines = .ok rows) :
    List.Forall₂ (fun (x : Line × Nat) row => books.lineRow ctx id x.1 x.2 = .ok row)
      lines.zipIdx rows :=
  mapM_ok_iff.mp made

theorem lineRows_mem (made : books.lineRows ctx id lines = .ok rows) :
    ∀ row ∈ rows, row.journal = id ∧ row.tenant = ctx.tenant := by
  have stored := lineRows_ok made
  clear made
  generalize lines.zipIdx = numbered at stored
  induction stored with
  | nil => simp
  | cons first _ ih =>
    rw [lineRow_ok_iff] at first
    rw [first.2]
    exact List.forall_mem_cons.mpr ⟨⟨rfl, rfl⟩, ih⟩

theorem lineRows_journal (made : books.lineRows ctx id lines = .ok rows) :
    ∀ row ∈ rows, row.journal = id :=
  fun row present => (lineRows_mem made row present).1

theorem lineRows_kept (made : books.lineRows ctx id lines = .ok rows) :
    List.Forall₂ Line.KeptAs lines (rows.map (·.line)) := by
  rw [← List.zipIdx_map_fst 0 lines, List.forall₂_map_left_iff, List.forall₂_map_right_iff]
  exact (lineRows_ok made).imp fun _ _ stored => (lineRow_ok_iff.mp stored).1.keptAs

theorem lineRows_numbers (made : books.lineRows ctx id lines = .ok rows) :
    rows.map (·.number) = List.range' 1 lines.length := by
  have counted : List.Forall₂ Eq (lines.zipIdx.map (·.2 + 1)) (rows.map (·.number)) := by
    rw [List.forall₂_map_left_iff, List.forall₂_map_right_iff]
    refine (lineRows_ok made).imp fun _ _ stored => ?_
    rw [(lineRow_ok_iff.mp stored).2]
  rw [List.forall₂_eq_eq_eq] at counted
  rw [← counted, List.range'_succ_left, ← List.zipIdx_map_snd 0 lines, List.map_map]
  rfl

theorem lineRows_entries (amounts : ∀ line ∈ lines, line.entry.Amounts)
    (made : books.lineRows ctx id lines = .ok rows) :
    rows.map (·.line.entry) = lines.map Line.entry := by
  have kept := (List.forall₂_and_left _ _).mpr ⟨amounts, lineRows_kept made⟩
  have same : List.Forall₂ Eq ((rows.map (·.line)).map Line.entry) (lines.map Line.entry) := by
    rw [List.forall₂_map_left_iff, List.forall₂_map_right_iff]
    exact kept.flip.imp fun _ _ ⟨amounts, keptAs⟩ => keptAs.entry_eq amounts
  rw [List.forall₂_eq_eq_eq, List.map_map] at same
  exact same

/-- Lines whose totals can be stored are booked with what is stored of them. -/
theorem booked_of_stored {stored : Totals} (validated : chart.validate lines = .ok totals)
    (kept : columns totals = .ok stored) (made : books.lineRows ctx id lines = .ok rows) :
    Entry.Booked (rows.map (·.line.entry)) := by
  obtain ⟨amounts, debit, credit, balanced⟩ := Chart.validate_ok validated
  obtain ⟨debited, credited⟩ := columns_ok kept
  obtain ⟨exactDebit, smallDebit⟩ := debit.exact debited
  obtain ⟨exactCredit, smallCredit⟩ := credit.exact credited
  rw [lineRows_entries amounts made]
  refine ⟨List.forall_mem_map.mpr amounts, ?_, smallDebit, smallCredit⟩
  exact exactDebit.symm.trans (Eq.trans balanced exactCredit)

/-- One line that is not taken keeps all from being written. -/
theorem lineRows_ok_iff : (∃ rows, books.lineRows ctx id lines = .ok rows) ↔
    ∀ line ∈ lines, ∃ kept, books.Takes ctx id line kept := by
  have members := List.forall_mem_map (f := Prod.fst) (l := lines.zipIdx)
    (P := fun line => ∃ kept, books.Takes ctx id line kept)
  rw [List.zipIdx_map_fst] at members
  rw [members, lineRows, mapM_exists_ok_iff]
  refine forall₂_congr fun x _ => ?_
  constructor
  · rintro ⟨row, stored⟩
    exact ⟨row.line, (lineRow_ok_iff.mp stored).1⟩
  · rintro ⟨kept, takes⟩
    exact ⟨⟨ctx.newId (x.2 + 2), ctx.tenant, id, x.2 + 1, kept⟩,
      lineRow_ok_iff.mpr ⟨takes, rfl⟩⟩

/-- Accounts that validation finds are accounts of the tenant. -/
theorem validated_known (read : books.chart ctx lines = .ok chart)
    (validated : chart.validate lines = .ok totals) : ∀ line ∈ lines,
      ∃ stored ∈ books.accounts, stored.tenant = ctx.tenant ∧ stored.account.id = line.account := by
  intro line present
  obtain ⟨account, known, _⟩ := (Chart.validated_accepts validated line present).2
  exact chart_ok read known

theorem storable_takes (reachable : ¬ ctx.outage.Covers .journalLines)
    (draft : books.isDraft ctx id = true) (account : books.hasAccount line.account = true)
    (storable : line.Storable) (oneSided : line.OneSided) :
    ∃ kept, books.Takes ctx id line kept := by
  obtain ⟨kept, keptAs⟩ := storable.keptAs
  have same := keptAs.same_iff.mpr storable.fitsScale
  exact ⟨kept, reachable, draft, account, keptAs, same.oneSided oneSided⟩

/-! ## Read again -/

/-- Rows that stand in the order of their numbers are read in that order. -/
theorem linesOf_numbered {count : Nat} (reachable : ¬ ctx.outage.Covers .journalLines)
    (numbered : (rowsOf id books.journalLines).map (·.number) = List.range' 1 count) :
    books.linesOf ctx id = .ok (rowsOf id books.journalLines) := by
  have increasing : (rowsOf id books.journalLines).Pairwise fun a b => a.number ≤ b.number := by
    have sorted : (List.range' 1 count).Pairwise (· ≤ ·) := List.pairwise_le_range' ..
    rwa [← numbered, List.pairwise_map] at sorted
  have sorted : (rowsOf id books.journalLines).mergeSort (fun a b => decide (a.number ≤ b.number)) =
      rowsOf id books.journalLines :=
    List.mergeSort_of_pairwise (increasing.imp decide_eq_true)
  rw [rowsOf] at sorted ⊢
  rw [linesOf, Context.use, if_neg reachable, sorted]
  rfl

theorem linesOf_written (made : books.lineRows ctx id lines = .ok rows)
    (unused : rowsOf id books.journalLines = []) {reader : Context}
    (reachable : ¬ reader.outage.Covers .journalLines) :
    { books with journalLines := books.journalLines ++ rows }.linesOf reader id = .ok rows := by
  have own : rowsOf id (books.journalLines ++ rows) = rows := by
    rw [rowsOf_append, unused, rowsOf_own (lineRows_journal made), List.nil_append]
  let written : Store := { books with journalLines := books.journalLines ++ rows }
  have found : written.linesOf reader id = .ok (rowsOf id written.journalLines) :=
    linesOf_numbered reachable (own.symm ▸ lineRows_numbers made)
  rwa [own] at found

/-- What becomes of lines that are written for a journal which has no rows, and read then. -/
structure ReadsBack (books : Store) (ctx : Context) (id : JournalId) (lines : List Line) :
    Prop where
  written_iff : (∃ rows, books.lineRows ctx id lines = .ok rows) ↔
    ∀ line ∈ lines, ∃ kept, books.Takes ctx id line kept
  storable : ¬ ctx.outage.Covers .journalLines → books.isDraft ctx id = true →
    (∀ line ∈ lines, books.hasAccount line.account = true ∧ line.Storable ∧ line.OneSided) →
      ∃ rows, books.lineRows ctx id lines = .ok rows ∧
        List.Forall₂ Line.Same (rows.map (·.line)) lines
  validated : ¬ ctx.outage.Covers .journalLines → books.isDraft ctx id = true →
    ∀ chart totals, books.chart ctx lines = .ok chart → chart.validate lines = .ok totals →
      ∃ rows, books.lineRows ctx id lines = .ok rows ∧
        List.Forall₂ Line.Same (rows.map (·.line)) lines
  read : ∀ rows, books.lineRows ctx id lines = .ok rows → ∀ reader : Context,
    ¬ reader.outage.Covers .journalLines →
      { books with journalLines := books.journalLines ++ rows }.linesOf reader id = .ok rows
  numbered : ∀ rows, books.lineRows ctx id lines = .ok rows →
    rows.map (·.number) = List.range' 1 lines.length ∧ ∀ row ∈ rows, row.number < 2 ^ 31
  kept : ∀ rows, books.lineRows ctx id lines = .ok rows →
    List.Forall₂ Line.KeptAs lines (rows.map (·.line))
  same_iff : ∀ rows, books.lineRows ctx id lines = .ok rows →
    (List.Forall₂ Line.Same (rows.map (·.line)) lines ↔ ∀ line ∈ lines, line.FitsScale)

theorem lineRows_storable (reachable : ¬ ctx.outage.Covers .journalLines)
    (draft : books.isDraft ctx id = true)
    (storable : ∀ line ∈ lines,
      books.hasAccount line.account = true ∧ line.Storable ∧ line.OneSided) :
    ∃ rows, books.lineRows ctx id lines = .ok rows ∧
      List.Forall₂ Line.Same (rows.map (·.line)) lines := by
  obtain ⟨rows, made⟩ := lineRows_ok_iff.mpr fun line present =>
    have ⟨account, storable, oneSided⟩ := storable line present
    storable_takes reachable draft account storable oneSided
  exact ⟨rows, made, (Line.same_iff_of_kept (lineRows_kept made)).mpr fun line present =>
    (storable line present).2.1.fitsScale⟩

theorem readsBack (few : lines.length < 2 ^ 31) (unused : rowsOf id books.journalLines = []) :
    books.ReadsBack ctx id lines := by
  constructor
  case written_iff => exact lineRows_ok_iff
  case storable => exact lineRows_storable
  case validated =>
    intro reachable draft chart totals read validated
    refine lineRows_storable reachable draft fun line present => ?_
    have bookable := (Chart.validated_accepts validated line present).1
    obtain ⟨stored, known, _, isIt⟩ := validated_known read validated line present
    exact ⟨hasAccount_iff.mpr ⟨stored, known, isIt⟩, bookable.storable, bookable.oneSided⟩
  case read => exact fun rows made reader => linesOf_written made unused
  case numbered =>
    intro rows made
    have numbers := lineRows_numbers made
    refine ⟨numbers, fun row present => ?_⟩
    have listed : row.number ∈ List.range' 1 lines.length :=
      numbers ▸ List.mem_map_of_mem present
    rw [List.mem_range'_1] at listed
    omega
  case kept => exact fun rows => lineRows_kept
  case same_iff => exact fun rows made => Line.same_iff_of_kept (lineRows_kept made)

end Store

end Countinghouse
