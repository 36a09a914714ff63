import Countinghouse.Proofs.Pages
import Countinghouse.Proofs.Policy.Resolution
import Countinghouse.Proofs.Success
import Countinghouse.Service.Command
import Mathlib

/-! # Journals page by page

The journals that a filter admits are listed from the newest to the oldest, those of one day from
the greatest identifier to the least.  Identifiers are distinct, so this order leaves no choice,
and the pages of the list show each of the journals once. -/

set_option autoImplicit false

namespace Countinghouse

namespace Journal

/-- The journal stands before another one in every list: it is newer, or of the same day with a
greater identifier. -/
def Before (a b : Journal) : Prop := b.date < a.date ∨ (a.date = b.date ∧ b.id < a.id)

variable {a b c : Journal}

theorem Precedes.trans (first : a.Precedes b) (second : b.Precedes c) : a.Precedes c := by
  rcases first with newer | ⟨sameDay, greater⟩ <;> rcases second with newer' | ⟨sameDay', greater'⟩
  · exact Or.inl (Int.lt_trans newer' newer)
  · exact Or.inl (sameDay' ▸ newer)
  · exact Or.inl (sameDay ▸ newer')
  · exact Or.inr ⟨sameDay.trans sameDay', Nat.le_trans greater' greater⟩

theorem Precedes.total (a b : Journal) : a.Precedes b ∨ b.Precedes a := by
  rcases Int.lt_trichotomy a.date.day b.date.day with older | sameDay | newer
  · exact Or.inr (Or.inl older)
  · have same := Date.ext_day sameDay
    rcases Nat.le_total b.id.value a.id.value with greater | less
    · exact Or.inl (Or.inr ⟨same, greater⟩)
    · exact Or.inr (Or.inr ⟨same.symm, less⟩)
  · exact Or.inl (Or.inl newer)

theorem Precedes.before (precedes : a.Precedes b) (apart : a.id ≠ b.id) : a.Before b := by
  rcases precedes with newer | ⟨sameDay, greater⟩
  · exact Or.inl newer
  · refine Or.inr ⟨sameDay, Nat.lt_of_le_of_ne greater fun same => ?_⟩
    exact apart (Id.ext_value same.symm)

end Journal

namespace Store

variable {store : Store} {ctx : Context} {filter : JournalFilter}

/-- The journals of the tenant that a filter admits, in the order of a list. -/
structure Lists (store : Store) (ctx : Context) (filter : JournalFilter) (rows : List Journal) :
    Prop where
  mem_iff : ∀ journal, journal ∈ rows ↔
    journal ∈ store.journals ∧ journal.tenant = ctx.tenant ∧ filter.Admits journal
  once : (rows.map (·.id)).Nodup
  ordered : rows.Pairwise Journal.Before

def listed (store : Store) (ctx : Context) (filter : JournalFilter) : List Journal :=
  (store.journals.filter fun row => row.tenant = ctx.tenant && filter.Admits row).mergeSort
    fun a b => decide (a.Precedes b)

theorem listed_sorted : (store.listed ctx filter).Pairwise Journal.Precedes := by
  have ordered : (store.listed ctx filter).Pairwise fun a b => decide (a.Precedes b) :=
    List.pairwise_mergeSort
      (fun a b c first second => by
        simpa using (of_decide_eq_true first).trans (of_decide_eq_true second))
      (fun a b => by simpa using Journal.Precedes.total a b) _
  exact ordered.imp of_decide_eq_true

theorem listed_ids (ids : (store.journals.map (·.id)).Nodup) :
    ((store.listed ctx filter).map (·.id)).Nodup := by
  have kept : (store.journals.filter fun row =>
      row.tenant = ctx.tenant && filter.Admits row).Sublist store.journals := List.filter_sublist
  exact ((List.mergeSort_perm _ _).map _).nodup_iff.mpr (ids.sublist (kept.map _))

theorem listed_lists (ids : (store.journals.map (·.id)).Nodup) :
    store.Lists ctx filter (store.listed ctx filter) where
  mem_iff journal := by simp [listed]
  once := listed_ids ids
  ordered := listed_sorted.imp₂ (fun _ _ => Journal.Precedes.before)
    (List.pairwise_map.mp (listed_ids ids))

theorem listJournals_eq (reachable : ¬ ctx.outage.Covers .journals) (r : PageRequest) :
    store.listJournals ctx filter r =
      .ok (r.slice (store.listed ctx filter), (store.listed ctx filter).length) := by
  have used : ctx.use .journals = .ok () := Context.use_ok_iff.mpr reachable
  unfold listJournals
  rw [used, listed, List.length_mergeSort]
  rfl

theorem journals_run {r : PageRequest} {text : Option String} {rows : List Journal} {total : Nat}
    (named : Query.statusOf? text = .ok filter.status)
    (found : store.listJournals ctx filter r = .ok (rows, total)) :
    (Query.journals text filter.period r).run ctx store =
      .ok (r.response (rows.map fun j => .obj j.members) total) := by
  simp only [Query.run, named, bind, Except.bind, found, asFailure, Except.mapError, pure,
    Except.pure]

/-- Every page of a list is answered, with the number of journals that the filter admits, and the
pages show each of these once and in order.  The rows before a page are counted with 64 bits. -/
theorem listJournals_tiles (store : Store) (ctx : Context) (filter : JournalFilter)
    (r : PageRequest) (ids : (store.journals.map (·.id)).Nodup)
    (reachable : ¬ ctx.outage.Covers .journals) :
    ∃ (rows : List Journal) (page : Nat → List Journal),
      store.Lists ctx filter rows ∧ r.Tiles rows page ∧
      (∀ n, store.listJournals ctx filter (r.onPage n) = .ok (page n, rows.length)) ∧
      (∀ n text, Query.statusOf? text = .ok filter.status →
        (Query.journals text filter.period (r.onPage n)).run ctx store =
          .ok ((r.onPage n).response ((page n).map fun j => .obj j.members) rows.length)) ∧
      ∀ n < 2 ^ 32, (r.onPage n).offset < 2 ^ 64 := by
  have answered : ∀ n, store.listJournals ctx filter (r.onPage n) =
      .ok ((r.onPage n).slice (store.listed ctx filter), (store.listed ctx filter).length) :=
    fun n => listJournals_eq reachable (r.onPage n)
  refine ⟨store.listed ctx filter, fun n => (r.onPage n).slice (store.listed ctx filter),
    listed_lists ids, r.slices_tile _, answered, ?_, ?_⟩
  · intro n text named
    exact journals_run named (answered n)
  · intro n bits
    exact (r.onPage n).offset_lt bits

def datedBooks : Store :=
  let journal (id tenant : Nat) (date : Date) (status : JournalStatus) : Journal :=
    ⟨Id.ofNat id, Id.ofNat tenant, Id.ofNat 1, date, none,
      ⟨status, Id.ofNat 1, none, none, ⟨.zero, .zero⟩⟩, none, none, none, none, ⟨0⟩, ⟨0⟩⟩
  let first : Date := ⟨20120, by decide, by decide⟩
  let second : Date := ⟨20121, by decide, by decide⟩
  { Store.empty with
    journals := [journal 1 1 first .draft, journal 2 2 first .draft, journal 3 1 second .draft,
      journal 4 1 first .draft, journal 5 1 second .posted, journal 6 1 second .draft] }

/-- The drafts of the first tenant on two pages, the second with one row. -/
theorem datedBooks_tiled :
    let ctx : Context := ⟨Id.ofNat 1, Id.ofNat 1, ⟨0⟩, 1, .default, .none⟩
    let drafts : JournalFilter := ⟨some .draft, none⟩
    let byThree : PageRequest := ⟨1, 3⟩
    (datedBooks.journals.map (·.id)).Nodup ∧ ¬ ctx.outage.Covers .journals ∧
      ∃ rows page, datedBooks.Lists ctx drafts rows ∧ byThree.Tiles rows page ∧
        (page 1).map (·.id) = [Id.ofNat 6, Id.ofNat 3, Id.ofNat 4] ∧
        (page 2).map (·.id) = [Id.ofNat 1] ∧ byThree.totalPages rows.length = 2 := by
  intro ctx drafts byThree
  have ids : (datedBooks.journals.map (·.id)).Nodup := by decide
  have reachable : ¬ ctx.outage.Covers .journals := id
  obtain ⟨rows, page, lists, tiles, answered, _, _⟩ :=
    listJournals_tiles datedBooks ctx drafts byThree ids reachable
  have shown : ∀ n, (datedBooks.listJournals ctx drafts (byThree.onPage n)).map
      (fun found => (found.1.map (·.id), found.2)) = .ok ((page n).map (·.id), rows.length) := by
    intro n
    rw [answered]
    rfl
  have first : (datedBooks.listJournals ctx drafts (byThree.onPage 1)).map
      (fun found => (found.1.map (·.id), found.2)) =
        .ok ([Id.ofNat 6, Id.ofNat 3, Id.ofNat 4], 4) := by cbv
  have second : (datedBooks.listJournals ctx drafts (byThree.onPage 2)).map
      (fun found => (found.1.map (·.id), found.2)) = .ok ([Id.ofNat 1], 4) := by cbv
  obtain ⟨firstPage, count⟩ := Prod.mk.inj (Except.ok.inj ((shown 1).symm.trans first))
  obtain ⟨secondPage, _⟩ := Prod.mk.inj (Except.ok.inj ((shown 2).symm.trans second))
  exact ⟨ids, reachable, rows, page, lists, tiles, firstPage, secondPage, by rw [count]; decide⟩

end Store

end Countinghouse
