import Mathlib.Data.String.Basic

/-! # Splitting texts

A text is split at a character into the texts of the parts of its characters. -/

set_option autoImplicit false

namespace Countinghouse.Text

open String

theorem splitOnAux_mark (mark : Char) (l m r : List Char) (acc : List String) :
    splitOnAux (ofList (l ++ m ++ r)) (singleton mark) ⟨utf8Len l⟩ ⟨utf8Len l + utf8Len m⟩ 0 acc =
      acc.reverse ++ (List.splitOnPPrepend (· == mark) r m.reverse).map ofList := by
  -- `l` has been split off, `m` is the part being read and `r` is to come.
  unfold splitOnAux
  simp only [List.append_assoc, atEnd_iff, rawEndPos_ofList, utf8Len_append, Pos.Raw.mk_le_mk,
    Nat.add_le_add_iff_left, (by omega : utf8Len m + utf8Len r ≤ utf8Len m ↔ utf8Len r = 0),
    utf8Len_eq_zero, List.reverse_cons]
  split
  · subst r
    simpa using extract_of_valid l m []
  · obtain ⟨c, r, rfl⟩ := r.exists_cons_of_ne_nil ‹_›
    have here : Pos.Raw.get (ofList (l ++ (m ++ c :: r))) ⟨utf8Len l + utf8Len m⟩ = c := by
      simpa [-ofList_append] using get_of_valid (l ++ m) (c :: r)
    have beyond : Pos.Raw.next (ofList (l ++ (m ++ c :: r))) ⟨utf8Len l + utf8Len m⟩ =
        ⟨utf8Len l + utf8Len m + c.utf8Size⟩ := by
      simpa [-ofList_append] using next_of_valid (l ++ m) c r
    have between : Pos.Raw.extract (ofList (l ++ (m ++ c :: r))) ⟨utf8Len l⟩
        ⟨utf8Len l + utf8Len m⟩ = ofList m := by
      simpa [-ofList_append] using extract_of_valid l m (c :: r)
    have text : singleton mark = ofList [mark] := by simp
    have first : Pos.Raw.get (singleton mark) 0 = mark := by
      rw [text]
      simpa using get_of_valid [] [mark]
    have past : Pos.Raw.next (singleton mark) 0 = ⟨mark.utf8Size⟩ := by
      rw [text]
      simpa using next_of_valid [] mark []
    have atEnd : (singleton mark).rawEndPos ≤ ⟨mark.utf8Size⟩ := by
      rw [text, rawEndPos_ofList]
      simp
    have back : (⟨utf8Len l + utf8Len m + mark.utf8Size⟩ : Pos.Raw).unoffsetBy ⟨mark.utf8Size⟩ =
        ⟨utf8Len l + utf8Len m⟩ := by
      ext
      simp
    have stay : (⟨utf8Len l + utf8Len m⟩ : Pos.Raw).unoffsetBy 0 = ⟨utf8Len l + utf8Len m⟩ := rfl
    simp only [here, beyond, first, past, atEnd, stay, if_true]
    by_cases isMark : c = mark
    · subst isMark
      have others := splitOnAux_mark c (l ++ m ++ [c]) [] r (ofList m :: acc)
      rw [back, between]
      simpa [Nat.add_assoc, List.splitOnPPrepend_cons_eq_if] using others
    · have others := splitOnAux_mark mark l (m ++ [c]) r acc
      simpa [Nat.add_assoc, List.splitOnPPrepend_cons_eq_if, isMark] using others
termination_by r.length

theorem splitOn_mark (s : String) (mark : Char) :
    s.splitOn (singleton mark) = (s.toList.splitOn mark).map ofList := by
  have all := splitOnAux_mark mark [] [] s.toList []
  simpa [splitOn, List.splitOn] using all

end Countinghouse.Text
