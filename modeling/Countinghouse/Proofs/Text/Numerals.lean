import Countinghouse.Ident
import Mathlib.Data.List.Basic

/-! # Reading back what is written in digits

A numeral is the text of a list of digits, each less than the base.  A reader that takes the
digits one by one finds the number again, and so an identifier is read back as it was written. -/

set_option autoImplicit false

namespace Countinghouse

namespace Text

def number (base before : Nat) (digits : List Nat) : Nat :=
  digits.foldl (fun n d => n * base + d) before

def spelled (digits : List Nat) : List Char := digits.map Nat.digitChar

variable {base : Nat}

theorem number_cons (before d : Nat) (rest : List Nat) :
    number base before (d :: rest) = number base (before * base + d) rest := rfl

theorem number_append (before : Nat) (first second : List Nat) :
    number base before (first ++ second) = number base (number base before first) second :=
  List.foldl_append ..

theorem number_zeros (count : Nat) (digits : List Nat) :
    number base 0 (List.replicate count 0 ++ digits) = number base 0 digits := by
  induction count with
  | zero => rfl
  | succ count ih => rwa [List.replicate_succ, List.cons_append, number_cons, Nat.zero_mul]

theorem le_number (positive : 0 < base) (before : Nat) (digits : List Nat) :
    before ≤ number base before digits := by
  induction digits generalizing before with
  | nil => exact Nat.le_refl _
  | cons d rest ih =>
    have grows : before ≤ before * base + d :=
      Nat.le_add_right_of_le (Nat.le_mul_of_pos_right before positive)
    exact Nat.le_trans grows (ih _)

theorem toDigits_spelled (proper : 1 < base) (n : Nat) :
    ∃ digits, Nat.toDigits base n = spelled digits ∧ (∀ d ∈ digits, d < base) ∧
      number base 0 digits = n := by
  induction n using Nat.strongRecOn with
  | ind n ih =>
    rw [Nat.toDigits_eq_if proper]
    split
    case isTrue small => exact ⟨[n], rfl, by simpa using small, by simp [number]⟩
    case isFalse large =>
      have less : n / base < n := Nat.div_lt_self (by omega) proper
      obtain ⟨digits, written, small, meant⟩ := ih (n / base) less
      refine ⟨digits ++ [n % base], by rw [written, spelled, spelled, List.map_append]; rfl, ?_, ?_⟩
      · rw [List.forall_mem_append, List.forall_mem_singleton]
        exact ⟨small, Nat.mod_lt n (by omega)⟩
      · rw [number_append, meant, number_cons]
        exact Nat.div_add_mod' n base

theorem padLeft_spelled (proper : 1 < base) (width n : Nat) :
    ∃ digits, padLeft width '0' (Nat.toDigits base n) = spelled digits ∧
      (∀ d ∈ digits, d < base) ∧ number base 0 digits = n ∧
        digits.length = max width (Nat.toDigits base n).length := by
  obtain ⟨digits, written, small, meant⟩ := toDigits_spelled proper n
  have length : (Nat.toDigits base n).length = digits.length := by
    rw [written, spelled, List.length_map]
  refine ⟨List.replicate (width - digits.length) 0 ++ digits, ?_, ?_, ?_, ?_⟩
  · rw [padLeft, length, written, spelled, spelled, List.map_append, List.map_replicate]
    rfl
  · rw [List.forall_mem_append]
    refine ⟨fun d zero => ?_, small⟩
    rw [List.eq_of_mem_replicate zero]
    omega
  · rw [number_zeros, meant]
  · rw [List.length_append, List.length_replicate, length]
    omega

theorem hexDigit?_digitChar {d : Nat} (small : d < 16) : hexDigit? d.digitChar = some d := by
  revert d
  decide

theorem digit?_digitChar {d : Nat} (small : d < 10) : digit? d.digitChar = some d := by
  revert d
  decide

theorem hexRun_spelled {digits : List Nat} {count : Nat} (small : ∀ d ∈ digits, d < 16)
    (length : digits.length = count) (before : Nat) (rest : List Char) :
    hexRun count before (spelled digits ++ rest) = some (number 16 before digits, rest) := by
  subst length
  induction digits generalizing before with
  | nil => rfl
  | cons d others ih =>
    obtain ⟨first, small⟩ := List.forall_mem_cons.mp small
    rw [List.length_cons, spelled, List.map_cons, List.cons_append, hexRun,
      hexDigit?_digitChar first]
    exact ih small _

end Text

namespace Id

open Text

variable {kind : Kind}

theorem hexGroups_spelled {digits : List Nat} {count : Nat} (small : ∀ d ∈ digits, d < 16)
    (length : digits.length = count) (counts : List Nat) (before : Nat) (rest : List Char) :
    hexGroups (count :: counts) before ('-' :: (spelled digits ++ rest)) =
      hexGroups counts (number 16 before digits) rest := by
  rw [hexGroups, hexRun_spelled small length]

theorem ofHyphenated?_spelled {a b c d e : List Nat} (small : ∀ n ∈ a ++ b ++ c ++ d ++ e, n < 16)
    (lengths : [a, b, c, d, e].map List.length = [8, 4, 4, 4, 12]) :
    ofHyphenated? (spelled a ++ '-' :: (spelled b ++ '-' :: (spelled c ++
        '-' :: (spelled d ++ '-' :: (spelled e ++ []))))) =
      some (number 16 0 (a ++ b ++ c ++ d ++ e)) := by
  simp only [List.map_cons, List.map_nil, List.cons.injEq, and_true] at lengths
  obtain ⟨first, second, third, fourth, fifth⟩ := lengths
  simp only [List.forall_mem_append] at small
  obtain ⟨⟨⟨⟨small_a, small_b⟩, small_c⟩, small_d⟩, small_e⟩ := small
  simp only [ofHyphenated?, hexRun_spelled small_a first, hexGroups_spelled small_b second,
    hexGroups_spelled small_c third, hexGroups_spelled small_d fourth,
    hexGroups_spelled small_e fifth, hexGroups, number_append]

theorem unwrap_spelled {d : Nat} (small : d < 16) (rest : List Char) :
    unwrap (d.digitChar :: rest) = (.bare, d.digitChar :: rest) := by
  have plain : d.digitChar.toLower ≠ 'u' ∧ d.digitChar ≠ '\x7b' := by
    revert d
    decide
  unfold unwrap
  split
  case isTrue marked =>
    rw [List.take_succ_cons, List.map_cons] at marked
    exact absurd (List.cons.inj marked).1 plain.1
  case isFalse =>
    split
    case h_1 first => exact absurd (List.cons.inj first).1 plain.2
    case h_2 => rfl

theorem read?_text (id : Id kind) : read? id.text = some id := by
  obtain ⟨digits, written, small, meant, length⟩ :=
    padLeft_spelled (show 1 < 16 by decide) 32 id.value
  have narrow : (Nat.toDigits 16 id.value).length ≤ 32 :=
    (Nat.length_toDigits_le_iff (by decide) (by decide)).mpr id.value_lt
  rw [Nat.max_eq_left narrow] at length
  let cut (from_ count : Nat) : List Nat := (digits.drop from_).take count
  have parts : digits.take 8 ++ cut 8 4 ++ cut 12 4 ++ cut 16 4 ++ digits.drop 20 = digits := by
    simp only [cut, ← List.take_add, Nat.reduceAdd, List.take_append_drop]
  have text : id.text.toList = spelled (digits.take 8) ++ '-' :: (spelled (cut 8 4) ++
      '-' :: (spelled (cut 12 4) ++ '-' :: (spelled (cut 16 4) ++
        '-' :: (spelled (digits.drop 20) ++ [])))) := by
    simp only [Id.text, written, String.toList_ofList, spelled, cut, List.map_take, List.map_drop,
      List.append_assoc, List.cons_append, List.append_nil]
  have found := ofHyphenated?_spelled (parts ▸ small) (by simp [cut, length])
  rw [parts, meant, ← text] at found
  have bare : unwrap id.text.toList = (.bare, id.text.toList) := by
    obtain ⟨d, others, rfl⟩ := List.exists_cons_of_length_eq_add_one length
    rw [text]
    exact unwrap_spelled (small d List.mem_cons_self) _
  simp only [read?, valueOf?, bare, found, dif_pos id.value_lt]

end Id

end Countinghouse
