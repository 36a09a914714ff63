import Countinghouse.Proofs.Text.Splitting
import Countinghouse.Service.Handler
import Mathlib

/-! # Signed tokens

A token that is signed with the secret of a service is taken by the service for its claims. -/

set_option autoImplicit false

namespace Countinghouse

namespace Base64

theorem sextet?_letter : ∀ n < 64, sextet? (letter n) = some n := by decide +kernel

theorem letter_mem (n : Nat) : letter n ∈ alphabet := by
  unfold letter
  by_cases short : n < alphabet.length
  · simp [List.getD, short]
  · simp only [List.getD, List.getElem?_eq_none (Nat.not_lt.mp short), Option.getD_none]
    decide

theorem encodeBytes_subset (bytes : List UInt8) : encodeBytes bytes ⊆ alphabet := by
  induction bytes using encodeBytes.induct with
  | case1 => exact List.nil_subset _
  | case2 a => simp [encodeBytes, letter_mem]
  | case3 a b => simp [encodeBytes, letter_mem]
  | case4 a b c rest ih => simp [encodeBytes, letter_mem, ih]

theorem decodeSextets?_encodeBytes (bytes : List UInt8) :
    ((encodeBytes bytes).mapM sextet?).bind decodeSextets? = some bytes := by
  have byte : ∀ (a : UInt8) (n : Nat), n = a.toNat → UInt8.ofNat n = a := by
    intro a n same
    rw [same, UInt8.ofNat_toNat]
  have low : ∀ n, sextet? (letter (n % 64)) = some (n % 64) :=
    fun n => sextet?_letter _ (Nat.mod_lt _ (by decide))
  fun_induction encodeBytes bytes with
  | case1 => rfl
  | case2 a n =>
    have bound := a.toNat_lt
    have high := sextet?_letter (n / 64) (by omega)
    have left : n % 64 % 16 = 0 := by omega
    have first := byte a (n / 64 * 4 + n % 64 / 16) (by omega)
    simp only [List.mapM_cons, List.mapM_nil, high, low, Option.pure_def, Option.bind_eq_bind,
      Option.bind_some, decodeSextets?, left, first, if_true]
  | case3 a b n =>
    have boundA := a.toNat_lt
    have boundB := b.toNat_lt
    have high := sextet?_letter (n / 4096) (by omega)
    have left : n % 64 % 4 = 0 := by omega
    have first := byte a (n / 4096 * 4 + n / 64 % 64 / 16) (by omega)
    have second := byte b (n / 64 % 64 % 16 * 16 + n % 64 / 4) (by omega)
    simp only [List.mapM_cons, List.mapM_nil, high, low, Option.pure_def, Option.bind_eq_bind,
      Option.bind_some, decodeSextets?, left, first, second, if_true]
  | case4 a b c rest n ih =>
    have boundA := a.toNat_lt
    have boundB := b.toNat_lt
    have boundC := c.toNat_lt
    have high := sextet?_letter (n / 262144) (by omega)
    have first := byte a (n / 262144 * 4 + n / 4096 % 64 / 16) (by omega)
    have second := byte b (n / 4096 % 64 % 16 * 16 + n / 64 % 64 / 4) (by omega)
    have third := byte c (n / 64 % 64 % 4 * 64 + n % 64) (by omega)
    obtain ⟨sextets, read, decoded⟩ := Option.bind_eq_some_iff.mp ih
    simp only [List.mapM_cons, high, low, read, Option.pure_def, Option.bind_eq_bind,
      Option.bind_some, decodeSextets?, decoded, Option.map_some, first, second, third]

theorem decode?_encode (bytes : List UInt8) : decode? (encode bytes) = some bytes := by
  unfold decode? encode
  rw [String.toList_ofList]
  exact decodeSextets?_encodeBytes bytes

theorem mem_encode {bytes : List UInt8} {c : Char} (present : c ∈ (encode bytes).toList) :
    c ∈ alphabet := by
  rw [encode, String.toList_ofList] at present
  exact encodeBytes_subset bytes present

end Base64
namespace Token

open String

theorem splitOn_points (s : String) : s.splitOn "." = (s.toList.splitOn '.').map ofList :=
  Text.splitOn_mark s '.'

theorem intercalate_points (s : List Char) :
    String.intercalate "." ((s.splitOn '.').map ofList) = ofList s := by
  rw [← toList_inj, toList_intercalate, List.map_map]
  have texts : (toList ∘ ofList : List Char → List Char) = id := funext fun cs => toList_ofList
  simp only [texts, List.map_id, toList_ofList]
  exact List.intercalate_splitOn '.'

theorem splitLast?_append (s : String) {last : String} (noPoint : '.' ∉ last.toList) :
    splitLast? (s ++ "." ++ last) = some (s, last) := by
  have points : (s ++ "." ++ last).splitOn "." =
      (s.toList.splitOn '.').map ofList ++ [last] := by
    have written : (s ++ "." ++ last).toList = s.toList ++ '.' :: last.toList := by simp
    rw [splitOn_points, written, List.splitOn_append_cons_self, List.splitOn_eq_singleton noPoint]
    simp
  have whole := intercalate_points s.toList
  rw [ofList_toList] at whole
  unfold splitLast?
  rw [points, List.reverse_append, List.reverse_singleton, List.singleton_append]
  cases reversed : ((s.toList.splitOn '.').map ofList).reverse with
  | nil => simp [List.splitOn_ne_nil] at reversed
  | cons part parts =>
    simp only [← reversed, List.reverse_reverse, whole]

def said (c : Claims) : List (String × Json) :=
  [("sub", .str c.user.text), ("tid", .str c.tenant.text), ("iat", .int c.issued),
    ("exp", .int c.expires)]

theorem areRegistered_said (c : Claims) : areRegistered (said c) = true := by
  simp [areRegistered, said]

theorem hasAudience_said (c : Claims) : hasAudience (.obj (said c)) = false := by
  simp [hasAudience, said, Json.member?]

theorem check_said {c : Claims} {now : Instant} {bytes : List UInt8}
    (written : Json.readBytes bytes = (.obj (said c), true))
    (decoded : claims.decode (.obj (said c)) = .ok c) (positive : 0 ≤ c.expires)
    (fresh : now.seconds - leeway ≤ c.expires) : check bytes now = .ok c := by
  have inTime : ¬c.expires < now.seconds - leeway := Int.not_lt.mpr fresh
  have someTime : ¬c.expires < 0 := Int.not_lt.mpr positive
  simp [check, payload, written, decoded, areRegistered_said, hasAudience_said, inTime, someTime,
    bind, Except.bind, pure, Except.pure]

theorem validate_sign {secret : String} {now : Instant} {c : Claims}
    (good : check (Text.bytes (Json.obj (said c)).text) now = .ok c) :
    validate secret now (sign secret c) = .ok c := by
  have algorithm : (Json.parseBytes? (Text.bytes
      (Json.obj [("typ", .str "JWT"), ("alg", .str "HS256")]).text)).bind algorithm? =
        some "HS256" := by
    cbv
  have whole : ∀ bytes, '.' ∉ (Base64.encode bytes).toList := by
    intro bytes present
    exact absurd (Base64.mem_encode present) (by decide)
  unfold said at good
  simp only [sign, validate, splitLast?_append _ (whole _), part, Base64.decode?_encode]
  simp [algorithm, good, bind, Except.bind]

def sampleClaims : Claims := ⟨Id.ofNat 1, Id.ofNat 1, 0, 1728000000⟩

set_option maxRecDepth 3000 in
theorem sampleClaims_good :
    check (Text.bytes (Json.obj (said sampleClaims)).text) ⟨1728000000⟩ = .ok sampleClaims := by
  have decoded : claims.decode (.obj (said sampleClaims)) = .ok sampleClaims := by
    have read : (claims.decode (.obj (said sampleClaims))).toOption = some sampleClaims := by
      decide +kernel
    cases outcome : claims.decode (.obj (said sampleClaims)) with
    | error fault => simp [outcome, Except.toOption] at read
    | ok c => exact congrArg Except.ok (by simpa [outcome, Except.toOption] using read)
  exact check_said (by cbv) decoded (by decide) (by decide)

end Token

namespace Service

theorem bearer?_append {token : String}
    (encoded : ∀ c ∈ token.toList, c = '.' ∨ c ∈ Base64.alphabet) :
    bearer? ("Bearer " ++ token) = some token := by
  have visible : (("Bearer ".toList ++ '.' :: Base64.alphabet).all
      fun c => c = '\t' || (' ' ≤ c && c ≤ '~')) = true := by
    decide
  have allVisible : (("Bearer " ++ token).toList.all
      fun c => c = '\t' || (' ' ≤ c && c ≤ '~')) = true := by
    rw [List.all_eq_true, String.toList_append]
    intro c present
    apply List.all_eq_true.mp visible
    rw [List.mem_append, List.mem_cons]
    exact (List.mem_append.mp present).imp_right (encoded c)
  have begins : ("Bearer " ++ token).startsWith "Bearer " = true := by
    rw [String.startsWith_string_iff, String.toList_append]
    exact List.prefix_append _ _
  have behind : ("Bearer " ++ token).toList.drop 7 = token.toList := by
    rw [String.toList_append]
    rfl
  simp only [bearer?, allVisible, begins, behind, Bool.true_or, if_true, String.ofList_toList]

theorem authenticate_sign {service : Service} {now : Instant} {c : Claims}
    (good : Token.check (Text.bytes (Json.obj (Token.said c)).text) now = .ok c) :
    service.authenticate now (some ("Bearer " ++ Token.sign service.secret c)) = .ok c := by
  have encoded : ∀ letter ∈ (Token.sign service.secret c).toList,
      letter = '.' ∨ letter ∈ Base64.alphabet := by
    intro letter present
    have point : ".".toList = ['.'] := rfl
    simp only [Token.sign, String.toList_append, List.mem_append, point,
      List.mem_singleton] at present
    obtain (((header | isPoint) | payload) | isPoint) | signature := present
    · exact Or.inr (Base64.mem_encode header)
    · exact Or.inl isPoint
    · exact Or.inr (Base64.mem_encode payload)
    · exact Or.inl isPoint
    · exact Or.inr (Base64.mem_encode signature)
  simp only [authenticate, Option.bind_some, bearer?_append encoded, Token.validate_sign good]

end Service

end Countinghouse
