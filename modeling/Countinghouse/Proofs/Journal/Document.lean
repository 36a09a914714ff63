import Countinghouse.Journal.Document
import Countinghouse.Proofs.Decimal.Reading
import Countinghouse.Proofs.Json.Records

/-! # Reading back lines

A line is kept as a document with its members in the order of their names.  It is read back as it
was, the scales of its amounts included. -/

set_option autoImplicit false

namespace Countinghouse

namespace Json

theorem asId_toJson {kind : Kind} (id : Id kind) : asId id.toJson = .ok id := by
  rw [Id.toJson, asId, Id.read?_text]

theorem asDecimal_toJson (a : Decimal) : asDecimal a.toJson = .ok a := by
  rw [Decimal.toJson]
  simp only [asDecimal, Decimal.read?_text, required]

theorem asOption_ofOption {α : Type} {decode : Decoder α} {write : α → Json}
    (reads : ∀ a, decode (write a) = .ok a) (written : ∀ a, write a ≠ .null) (a : Option α) :
    asOption decode (ofOption write a) = .ok a := by
  cases a with
  | none => rfl
  | some a =>
    have some_value : asOption decode (write a) = (decode (write a)).map some := by
      unfold asOption
      split
      case h_1 null => exact absurd null (written a)
      case h_2 => rfl
    rw [ofOption, some_value, reads]
    rfl

theorem orderedItems_eq_map (items : List Json) : orderedItems items = items.map ordered := by
  induction items with
  | nil => rfl
  | cons v rest ih => rw [orderedItems, ih, List.map_cons]

theorem ordered_ofOption {α : Type} {write : α → Json} (flat : ∀ a, (write a).ordered = write a)
    (a : Option α) : (ofOption write a).ordered = ofOption write a := by
  cases a with
  | none => rfl
  | some a => exact flat a

theorem asOption_id {kind : Kind} (id : Option (Id kind)) :
    asOption asId (ofOption Id.toJson id) = .ok id :=
  asOption_ofOption asId_toJson (fun _ => nofun) id

theorem ordered_id {kind : Kind} (id : Option (Id kind)) :
    (ofOption Id.toJson id).ordered = ofOption Id.toJson id :=
  ordered_ofOption (fun _ => rfl) id

theorem ofOption_named {α : Type} {write : α → Json}
    (named : ∀ a name v, write a ≠ .misnamed name v) (a : Option α) (name v : Json) :
    ofOption write a ≠ .misnamed name v := by
  cases a with
  | none => nofun
  | some a => exact named a name v

theorem named_id {kind : Kind} (id : Option (Id kind)) (name v : Json) :
    ofOption Id.toJson id ≠ .misnamed name v :=
  ofOption_named (by simp [Id.toJson]) id name v

end Json

open Json

namespace Dimensions

theorem ordered_toJson (d : Dimensions) : d.toJson.ordered =
    .obj [("departmentId", .ofOption Id.toJson d.department),
      ("fundId", .ofOption Id.toJson d.fund), ("projectId", .ofOption Id.toJson d.project)] := by
  simp [toJson, ordered, orderedMembers, List.mergeSort, ordered_id]

theorem decode_toJson (d : Dimensions) (title : String) :
    record.decodeAs title d.toJson.ordered = .ok d := by
  rw [ordered_toJson, Record.decodeAs_obj]
  · simp [record, Record.build_seq_iff, Record.build_map_iff, Record.maybe, Record.field,
      asOption_id]
  · simp [Record.Fits, record, Record.fields_seq, Record.fields_map, Record.maybe, Record.field,
      asOption_id, named_id, Except.map]
  · simp

end Dimensions

namespace Line

theorem ordered_toJson (line : Line) : line.toJson.ordered =
    .obj [("accountId", line.account.toJson), ("credit", line.credit.toJson),
      ("debit", line.debit.toJson), ("dimensions", line.dimensions.toJson.ordered),
      ("memo", .ofOption .str line.memo)] := by
  have flat := ordered_ofOption (fun s => ordered.eq_def (.str s)) line.memo
  simp [toJson, ordered, orderedMembers, List.mergeSort, flat, Id.toJson, Decimal.toJson]

theorem asOption_memo (memo : Option String) :
    asOption asString (ofOption .str memo) = .ok memo :=
  @asOption_ofOption String asString .str (fun _ => rfl) (by simp) memo

theorem decode_toJson (line : Line) : decode line.toJson.ordered = .ok line := by
  have named : (∀ name v, line.account.toJson ≠ .misnamed name v) ∧
      (∀ name v, line.debit.toJson ≠ .misnamed name v) ∧
      (∀ name v, line.credit.toJson ≠ .misnamed name v) ∧
      (∀ name v, line.dimensions.toJson.ordered ≠ .misnamed name v) ∧
      ∀ name v, ofOption .str line.memo ≠ .misnamed name v :=
    ⟨by simp [Id.toJson], by simp [Decimal.toJson], by simp [Decimal.toJson],
      by simp [Dimensions.ordered_toJson], ofOption_named (by simp) line.memo⟩
  rw [ordered_toJson, decode, Record.decodeAs_obj]
  · simp [record, Record.build_seq_iff, Record.build_map_iff, Record.need, Record.orElse,
      Record.field, asId_toJson, asDecimal_toJson, asOption_memo, Dimensions.decode_toJson]
  · simp [Record.Fits, record, Record.fields_seq, Record.fields_map, Record.need, Record.orElse,
      Record.field, asId_toJson, asDecimal_toJson, asOption_memo, Dimensions.decode_toJson,
      named, Except.map]
  · simp

theorem decode_list (lines : List Line) :
    asList decode (ofList toJson lines).ordered = .ok lines := by
  have items :
      (ofList toJson lines).ordered = .arr (lines.map fun line => line.toJson.ordered) := by
    rw [ofList, ordered, orderedItems_eq_map, List.map_map]
    rfl
  rw [items, asList, mapM_ok_iff, List.forall₂_map_left_iff]
  exact List.forall₂_same.mpr fun line _ => decode_toJson line

end Line

end Countinghouse
