import Countinghouse.Json.Record
import Countinghouse.Proofs.Success

/-! # Reading records

A record is read from a document once every member of it is accepted by the field of its name, and
then part by part: each field of the members that were found. -/

set_option autoImplicit false

namespace Countinghouse.Json.Record

variable {α β : Type} {record : Record α} {find : String → Option Json} {b : β}

theorem build_map_iff {f : α → β} :
    (f <$> record).build find = .ok b ↔ ∃ a, record.build find = .ok a ∧ b = f a := map_ok_iff

theorem build_seq_iff {first : Record (α → β)} {second : Record α} :
    (first <*> second).build find = .ok b ↔
      ∃ f a, first.build find = .ok f ∧ second.build find = .ok a ∧ b = f a := by
  change (first.both second).build find = .ok b ↔ _
  simp only [both]
  cases first.build find with
  | error fault => simp
  | ok f => cases second.build find <;> simp [eq_comm]

theorem fields_map (f : α → β) : (f <$> record).fields = record.fields := rfl

theorem fields_seq (first : Record (α → β)) (second : Record α) :
    (first <*> second).fields = first.fields ++ second.fields := rfl

theorem decode_ok {v : Json} {a : α} (decoded : record.decode v = .ok a) :
    ∃ find, record.build find = .ok a := by
  unfold decode decodeAs at decoded
  split at decoded
  · obtain ⟨_, _, built⟩ := bind_ok_iff.mp decoded
    exact ⟨_, built⟩
  · obtain ⟨_, _, built⟩ := bind_ok_iff.mp decoded
    exact ⟨_, built⟩
  · unfold wrong at decoded
    split at decoded <;> cases decoded

/-- The value is one that the first field of this name accepts. -/
def Fits (fields : List Field) (member : String × Json) : Prop :=
  (∃ field, fields.find? (·.name == member.1) = some field ∧ field.check member.2 = .ok ()) ∧
    ∀ name v, member.2 ≠ .misnamed name v

theorem checkMembers_ok {fields : List Field} {seen : List String} {members : List (String × Json)}
    (fits : ∀ member ∈ members, Fits fields member) (distinct : (members.map (·.1)).Nodup)
    (unseen : ∀ member ∈ members, member.1 ∉ seen) :
    checkMembers fields seen members = .ok () := by
  induction members generalizing seen with
  | nil => rfl
  | cons member rest ih =>
    obtain ⟨name, v⟩ := member
    obtain ⟨⟨⟨field, known, accepts⟩, named⟩, fits⟩ := List.forall_mem_cons.mp fits
    obtain ⟨unseen_first, unseen⟩ := List.forall_mem_cons.mp unseen
    rw [List.map_cons, List.nodup_cons] at distinct
    have others : ∀ member ∈ rest, member.1 ∉ name :: seen := by
      intro member present
      rw [List.mem_cons, not_or]
      exact ⟨fun same => distinct.1 (List.mem_map.mpr ⟨member, present, same⟩),
        unseen member present⟩
    have new : seen.contains name = false := by simpa using unseen_first
    unfold checkMembers
    split
    case h_1 empty => cases empty
    case h_2 misnamed =>
      exact absurd (Prod.mk.inj (List.cons.inj misnamed).1).2 (named _ _)
    case h_3 _ split_ =>
      obtain ⟨first, rfl⟩ := List.cons.inj split_
      obtain ⟨rfl, rfl⟩ := Prod.mk.inj first
      simp only [known, new, accepts]
      exact ih fits distinct.2 others

theorem decodeAs_obj {members : List (String × Json)}
    (fits : ∀ member ∈ members, Fits record.fields member)
    (distinct : (members.map (·.1)).Nodup) (title : String) :
    record.decodeAs title (.obj members) =
      record.build fun name => (members.find? (·.1 == name)).map (·.2) := by
  have checked : checkMembers record.fields [] members = .ok () :=
    checkMembers_ok fits distinct fun _ _ => List.not_mem_nil
  rw [decodeAs, checked]
  rfl

end Countinghouse.Json.Record
