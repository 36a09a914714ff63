import Countinghouse.Ident
import Countinghouse.Policy.Permission

/-! # Rules on the separation of duties

A rule names two permissions that no one should combine.  It is violated by a
set of permissions that holds both, and only while it is active. -/

set_option autoImplicit false

namespace Countinghouse

structure Rule where
  id : RuleId
  first : Permission
  second : Permission
  description : String
  active : Bool
  deriving DecidableEq

namespace Rule

/-- The rule is about exactly these two permissions, in either order. -/
def Pairs (rule : Rule) (a b : Permission) : Prop :=
  (rule.first = a ∧ rule.second = b) ∨ (rule.first = b ∧ rule.second = a)

instance (rule : Rule) (a b : Permission) : Decidable (rule.Pairs a b) :=
  inferInstanceAs (Decidable (_ ∨ _))

/-- An active rule both of whose permissions are held. -/
def ViolatedBy (rule : Rule) (held : PermissionSet) : Prop :=
  rule.active = true ∧ rule.first ∈ held ∧ rule.second ∈ held

instance (rule : Rule) (held : PermissionSet) : Decidable (rule.ViolatedBy held) :=
  inferInstanceAs (Decidable (_ ∧ _))

/-- The pairs that are kept apart unless a tenant says otherwise. -/
def baselinePairs : List (Permission × Permission × String) :=
  [(.journalSubmit, .journalApprove, "Journal submitters cannot approve journals"),
    (.journalPost, .journalFinalPost,
      "Basic posting and final posting must be held by different roles")]

def baseline : List Rule :=
  baselinePairs.zipIdx.map fun ((a, b, description), i) =>
    ⟨Id.ofNat (0x70008000000000000000 + i + 1), a, b, description, true⟩

end Rule

end Countinghouse
