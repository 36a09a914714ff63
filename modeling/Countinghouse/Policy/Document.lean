import Countinghouse.Json.Record
import Countinghouse.Policy.Check

/-! # Documents of the policy -/

set_option autoImplicit false

namespace Countinghouse

open Json

def Id.toJson {kind : Kind} (a : Id kind) : Json := .str a.text

def Permission.toJson (p : Permission) : Json := .str p.code

def Permission.decode : Decoder Permission := asName Permission.ofCode?

def PermissionSet.toJson (held : PermissionSet) : Json := .ofList Permission.toJson held

namespace Enforcement

def ofName? : String → Option Enforcement
  | "block" => some .block
  | "warn" => some .warn
  | _ => none

def name : Enforcement → String
  | .block => "block"
  | .warn => "warn"

def decode : Decoder Enforcement := asName ofName?

end Enforcement

namespace Rule

def record : Record Rule :=
  Rule.mk <$> .need "id" asId <*> .need "permissionA" Permission.decode
    <*> .need "permissionB" Permission.decode <*> .need "description" asString
    <*> .need "isActive" asBool

def toJson (rule : Rule) : Json :=
  .obj [("id", rule.id.toJson), ("permissionA", rule.first.toJson),
    ("permissionB", rule.second.toJson), ("description", .str rule.description),
    ("isActive", .bool rule.active)]

end Rule

def RoleConflict.toJson (c : RoleConflict) : Json :=
  .obj [("roleId", c.role.toJson), ("ruleId", c.rule.toJson), ("permissionA", c.first.toJson),
    ("permissionB", c.second.toJson), ("description", .str c.description)]

def UserConflict.toJson (c : UserConflict) : Json :=
  .obj [("userId", c.user.toJson), ("ruleId", c.rule.toJson),
    ("rolesA", .ofList Id.toJson c.firstRoles), ("rolesB", .ofList Id.toJson c.secondRoles),
    ("description", .str c.description)]

def Conflicts.toJson (c : Conflicts) : Json :=
  .obj [("roles", .ofList RoleConflict.toJson c.roles),
    ("users", .ofList UserConflict.toJson c.users)]

def GrantOutcome.toJson : GrantOutcome → Json
  | .clean => .obj [("outcome", .str "clean")]
  | .warned c => .obj [("outcome", .str "warned"), ("conflicts", c.toJson)]

end Countinghouse
