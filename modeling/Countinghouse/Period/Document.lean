import Countinghouse.Journal.Document
import Countinghouse.Period.Closing

/-! # Documents of the calendar -/

set_option autoImplicit false

namespace Countinghouse

open Json

def PeriodStatus.toJson (status : PeriodStatus) : Json := .str status.code

def PeriodStatus.decode : Decoder PeriodStatus := asName PeriodStatus.ofCode?

namespace Period

def record : Record Period :=
  Period.mk <$> .need "id" asId <*> .need "startDate" asDate <*> .need "endDate" asDate
    <*> .need "status" PeriodStatus.decode

def toJson (p : Period) : Json :=
  .obj [("id", p.id.toJson), ("startDate", p.start.toJson), ("endDate", p.finish.toJson),
    ("status", p.status.toJson)]

end Period

def ChecklistItem.record : Record ChecklistItem :=
  ChecklistItem.mk <$> .need "code" asString <*> .need "label" asString
    <*> .maybe "completedBy" asId <*> .maybe "completedAt" asInstant

def PeriodAction.toJson : PeriodAction → Json
  | .transition start target actor _ =>
      .obj [("action", .str "transition"), ("from", start.toJson), ("to", target.toJson),
        ("actor", actor.toJson), ("newStatus", target.toJson)]
  | .unchanged status =>
      .obj [("action", .str "unchanged"), ("status", status.toJson), ("newStatus", status.toJson)]

def SignOff.toJson : SignOff → Json
  | .completed actor _ => .obj [("completed", .bool true), ("by", actor.toJson)]
  | .alreadyComplete => .obj [("completed", .bool false), ("already", .bool true)]

end Countinghouse
