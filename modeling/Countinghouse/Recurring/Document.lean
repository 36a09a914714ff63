import Countinghouse.Journal.Document
import Countinghouse.Recurring.Template

/-! # Documents of templates -/

set_option autoImplicit false

namespace Countinghouse

open Json

def Schedule.decode : Decoder Schedule := asName Schedule.ofCode?

namespace Template

def record : Record Template :=
  Template.mk <$> .need "id" asId <*> .need "name" asString
    <*> .need "lines" (asList Line.record.decode) <*> .need "schedule" Schedule.decode
    <*> .need "isActive" asBool <*> .maybe "lastGeneratedPeriodId" asId

def toJson (t : Template) : Json :=
  .obj [("id", t.id.toJson), ("name", .str t.name), ("lines", .ofList Line.toJson t.lines),
    ("schedule", .str t.schedule.code), ("isActive", .bool t.active),
    ("lastGeneratedPeriodId", .ofOption Id.toJson t.lastGenerated)]

end Template

def Generated.toJson (g : Generated) : Json :=
  .obj [("journalDate", g.date.toJson), ("description", .str g.description),
    ("lines", .ofList Line.toJson g.lines), ("totals", g.totals.toJson)]

end Countinghouse
