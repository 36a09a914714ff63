import Countinghouse.Audit.Document
import Countinghouse.Bank.Document
import Countinghouse.Period.Document
import Countinghouse.Store.Banking
import Countinghouse.Store.Templates

/-! # Documents of the service

How what is stored is shown to a caller. -/

set_option autoImplicit false

namespace Countinghouse

open Json

def Instant.toJson (t : Instant) : Json := .str t.text

def Mark.members (actorName timeName : String) (mark : Option Mark) : List (String × Json) :=
  [(actorName, .ofOption (fun m => m.actor.toJson) mark),
    (timeName, .ofOption (fun m => m.time.toJson) mark)]

def Journal.members (j : Journal) : List (String × Json) :=
  [("id", j.id.toJson), ("periodId", j.period.toJson), ("journalDate", j.date.toJson),
    ("description", .ofOption .str j.description), ("status", j.state.status.toJson),
    ("totalDebit", j.state.totals.debit.toJson), ("totalCredit", j.state.totals.credit.toJson),
    ("createdBy", j.state.createdBy.toJson),
    ("submittedBy", .ofOption Id.toJson j.state.submittedBy),
    ("approvedBy", .ofOption Id.toJson j.state.approvedBy)] ++
  Mark.members "postedBy" "postedAt" j.posted ++
  [("rejectionReason", .ofOption .str j.rejectionReason),
    ("reversesJournalId", .ofOption Id.toJson j.reverses),
    ("sourceTemplateId", .ofOption Id.toJson j.template),
    ("createdAt", j.createdAt.toJson), ("updatedAt", j.updatedAt.toJson)]

def StoredLine.toJson (row : StoredLine) : Json :=
  .obj [("id", row.id.toJson), ("lineNumber", .ofNat row.number),
    ("accountId", row.line.account.toJson), ("debit", row.line.debit.toJson),
    ("credit", row.line.credit.toJson), ("memo", .ofOption .str row.line.memo),
    ("departmentId", .ofOption Id.toJson row.line.dimensions.department),
    ("projectId", .ofOption Id.toJson row.line.dimensions.project),
    ("fundId", .ofOption Id.toJson row.line.dimensions.fund)]

def JournalView.toJson (v : JournalView) : Json :=
  .obj (v.journal.members ++ [("lines", .ofList StoredLine.toJson v.lines)])

def StoredPeriod.members (row : StoredPeriod) : List (String × Json) :=
  [("id", row.period.id.toJson), ("name", .str row.name),
    ("startDate", row.period.start.toJson), ("endDate", row.period.finish.toJson),
    ("status", row.period.status.toJson)] ++
  Mark.members "closedBy" "closedAt" row.closed ++ Mark.members "lockedBy" "lockedAt" row.locked ++
  Mark.members "reopenedBy" "reopenedAt" row.reopened

def ChecklistItem.toJson (item : ChecklistItem) : Json :=
  .obj [("code", .str item.code), ("label", .str item.label),
    ("completed", .bool item.isComplete), ("completedBy", .ofOption Id.toJson item.completedBy),
    ("completedAt", .ofOption Instant.toJson item.completedAt)]

def PeriodView.toJson (v : PeriodView) : Json :=
  .obj (v.period.members ++ [("checklist", .ofList ChecklistItem.toJson v.checklist)])

/-- A balance with its net.  The net of stored balances is in range. -/
def Balance.withNet (b : Balance) : Json :=
  .obj [("accountId", b.account.toJson), ("debitTotal", b.debit.toJson),
    ("creditTotal", b.credit.toJson),
    ("net", match b.net with
      | .ok net => net.toJson
      | .error _ => .null)]

def Permission.catalogEntry (p : Permission) : Json :=
  .obj [("code", .str p.code), ("description", .str p.description)]

def RoleView.toJson (v : RoleView) : Json :=
  .obj [("id", v.role.id.toJson), ("name", .str v.role.name),
    ("description", .ofOption .str v.role.description), ("permissions", v.permissions.toJson)]

def GrantOutcome.granted (outcome : GrantOutcome) : Json :=
  .obj [("granted", .bool true), ("warnings", Conflicts.toJson (match outcome with
    | .clean => .none
    | .warned conflicts => conflicts))]

def StoredTemplate.toJson (row : StoredTemplate) : Json :=
  .obj [("id", row.id.toJson), ("name", .str row.name), ("schedule", .str row.schedule.code),
    ("lines", row.lines), ("isActive", .bool row.active),
    ("lastGeneratedPeriodId", .ofOption Id.toJson row.lastGenerated),
    ("createdAt", row.createdAt.toJson)]

def StoredStatementLine.toJson (row : StoredStatementLine) : Json :=
  .obj ([("matched", .bool true), ("statementLineId", row.line.id.toJson),
    ("paymentId", .ofOption Id.toJson row.line.matched), ("amount", row.line.amount.toJson)] ++
    Mark.members "matchedBy" "matchedAt" row.mark)

def AuditRecord.toJson (row : AuditRecord) : Json :=
  .obj [("id", row.id.toJson), ("actorId", row.entry.actor.toJson),
    ("action", .str row.entry.action.code), ("entityId", row.entry.entity.toJson),
    ("result", .str row.entry.outcome.code), ("errorCode", .ofOption .str row.entry.errorCode),
    ("detail", row.entry.detail.getD .null), ("timestamp", row.time.toJson)]

end Countinghouse
