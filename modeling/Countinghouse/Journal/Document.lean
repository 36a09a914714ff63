import Countinghouse.Journal.Balance
import Countinghouse.Journal.Lifecycle
import Countinghouse.Policy.Document

/-! # Documents of the ledger

How lines, accounts, totals and the states of journals are written and read. -/

set_option autoImplicit false

namespace Countinghouse

open Json

def Decimal.toJson (a : Decimal) : Json := .str a.text

def Date.toJson (a : Date) : Json := .str a.text

def JournalStatus.toJson (status : JournalStatus) : Json := .str status.code

def JournalStatus.decode : Decoder JournalStatus := asName JournalStatus.ofCode?

def AccountType.decode : Decoder AccountType := asName AccountType.ofCode?

namespace Dimensions

def record : Record Dimensions :=
  Dimensions.mk <$> .maybe "departmentId" asId <*> .maybe "projectId" asId <*> .maybe "fundId" asId

def toJson (d : Dimensions) : Json :=
  .obj [("departmentId", .ofOption Id.toJson d.department),
    ("projectId", .ofOption Id.toJson d.project), ("fundId", .ofOption Id.toJson d.fund)]

end Dimensions

namespace Line

/-- Only the account has to be named; a memo may be null. -/
def record : Record Line :=
  Line.mk <$> .need "accountId" asId <*> .orElse "debit" asDecimal .zero
    <*> .orElse "credit" asDecimal .zero <*> .orElse "memo" (asOption asString) none
    <*> .orElse "dimensions" (Dimensions.record.decodeAs "struct Dimensions") .none

def decode : Decoder Line := record.decodeAs "struct JournalLineInput"

def toJson (line : Line) : Json :=
  .obj [("accountId", line.account.toJson), ("debit", line.debit.toJson),
    ("credit", line.credit.toJson), ("memo", .ofOption .str line.memo),
    ("dimensions", line.dimensions.toJson)]

end Line

namespace Account

def record : Record Account :=
  Account.mk <$> .need "id" asId <*> .orElse "accountType" AccountType.decode .asset
    <*> .orElse "isActive" asBool true <*> .orElse "allowDirectPosting" asBool true
    <*> .orElse "requiresFinalPost" asBool false

def toJson (account : Account) : Json :=
  .obj [("id", account.id.toJson), ("accountType", .str account.type.code),
    ("isActive", .bool account.active), ("allowDirectPosting", .bool account.directPosting),
    ("requiresFinalPost", .bool account.finalPost)]

end Account

namespace Totals

def record : Record Totals :=
  Totals.mk <$> .orElse "debit" asDecimal .zero <*> .orElse "credit" asDecimal .zero

def toJson (t : Totals) : Json := .obj [("debit", t.debit.toJson), ("credit", t.credit.toJson)]

end Totals

def Draft.toJson (draft : Draft) : Json :=
  .obj [("periodId", draft.period.toJson), ("totals", draft.totals.toJson)]

namespace JournalState

def record : Record JournalState :=
  JournalState.mk <$> .need "status" JournalStatus.decode <*> .need "createdBy" asId
    <*> .maybe "submittedBy" asId <*> .maybe "approvedBy" asId
    <*> .need "totals" Totals.record.decode

def toJson (state : JournalState) : Json :=
  .obj [("status", state.status.toJson), ("createdBy", state.createdBy.toJson),
    ("submittedBy", .ofOption Id.toJson state.submittedBy),
    ("approvedBy", .ofOption Id.toJson state.approvedBy), ("totals", state.totals.toJson)]

end JournalState

namespace JournalAction

def name : JournalAction → String
  | submit _ => "submit"
  | approve _ => "approve"
  | reject _ _ => "reject"
  | post _ => "post"

def toJson (action : JournalAction) : Json :=
  let members := [("action", .str action.name), ("by", action.actor.toJson),
    ("newStatus", action.newStatus.toJson)]
  match action with
  | reject _ reason => .obj (members ++ [("reason", .str reason)])
  | _ => .obj members

end JournalAction

namespace Delta

/-- A debit and a credit, for the account of a balance that is known. -/
def record (account : AccountId) : Record Delta :=
  Delta.mk account <$> .orElse "debit" asDecimal .zero <*> .orElse "credit" asDecimal .zero

def toJson (delta : Delta) : Json :=
  .obj [("accountId", delta.account.toJson), ("debit", delta.debit.toJson),
    ("credit", delta.credit.toJson)]

end Delta

def Balance.toJson (b : Balance) : Json :=
  .obj [("accountId", b.account.toJson), ("debitTotal", b.debit.toJson),
    ("creditTotal", b.credit.toJson)]

end Countinghouse
