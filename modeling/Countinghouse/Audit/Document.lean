import Countinghouse.Audit.Record
import Countinghouse.Policy.Document

/-! # Documents of the audit -/

set_option autoImplicit false

namespace Countinghouse

open Json

def AuditAction.decode : Decoder AuditAction := asName AuditAction.ofCode?

def AuditOutcome.decode : Decoder AuditOutcome := asName AuditOutcome.ofCode?

def AuditEntry.toJson (entry : AuditEntry) : Json :=
  .obj [("tenantId", entry.tenant.toJson), ("actorId", entry.actor.toJson),
    ("action", .str entry.action.code), ("entityId", entry.entity.toJson),
    ("outcome", .str entry.outcome.code), ("errorCode", .ofOption .str entry.errorCode),
    ("detail", entry.detail.getD .null)]

end Countinghouse
