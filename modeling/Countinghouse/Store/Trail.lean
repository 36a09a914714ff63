import Countinghouse.Store.Basic

/-! # The audit trail in the store

Records are only ever added. -/

set_option autoImplicit false

namespace Countinghouse.Store

variable (store : Store) (ctx : Context)

/-- Adds a record.  Where the trail is out of reach the record is lost and nothing
else changes. -/
def addRecord (entry : AuditEntry) : Store :=
  match ctx.use .auditRecords with
  | .ok _ => { store with auditRecords := store.auditRecords ++ [⟨ctx.newId 0, entry, ctx.now⟩] }
  | .error _ => store

def recordsOf (entity : EntityId) : Except StoreFault (List AuditRecord) := do
  ctx.use .auditRecords
  return store.auditRecords.filter fun row =>
    row.entry.tenant = ctx.tenant && row.entry.entity = entity

end Countinghouse.Store
