import Countinghouse.Bank.Error
import Countinghouse.Period.Error
import Countinghouse.Recurring.Template

/-! # Tables and their faults

The store keeps its rows in tables.  A table can be out of reach; a row can break
a constraint, and an amount can be too large to be stored.  Each family of
refusals has a cause for such faults. -/

set_option autoImplicit false

namespace Countinghouse

inductive Table where
  | roles
  | rolePermissions
  | userRoles
  | rules
  | accounts
  | periods
  | checklistItems
  | journals
  | journalLines
  | balances
  | templates
  | generations
  | bankAccounts
  | payments
  | statementLines
  | auditRecords
  deriving DecidableEq, Repr

namespace Table

def all : List Table :=
  [roles, rolePermissions, userRoles, rules, accounts, periods, checklistItems, journals,
    journalLines, balances, templates, generations, bankAccounts, payments, statementLines,
    auditRecords]

def name : Table → String
  | roles => "roles"
  | rolePermissions => "role_permissions"
  | userRoles => "user_roles"
  | rules => "sod_rules"
  | accounts => "accounts"
  | periods => "accounting_periods"
  | checklistItems => "period_checklist_items"
  | journals => "journals"
  | journalLines => "journal_lines"
  | balances => "account_period_balances"
  | templates => "recurring_templates"
  | generations => "recurring_generations"
  | bankAccounts => "bank_accounts"
  | payments => "payments"
  | statementLines => "bank_statement_lines"
  | auditRecords => "audit_records"

def ofName? (s : String) : Option Table := all.find? (·.name == s)

end Table

inductive Outage where
  | none
  | table (table : Table)
  | all
  deriving DecidableEq, Repr

def Outage.Covers : Outage → Table → Prop
  | none, _ => False
  | table t, u => t = u
  | all, _ => True

instance (outage : Outage) (t : Table) : Decidable (outage.Covers t) := by
  cases outage <;> unfold Outage.Covers <;> infer_instance

inductive StoreFault where
  | unreachable
  | constraint
  | overflow
  deriving DecidableEq, Repr

namespace StoreFault

/-- The text of the database driver, which is passed on as it is.  These are the
texts of a database in memory that stands in for the real one. -/
def text : StoreFault → String
  | unreachable => "Custom Error: injected failure"
  | constraint => "Custom Error: constraint violation"
  | overflow => "Custom Error: numeric field overflow"

instance : MonadLift (Except StoreFault) (Except PolicyError) :=
  ⟨fun r => r.mapError fun f => .database f.text⟩

instance : MonadLift (Except StoreFault) (Except LedgerError) :=
  ⟨fun r => r.mapError fun f => .database f.text⟩

instance : MonadLift (Except StoreFault) (Except PeriodError) :=
  ⟨fun r => r.mapError fun f => .database f.text⟩

instance : MonadLift (Except StoreFault) (Except RecurringError) :=
  ⟨fun r => r.mapError fun f => .database f.text⟩

instance : MonadLift (Except StoreFault) (Except ReconciliationError) :=
  ⟨fun r => r.mapError fun f => .database f.text⟩

end StoreFault

end Countinghouse
