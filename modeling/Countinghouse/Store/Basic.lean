import Countinghouse.Audit.Record
import Countinghouse.Bank.Basic
import Countinghouse.Journal.Balance
import Countinghouse.Journal.Lifecycle
import Countinghouse.Period.Checklist
import Countinghouse.Settings.Basic
import Countinghouse.Store.Table

/-! # The store

All that is kept between requests: tables of rows in the order in which they were
inserted.  Every row belongs to a tenant, but for rules that every tenant shares.

The tables have constraints.  An operation checks those that it could break: that
the identifier of a new row is free, that a name is short and not taken, that a
grant is not there yet, and what is asked of a line of a journal.  It cannot break
the others, which are left out:
* rows refer to rows that exist, as each operation looks up what it refers to, and
  tables of accounts, rules, payments and bank accounts are only read;
* no two periods of a tenant start on one day and none ends before it starts, as
  the dates of a new one are checked; its checklist is new;
* a journal is balanced once it is no draft, as validation balances the lines it
  is drafted with or changed to, and one that is posted takes no further step;
* a journal has one reversal, a template one journal for a period and a payment
  one statement line, as each is looked for first, in the same transaction;
* a statement line is matched along with who matched it and when. -/

set_option autoImplicit false

namespace Countinghouse

structure Mark where
  actor : UserId
  time : Instant
  deriving DecidableEq

structure Role where
  id : RoleId
  tenant : TenantId
  name : String
  description : Option String
  deriving DecidableEq

/-- A permission given to a role, by its code.  Codes that no permission has are
kept and grant nothing. -/
structure StoredGrant where
  tenant : TenantId
  role : RoleId
  code : String
  deriving DecidableEq

structure StoredAssignment where
  tenant : TenantId
  user : UserId
  role : RoleId
  deriving DecidableEq

structure StoredRule where
  id : RuleId
  /-- The tenant whose rule it is, or none for a rule of all. -/
  tenant : Option TenantId
  first : String
  second : String
  description : String
  active : Bool
  deriving DecidableEq

structure StoredAccount where
  tenant : TenantId
  account : Account
  deriving DecidableEq

structure StoredPeriod where
  tenant : TenantId
  period : Period
  name : String
  closed : Option Mark
  locked : Option Mark
  reopened : Option Mark
  deriving DecidableEq

structure StoredItem where
  tenant : TenantId
  period : PeriodId
  item : ChecklistItem
  deriving DecidableEq

structure Journal where
  id : JournalId
  tenant : TenantId
  period : PeriodId
  date : Date
  description : Option String
  state : JournalState
  posted : Option Mark
  rejectionReason : Option String
  /-- The journal it reverses. -/
  reverses : Option JournalId
  /-- The template it was generated from. -/
  template : Option TemplateId
  createdAt : Instant
  updatedAt : Instant
  deriving DecidableEq

structure StoredLine where
  id : Id .journalLine
  tenant : TenantId
  journal : JournalId
  /-- The position in the journal, counted from one. -/
  number : Nat
  line : Line
  deriving DecidableEq

structure StoredBalance where
  tenant : TenantId
  period : PeriodId
  balance : Balance
  deriving DecidableEq

structure StoredTemplate where
  id : TemplateId
  tenant : TenantId
  name : String
  schedule : Schedule
  /-- The lines as a document. -/
  lines : Json
  active : Bool
  lastGenerated : Option PeriodId
  createdAt : Instant

structure Generation where
  tenant : TenantId
  template : TemplateId
  period : PeriodId
  journal : JournalId
  deriving DecidableEq

structure BankAccount where
  id : BankAccountId
  tenant : TenantId
  name : String
  /-- The account of the ledger on which it is booked. -/
  ledgerAccount : AccountId
  deriving DecidableEq

structure StoredPayment where
  id : PaymentId
  tenant : TenantId
  bank : BankAccountId
  date : Date
  amount : Decimal
  status : PaymentStatus
  deriving DecidableEq

structure StoredStatementLine where
  tenant : TenantId
  line : StatementLine
  mark : Option Mark
  deriving DecidableEq

structure AuditRecord where
  id : Id .auditRecord
  entry : AuditEntry
  time : Instant

structure Store where
  roles : List Role
  rolePermissions : List StoredGrant
  userRoles : List StoredAssignment
  rules : List StoredRule
  accounts : List StoredAccount
  periods : List StoredPeriod
  checklistItems : List StoredItem
  journals : List Journal
  journalLines : List StoredLine
  balances : List StoredBalance
  templates : List StoredTemplate
  generations : List Generation
  bankAccounts : List BankAccount
  payments : List StoredPayment
  statementLines : List StoredStatementLine
  auditRecords : List AuditRecord

def Store.empty : Store := ⟨[], [], [], [], [], [], [], [], [], [], [], [], [], [], [], []⟩

structure Context where
  tenant : TenantId
  user : UserId
  now : Instant
  /-- The first of the identifiers that the request may use for new rows. -/
  base : Nat
  ledger : LedgerSettings
  outage : Outage

namespace Context

/-- The identifier of the `i`-th new row. -/
def newId {kind : Kind} (ctx : Context) (i : Nat) : Id kind := Id.ofNat (ctx.base + i)

def use (ctx : Context) (t : Table) : Except StoreFault Unit :=
  if ctx.outage.Covers t then .error .unreachable else .ok ()

end Context

namespace Store

def require (condition : Bool) : Except StoreFault Unit :=
  if condition then .ok () else .error .constraint

def column (a : Decimal) : Except StoreFault Decimal :=
  match a.toColumn? with
  | some b => .ok b
  | none => .error .overflow

def columns (t : Totals) : Except StoreFault Totals := do
  let debit ← column t.debit
  let credit ← column t.credit
  return ⟨debit, credit⟩

end Store

end Countinghouse
