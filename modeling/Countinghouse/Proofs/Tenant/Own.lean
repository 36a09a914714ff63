import Countinghouse.Proofs.Store.Operations
import Countinghouse.Proofs.Store.Written
import Countinghouse.Service.Handler

/-! # What a tenant owns

A store is cut down to the rows of one tenant and the rules of all.  As long as every row
carries the tenant of the rows that it refers to, whatever is read for the tenant from the whole
store is read from this part of it. -/

set_option autoImplicit false

namespace Countinghouse

namespace Store

/-- The rows of a tenant, and the rules of all. -/
def own (store : Store) (tenant : TenantId) : Store where
  roles := store.roles.filter (·.tenant = tenant)
  rolePermissions := store.rolePermissions.filter (·.tenant = tenant)
  userRoles := store.userRoles.filter (·.tenant = tenant)
  rules := store.rules.filter fun row => row.tenant = some tenant || row.tenant = none
  accounts := store.accounts.filter (·.tenant = tenant)
  periods := store.periods.filter (·.tenant = tenant)
  checklistItems := store.checklistItems.filter (·.tenant = tenant)
  journals := store.journals.filter (·.tenant = tenant)
  journalLines := store.journalLines.filter (·.tenant = tenant)
  balances := store.balances.filter (·.tenant = tenant)
  templates := store.templates.filter (·.tenant = tenant)
  generations := store.generations.filter (·.tenant = tenant)
  bankAccounts := store.bankAccounts.filter (·.tenant = tenant)
  payments := store.payments.filter (·.tenant = tenant)
  statementLines := store.statementLines.filter (·.tenant = tenant)
  auditRecords := store.auditRecords.filter (·.entry.tenant = tenant)

/-- Rows carry the tenant of the rows that they refer to, and no identifier is used by two
tenants.  References that are only ever followed within a tenant are not mentioned. -/
structure Owned (store : Store) : Prop where
  grants : ∀ grant ∈ store.rolePermissions, ∀ role ∈ store.roles,
    grant.role = role.id → grant.tenant = role.tenant
  assignments : ∀ assignment ∈ store.userRoles, ∀ role ∈ store.roles,
    assignment.role = role.id → assignment.tenant = role.tenant
  lines : ∀ line ∈ store.journalLines, ∀ journal ∈ store.journals,
    line.journal = journal.id → line.tenant = journal.tenant
  balances : ∀ balance ∈ store.balances, ∀ row ∈ store.periods,
    balance.period = row.period.id → balance.tenant = row.tenant
  periods : ∀ row ∈ store.periods, ∀ other ∈ store.periods,
    row.period.id = other.period.id → row.tenant = other.tenant
  journals : ∀ journal ∈ store.journals, ∀ other ∈ store.journals,
    journal.id = other.id → journal.tenant = other.tenant
  templates : ∀ template ∈ store.templates, ∀ other ∈ store.templates,
    template.id = other.id → template.tenant = other.tenant
  statementLines : ∀ row ∈ store.statementLines, ∀ other ∈ store.statementLines,
    row.line.id = other.line.id → row.tenant = other.tenant

/-! ## Reading -/

theorem bind_congr_ok {ε α β : Type} {r : Except ε α} {f g : α → Except ε β}
    (same : ∀ a, r = .ok a → f a = g a) : r >>= f = r >>= g := by
  cases r with
  | error refusal => rfl
  | ok a => exact same a rfl

variable {store : Store} {ctx : Context}

theorem permissions_own (user : UserId) :
    (store.own ctx.tenant).permissions ctx user = store.permissions ctx user := by
  simp (disch := simp +contextual) only [permissions, own, Rows.filter_within]

theorem tenantRules_own : (store.own ctx.tenant).tenantRules ctx = store.tenantRules ctx := by
  simp (disch := simp +contextual) only [tenantRules, own, Rows.filter_within]

theorem grants_own : (store.own ctx.tenant).grants ctx = store.grants ctx := by
  simp (disch := simp +contextual) only [grants, own, Rows.filter_within]

theorem listRoles_own : (store.own ctx.tenant).listRoles ctx = store.listRoles ctx := by
  simp (disch := simp +contextual) only [listRoles, grants_own]
  simp (disch := simp +contextual) only [own, Rows.filter_within]

theorem checkGrantor_own (role : RoleId) :
    (store.own ctx.tenant).checkGrantor ctx role = store.checkGrantor ctx role := by
  simp only [checkGrantor, permissions_own]
  simp (disch := simp +contextual) only [own, Rows.any_within]

theorem conflicts_own : (store.own ctx.tenant).conflicts ctx = store.conflicts ctx := by
  simp only [conflicts, grants_own, tenantRules_own]

theorem userPermissions_own (user : UserId) :
    (store.own ctx.tenant).userPermissions ctx user = store.userPermissions ctx user := by
  simp only [userPermissions, permissions_own]

theorem tenantPeriods_own : (store.own ctx.tenant).tenantPeriods ctx = store.tenantPeriods ctx := by
  simp (disch := simp +contextual) only [tenantPeriods, own, Rows.filter_within]

theorem periodsByStart_own :
    (store.own ctx.tenant).periodsByStart ctx = store.periodsByStart ctx := by
  simp only [periodsByStart, tenantPeriods_own]

theorem listPeriods_own : (store.own ctx.tenant).listPeriods ctx = store.listPeriods ctx := by
  simp only [listPeriods, tenantPeriods_own]

theorem period?_own (id : PeriodId) :
    (store.own ctx.tenant).period? ctx id = store.period? ctx id := by
  simp (disch := simp +contextual) only [period?, own, Rows.find?_within]

theorem storedPeriod_own (id : PeriodId) :
    (store.own ctx.tenant).storedPeriod ctx id = store.storedPeriod ctx id := by
  simp only [storedPeriod, period?_own]

theorem checklist_own (id : PeriodId) :
    (store.own ctx.tenant).checklist ctx id = store.checklist ctx id := by
  simp (disch := simp +contextual) only [checklist, own, Rows.filter_within]

theorem getPeriod_own (id : PeriodId) :
    (store.own ctx.tenant).getPeriod ctx id = store.getPeriod ctx id := by
  simp only [getPeriod, storedPeriod_own, checklist_own]

theorem periodBalances_own (id : PeriodId) :
    (store.own ctx.tenant).periodBalances ctx id = store.periodBalances ctx id := by
  simp only [periodBalances, storedPeriod_own]
  simp (disch := simp +contextual) only [own, Rows.filter_within]

theorem chart_own (lines : List Line) :
    (store.own ctx.tenant).chart ctx lines = store.chart ctx lines := by
  simp (disch := simp +contextual) only [chart, own, Rows.filter_within]

theorem journal_own (id : JournalId) :
    (store.own ctx.tenant).journal ctx id = store.journal ctx id := by
  simp (disch := simp +contextual) only [journal, own, Rows.find?_within]

theorem listJournals_own (filter : JournalFilter) (page : PageRequest) :
    (store.own ctx.tenant).listJournals ctx filter page = store.listJournals ctx filter page := by
  simp (disch := simp +contextual) only [listJournals, own, Rows.filter_within]

theorem periodOf_own (journal : Journal) :
    (store.own ctx.tenant).periodOf ctx journal = store.periodOf ctx journal := by
  simp only [periodOf, period?_own]

theorem linesOf_own {id : JournalId}
    (mine : ∀ line ∈ store.journalLines, line.journal = id → line.tenant = ctx.tenant) :
    (store.own ctx.tenant).linesOf ctx id = store.linesOf ctx id := by
  have within : ∀ line ∈ store.journalLines, decide (line.journal = id) = true →
      decide (line.tenant = ctx.tenant) = true := by
    simpa using mine
  simp only [linesOf, own, Rows.filter_within within]

theorem Owned.lines_of (owned : store.Owned) {journal : Journal} {id : JournalId}
    (found : store.journal ctx id = .ok journal) :
    ∀ line ∈ store.journalLines, line.journal = id → line.tenant = ctx.tenant := by
  obtain ⟨stored, rfl, ofTenant⟩ := journal_ok found
  intro line present isOf
  exact (owned.lines line present journal stored isOf).trans ofTenant

theorem getJournal_own (owned : store.Owned) (id : JournalId) :
    (store.own ctx.tenant).getJournal ctx id = store.getJournal ctx id := by
  simp only [getJournal, journal_own]
  apply bind_congr_ok
  intro journal found
  rw [linesOf_own (owned.lines_of found)]

/-- Lines on accounts of the tenant are written for the journals of the tenant as for all. -/
theorem lineRows_within {part whole : Store} {id : JournalId} {lines : List Line}
    (journals : part.journals = (whole.own ctx.tenant).journals)
    (accounts : part.accounts = (whole.own ctx.tenant).accounts)
    (known : ∀ line ∈ lines, ∃ stored ∈ whole.accounts,
      stored.tenant = ctx.tenant ∧ stored.account.id = line.account) :
    part.lineRows ctx id lines = whole.lineRows ctx id lines := by
  apply lineRows_congr
  · simp (disch := simp +contextual) only [isDraft, journals, own, Rows.any_within]
  · intro line present
    obtain ⟨stored, inTable, ofTenant, isIt⟩ := known line present
    have inWhole := hasAccount_iff.mpr ⟨stored, inTable, isIt⟩
    have inPart : part.hasAccount line.account = true := by
      refine hasAccount_iff.mpr ⟨stored, ?_, isIt⟩
      rw [accounts, own]
      exact List.mem_filter.mpr ⟨inTable, decide_eq_true ofTenant⟩
    rw [inPart, inWhole]

theorem Validates.known {lines : List Line} {totals : Totals}
    (validated : store.Validates ctx lines totals) : ∀ line ∈ lines,
      ∃ stored ∈ store.accounts, stored.tenant = ctx.tenant ∧ stored.account.id = line.account := by
  obtain ⟨chart, looked, validated⟩ := validated
  exact validated_known looked validated

theorem getTemplate_own (id : TemplateId) :
    (store.own ctx.tenant).getTemplate ctx id = store.getTemplate ctx id := by
  simp (disch := simp +contextual) only [getTemplate, own, Rows.find?_within]

theorem listTemplates_own : (store.own ctx.tenant).listTemplates ctx = store.listTemplates ctx := by
  simp (disch := simp +contextual) only [listTemplates, own, Rows.filter_within]

theorem alreadyGenerated_own (template : TemplateId) (period : PeriodId) :
    (store.own ctx.tenant).alreadyGenerated ctx template period =
      store.alreadyGenerated ctx template period := by
  simp (disch := simp +contextual) only [alreadyGenerated, own, Rows.any_within]

theorem isReconciled_own (payment : PaymentId) :
    (store.own ctx.tenant).isReconciled ctx payment = store.isReconciled ctx payment := by
  simp (disch := simp +contextual) only [isReconciled, own, Rows.any_within]

theorem bankPosition_own (id : BankAccountId) :
    (store.own ctx.tenant).bankPosition ctx id = store.bankPosition ctx id := by
  simp (disch := simp +contextual) only [bankPosition, own, Rows.find?_within, Rows.filter_within]

theorem candidates_own (bank : BankAccountId) (line : StatementLineId) :
    (store.own ctx.tenant).candidates ctx bank line = store.candidates ctx bank line := by
  simp only [candidates, bankPosition_own]

theorem systemBalance_own (owned : store.Owned) (account : AccountId) (asOf : Date) :
    (store.own ctx.tenant).systemBalance ctx account asOf =
      store.systemBalance ctx account asOf := by
  have mine : ∀ line ∈ store.journalLines,
      (((store.journals.filter fun row => row.tenant = ctx.tenant && row.state.status = .posted &&
        row.date ≤ asOf).map (·.id)).contains line.journal && line.line.account = account) = true →
      decide (line.tenant = ctx.tenant) = true := by
    intro line present fits
    simp only [Bool.and_eq_true, List.contains_iff_mem, List.mem_map, List.mem_filter,
      decide_eq_true_eq] at fits
    obtain ⟨⟨journal, ⟨stored, ⟨ofTenant, _⟩, _⟩, isOf⟩, _⟩ := fits
    rw [owned.lines line present journal stored isOf.symm, ofTenant]
    exact decide_eq_true rfl
  have posted : ((store.journals.filter (·.tenant = ctx.tenant)).filter fun row =>
      row.tenant = ctx.tenant && row.state.status = .posted && row.date ≤ asOf) =
        store.journals.filter fun row =>
          row.tenant = ctx.tenant && row.state.status = .posted && row.date ≤ asOf :=
    Rows.filter_within (by simp +contextual)
  simp only [systemBalance, own, posted, Rows.filter_within mine]

theorem summarise_own (owned : store.Owned) (position : BankPosition) (asOf : Date)
    (closing : Decimal) :
    (store.own ctx.tenant).summarise ctx position asOf closing =
      store.summarise ctx position asOf closing := by
  simp only [summarise, systemBalance_own owned]

theorem bankSummary_own (owned : store.Owned) (bank : BankAccountId) (asOf : Date)
    (closing : Decimal) :
    (store.own ctx.tenant).bankSummary ctx bank asOf closing =
      store.bankSummary ctx bank asOf closing := by
  simp only [bankSummary, bankPosition_own, summarise_own owned]

theorem recordsOf_own (entity : EntityId) :
    (store.own ctx.tenant).recordsOf ctx entity = store.recordsOf ctx entity := by
  simp (disch := simp +contextual) only [recordsOf, own, Rows.filter_within]

end Store

end Countinghouse
