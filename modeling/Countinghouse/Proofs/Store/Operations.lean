import Countinghouse.Proofs.Bank.Matching
import Countinghouse.Proofs.Period.Calendar
import Countinghouse.Proofs.Period.Closing
import Countinghouse.Proofs.Recurring.Drafting
import Countinghouse.Proofs.Store.Run
import Countinghouse.Proofs.Store.Tally

/-! # What a command does

A command that succeeds was permitted to its actor, found what it asks for, and leaves the store
as it was but for the tables that it writes.  Each operation is taken apart here once; `Store.Did`
lists what all of them do, and what a run preserves is shown by the cases of it. -/

set_option autoImplicit false

namespace Countinghouse

/-! ## What a command needs -/

namespace Store

/-- Some line of the journal is on an account that is reserved for final posting. -/
def FinalOnly (store : Store) (id : JournalId) : Prop :=
  ∃ row ∈ store.journalLines, row.journal = id ∧
    ∃ stored ∈ store.accounts, stored.account.id = row.line.account ∧
      stored.account.finalPost = true

/-- Accounts are told apart, and lines use accounts of the tenant of their journal. -/
structure Charted (store : Store) : Prop where
  accounts : (store.accounts.map (·.account.id)).Nodup
  lines : ∀ row ∈ store.journalLines, ∀ journal ∈ store.journals, row.journal = journal.id →
    ∀ stored ∈ store.accounts, stored.account.id = row.line.account →
      stored.tenant = journal.tenant

end Store

namespace Command

def Permitted (store : Store) (tenant : TenantId) (user : UserId) : Command → Prop
  | createJournal _ | updateJournal _ _ | reverseJournal _ _ =>
      store.Allows tenant user .journalCreate
  | submitJournal _ => store.Allows tenant user .journalSubmit
  | approveJournal _ | rejectJournal _ _ => store.Allows tenant user .journalApprove
  | postJournal id =>
      (store.FinalOnly id → store.Allows tenant user .journalFinalPost) ∧
        (¬ store.FinalOnly id →
          store.Allows tenant user .journalPost ∨ store.Allows tenant user .journalFinalPost)
  | createPeriod _ | closePeriod _ => store.Allows tenant user .periodClose
  | lockPeriod _ => store.Allows tenant user .periodLock
  | reopenPeriod _ => store.Allows tenant user .periodReopen
  | completeItem _ _ => store.Allows tenant user .checklistComplete
  | createRole _ _ | grantPermission _ _ | assignRole _ _ => store.Allows tenant user .sodManage
  | createTemplate _ | generateJournal _ _ => store.Allows tenant user .recurringGenerate
  | matchLine _ _ | createAdjustment _ _ _ _ => store.Allows tenant user .bankReconcile

theorem Permitted.some {store : Store} {tenant : TenantId} {user : UserId} {command : Command}
    (permitted : command.Permitted store tenant user) : ∃ p, store.Allows tenant user p := by
  cases command with
  | postJournal id =>
    by_cases finalOnly : store.FinalOnly id
    · exact ⟨_, permitted.1 finalOnly⟩
    · exact (permitted.2 finalOnly).elim (⟨_, ·⟩) (⟨_, ·⟩)
  | _ => exact ⟨_, permitted⟩

end Command

namespace Store

variable {before after : Store} {ctx : Context} {held : PermissionSet}

/-! ## Drafts -/

def Validates (store : Store) (ctx : Context) (lines : List Line) (totals : Totals) : Prop :=
  ∃ chart, store.chart ctx lines = .ok chart ∧ chart.validate lines = .ok totals

theorem Validates.of_prepared {lines : List Line} {date : Date} {periods : List Period}
    {chart : Chart} {draft : Draft} (looked : before.chart ctx lines = .ok chart)
    (prepared : Draft.prepare lines date periods chart = .ok draft) :
    before.Validates ctx lines draft.totals := by
  obtain ⟨_, _, _, validated⟩ := JournalState.prepare_ok_iff.mp prepared
  exact ⟨chart, looked, validated⟩

def withDraft (store : Store) (view : JournalView) : Store :=
  { store with
    journals := store.journals ++ [view.journal]
    journalLines := store.journalLines ++ view.lines }

/-- A new journal is stored, in a period of the tenant and with lines that were found valid. -/
structure Drafted (before : Store) (ctx : Context) (draft : NewJournal) (view : JournalView) :
    Prop where
  validated : before.Validates ctx draft.lines draft.totals
  dated : before.Dated ctx.tenant draft.period draft.date
  fresh : ∀ other ∈ before.journals, other.id ≠ ctx.newId 1
  journal : ∃ totals, columns draft.totals = .ok totals ∧ view.journal = draft.journal ctx totals
  rows : { before with journals := before.journals ++ [view.journal] }.lineRows ctx (ctx.newId 1)
    draft.lines = .ok view.lines

theorem Drafted.isNew {draft : NewJournal} {view : JournalView}
    (drafted : before.Drafted ctx draft view) : view.journal.id = ctx.newId 1 := by
  obtain ⟨totals, _, isDraft⟩ := drafted.journal
  rw [isDraft]
  rfl

theorem insertDraft_ok {draft : NewJournal} {view : JournalView}
    (validated : before.Validates ctx draft.lines draft.totals)
    (dated : before.Dated ctx.tenant draft.period draft.date)
    (inserted : before.insertDraft ctx draft = .ok (after, view)) :
    before.Drafted ctx draft view ∧ after = before.withDraft view := by
  simp only [insertDraft, bind_ok_iff, pure_ok_iff, Prod.mk.injEq, constraint_ok_iff] at inserted
  obtain ⟨_, _, totals, kept, _, free, rows, made, rfl, rfl⟩ := inserted
  have free : (!before.journals.any (·.id = (ctx.newId 1 : JournalId))) = true := free
  have fresh : ∀ other ∈ before.journals, other.id ≠ (ctx.newId 1 : JournalId) := by
    simpa using free
  exact ⟨⟨validated, dated, fresh, ⟨totals, kept, rfl⟩, made⟩, rfl⟩

theorem createJournal_ok {input : JournalInput} {view : JournalView}
    (created : before.createJournal ctx input = .ok (after, view)) :
    before.Allows ctx.tenant ctx.user .journalCreate ∧ ∃ period totals,
      before.Drafted ctx
        ⟨input.date, period, input.description, input.lines, totals, none, none⟩ view ∧
      after = before.withDraft view := by
  simp only [createJournal, liftM, monadLift, MonadLift.monadLift, bind_ok_iff, mapError_ok_iff,
    JournalState.create_ok_iff] at created
  obtain ⟨held, read, periods, listed, chart, looked, draft, ⟨permitted, prepared⟩, inserted⟩ :=
    created
  obtain ⟨validated, dated⟩ := prepare_ok listed prepared
  exact ⟨allowed read permitted, _, _, insertDraft_ok ⟨chart, looked, validated⟩ dated inserted⟩

theorem createAdjustment_ok {bank : BankAccountId} {asOf : Date} {closing : Decimal}
    {offset : AccountId} {view : JournalView}
    (adjusted : before.createAdjustment ctx bank asOf closing offset = .ok (after, view)) :
    before.Allows ctx.tenant ctx.user .bankReconcile ∧ ∃ period description lines totals,
      before.Drafted ctx ⟨asOf, period, description, lines, totals, none, none⟩ view ∧
      after = before.withDraft view := by
  simp only [createAdjustment, liftM, monadLift, MonadLift.monadLift, bind_ok_iff,
    mapError_ok_iff] at adjusted
  obtain ⟨position, _, summary, _, held, read, lines, decided, adjusted⟩ := adjusted
  obtain ⟨periods, listed, chart, looked, draft, prepared, inserted⟩ := adjusted
  obtain ⟨validated, dated⟩ := prepare_ok listed prepared
  exact ⟨allowed read (Bank.adjustmentLines_permitted decided), _, _, _, _,
    insertDraft_ok ⟨chart, looked, validated⟩ dated inserted⟩

/-- The journal is a posted one of the tenant, and none of theirs reverses it. -/
structure Reversible (before : Store) (ctx : Context) (id : JournalId) : Prop where
  posted : ∃ journal ∈ before.journals, journal.id = id ∧ journal.tenant = ctx.tenant ∧
    journal.state.status = .posted
  unreversed : ∀ other ∈ before.journals, other.tenant = ctx.tenant → other.reverses ≠ some id

theorem reversalCheck_ok_iff {id : JournalId} {status : JournalStatus}
    {existing : Option JournalId} {u : Unit} :
    Reversal.check id status existing held = .ok u ↔
      .journalCreate ∈ held ∧ status = .posted ∧ existing = none := by
  simp only [Reversal.check, liftM, monadLift, MonadLift.monadLift, bind_ok_iff, mapError_ok_iff,
    require_ok_iff, ite_ok_iff, throw_ok_iff, false_and, exists_false, and_false, false_or,
    not_not, exists_const]
  cases existing <;> simp [throw_ok_iff, pure_ok_iff]

theorem reverseJournal_ok {id : JournalId} {date : Option Date} {view : JournalView}
    (reversed : before.reverseJournal ctx id date = .ok (after, view)) :
    before.Allows ctx.tenant ctx.user .journalCreate ∧ before.Reversible ctx id ∧
      ∃ date period description lines totals,
        before.Drafted ctx ⟨date, period, description, lines, totals, some id, none⟩ view ∧
        after = before.withDraft view := by
  simp only [reverseJournal, liftM, monadLift, MonadLift.monadLift, bind_ok_iff,
    mapError_ok_iff, reversalCheck_ok_iff] at reversed
  obtain ⟨journal, found, _, _, held, read, _, checked, reversed⟩ := reversed
  obtain ⟨permitted, posted, unreversed⟩ := checked
  obtain ⟨rows, _, periods, listed, chart, looked, draft, prepared, inserted⟩ := reversed
  obtain ⟨stored, sameId, ofTenant⟩ := journal_ok found
  obtain ⟨validated, dated⟩ := prepare_ok listed prepared
  refine ⟨allowed read permitted, ⟨⟨journal, stored, sameId, ofTenant, posted⟩, ?_⟩, _, _, _, _, _,
    insertDraft_ok ⟨chart, looked, validated⟩ dated inserted⟩
  intro other present ofTenant reverses
  rw [Option.map_eq_none_iff, List.find?_eq_none] at unreversed
  exact unreversed other present (by simp [ofTenant, reverses])

/-! ### Generating -/

theorem generateJournal_ok_iff {id : TemplateId} {periodId : PeriodId} {view : JournalView} :
    before.generateJournal ctx id periodId = .ok (after, view) ↔
      ∃ row template target already held chart made drafted,
        before.getTemplate ctx id = .ok row ∧ row.template = .ok template ∧
        before.period? ctx periodId = .ok (some target) ∧
        before.alreadyGenerated ctx id periodId = .ok already ∧
        before.permissions ctx ctx.user = .ok held ∧ before.chart ctx template.lines = .ok chart ∧
        template.generate target.period already held chart = .ok made ∧
        before.insertDraft ctx ⟨made.date, periodId, some made.description, made.lines,
          made.totals, none, some id⟩ = .ok (drafted, view) ∧
        ctx.use .generations = .ok () ∧ ctx.use .templates = .ok () ∧
        after = { drafted with
          generations := drafted.generations ++ [⟨ctx.tenant, id, periodId, view.journal.id⟩]
          templates := drafted.templates.map fun old =>
            if old.id = id then { old with lastGenerated := some periodId } else old } := by
  simp only [generateJournal, liftM, monadLift, MonadLift.monadLift, bind_ok_iff, mapError_ok_iff]
  constructor
  · rintro ⟨row, found, template, decoded, target?, searched, generated⟩
    cases target? with
    | none => simp only [bind_ok_iff, throw_ok_iff, false_and, exists_false] at generated
    | some target =>
      simp only [bind_ok_iff, pure_ok_iff, mapError_ok_iff, exists_eq_left,
        Prod.mk.injEq] at generated
      obtain ⟨already, asked, held, granted, chart, known, made, decided, generated⟩ := generated
      obtain ⟨⟨drafted, _⟩, inserted, _, recorded, _, marked, rfl, rfl⟩ := generated
      exact ⟨row, template, target, already, held, chart, made, drafted, found, decoded, searched,
        asked, granted, known, decided, inserted, recorded, marked, rfl⟩
  · rintro ⟨row, template, target, already, held, chart, made, drafted, found, decoded, searched,
      asked, granted, known, decided, inserted, recorded, marked, rfl⟩
    refine ⟨row, found, template, decoded, some target, searched, ?_⟩
    simp only [bind_ok_iff, pure_ok_iff, mapError_ok_iff, exists_eq_left, Prod.mk.injEq]
    exact ⟨already, asked, held, granted, chart, known, made, decided, (drafted, view), inserted,
      (), recorded, (), marked, rfl, rfl⟩

def withGeneration (store : Store) (generation : Generation) : Store :=
  { store with
    generations := store.generations ++ [generation]
    templates := store.templates.map fun old =>
      if old.id = generation.template then { old with lastGenerated := some generation.period }
      else old }

/-- The template is one of the tenant, and they have not generated it for the period. -/
structure Generable (before : Store) (ctx : Context) (id : TemplateId) (period : PeriodId)
    (row : StoredTemplate) (template : Template) : Prop where
  found : before.getTemplate ctx id = .ok row
  decoded : row.template = .ok template
  ungenerated : ∀ other ∈ before.generations, other.tenant = ctx.tenant → other.template = id →
    other.period ≠ period

theorem generateJournal_ok {id : TemplateId} {period : PeriodId} {view : JournalView}
    (generated : before.generateJournal ctx id period = .ok (after, view)) :
    before.Allows ctx.tenant ctx.user .recurringGenerate ∧
      ∃ row template date description totals, before.Generable ctx id period row template ∧
        before.Drafted ctx
          ⟨date, period, description, template.lines, totals, none, some id⟩ view ∧
        after = (before.withDraft view).withGeneration
          ⟨ctx.tenant, id, period, view.journal.id⟩ := by
  obtain ⟨row, template, target, already, held, chart, made, drafted, found, decoded, searched,
    asked, read, looked, decided, inserted, _, _, rfl⟩ := generateJournal_ok_iff.mp generated
  obtain ⟨permitted, _, unmade, totals, validated, rfl⟩ := Template.generate_ok_iff.mp decided
  obtain ⟨present, rfl, ofTenant⟩ := period?_ok searched
  have dated : before.Dated ctx.tenant target.period.id target.period.start :=
    ⟨target, present, ofTenant, rfl, Or.inr rfl⟩
  obtain ⟨drafts, rfl⟩ := insertDraft_ok ⟨chart, looked, validated⟩ dated inserted
  refine ⟨allowed read permitted, row, template, _, _, totals, ⟨found, decoded, ?_⟩, drafts, rfl⟩
  simp only [alreadyGenerated, bind_ok_iff, pure_ok_iff] at asked
  obtain ⟨_, _, rfl⟩ := asked
  intro other present ofTenant ofTemplate ofPeriod
  rw [List.any_eq_false] at unmade
  exact unmade other present (by simp [ofTenant, ofTemplate, ofPeriod])

/-! ## Stored journals -/

def withJournal (store : Store) (journal : Journal) : Store :=
  { store with journals := Rows.replace (·.id) journal store.journals }

theorem saveJournal_ok {journal : Journal} (saved : before.saveJournal ctx journal = .ok after) :
    after = before.withJournal journal := by
  simp only [saveJournal, bind_ok_iff, pure_ok_iff] at saved
  obtain ⟨_, _, rfl⟩ := saved
  rfl

/-- A draft gets new contents and new rows, in place of all it had. -/
structure Edited (before : Store) (ctx : Context) (id : JournalId) (input : JournalInput)
    (old : Journal) (period : PeriodId) (totals : Totals) (rows : List StoredLine) : Prop where
  stored : old ∈ before.journals
  sameId : old.id = id
  ofTenant : old.tenant = ctx.tenant
  status : old.state.status = .draft
  validated : ∃ sums, before.Validates ctx input.lines sums ∧ columns sums = .ok totals
  dated : before.Dated ctx.tenant period input.date
  rows : { before with
    journalLines := before.journalLines.filter fun row => row.journal ≠ id }.lineRows ctx id
      input.lines = .ok rows

def withEdited (store : Store) (new : Journal) (rows : List StoredLine) : Store :=
  { store.withJournal new with
    journalLines := (store.journalLines.filter fun row => row.journal ≠ new.id) ++ rows }

theorem updateJournal_ok {id : JournalId} {input : JournalInput} {view : JournalView}
    (updated : before.updateJournal ctx id input = .ok (after, view)) :
    before.Allows ctx.tenant ctx.user .journalCreate ∧ ∃ old period totals rows,
      before.Edited ctx id input old period totals rows ∧
      after = before.withEdited (old.edited input period totals ctx.now) rows := by
  simp only [updateJournal, liftM, monadLift, MonadLift.monadLift, bind_ok_iff, mapError_ok_iff,
    pure_ok_iff, Prod.mk.injEq, JournalState.edit_ok_iff] at updated
  obtain ⟨old, found, held, read, periods, listed, chart, looked, draft, decided, updated⟩ :=
    updated
  obtain ⟨_, _, rows, made, totals, kept, saved, saving, rfl, _⟩ := updated
  obtain ⟨permitted, status, prepared⟩ := decided
  obtain ⟨stored, rfl, ofTenant⟩ := journal_ok found
  obtain ⟨validated, dated⟩ := prepare_ok listed prepared
  obtain rfl := saveJournal_ok saving
  exact ⟨allowed read permitted, old, draft.period, totals, rows,
    ⟨stored, rfl, ofTenant, status, ⟨_, ⟨chart, looked, validated⟩, kept⟩, dated, made⟩, rfl⟩

/-- An action on a journal of the tenant was accepted, in the period that the journal is in. -/
structure Acted (before : Store) (ctx : Context) (id : JournalId) (request : JournalRequest)
    (old : Journal) (action : JournalAction) : Prop where
  stored : old ∈ before.journals
  sameId : old.id = id
  ofTenant : old.tenant = ctx.tenant
  accepted : old.state.answer request = .ok (old.state.after action)
  within : ∀ period, request.period? = some period →
    period.id = old.period ∧ ∃ row ∈ before.periods, row.period = period

theorem journal_after (journal : Journal) (action : JournalAction) (now : Instant) :
    (journal.after action now).state = journal.state.after action ∧
      (journal.after action now).id = journal.id ∧
      (journal.after action now).period = journal.period ∧
      (journal.after action now).date = journal.date ∧
      (journal.after action now).tenant = journal.tenant := by
  cases action <;> exact ⟨rfl, rfl, rfl, rfl, rfl⟩

theorem recordAction_ok {journal : Journal} {action : JournalAction} {view : JournalView}
    (recorded : before.recordAction ctx journal action = .ok (after, view)) :
    after = before.withJournal (journal.after action ctx.now) := by
  simp only [recordAction, liftM, monadLift, MonadLift.monadLift, bind_ok_iff, mapError_ok_iff,
    pure_ok_iff, Prod.mk.injEq] at recorded
  obtain ⟨saved, saving, rows, _, rfl, _⟩ := recorded
  exact saveJournal_ok saving

theorem acted_within {journal : Journal} {period : Period}
    (found : before.periodOf ctx journal = .ok period) :
    period.id = journal.period ∧ ∃ row ∈ before.periods, row.period = period := by
  obtain ⟨sameId, row, present, isIt, _⟩ := periodOf_ok found
  exact ⟨sameId, row, present, isIt⟩

theorem submitJournal_ok {id : JournalId} {view : JournalView}
    (submitted : before.submitJournal ctx id = .ok (after, view)) :
    before.Allows ctx.tenant ctx.user .journalSubmit ∧ ∃ request old,
      before.Acted ctx id request old (.submit ctx.user) ∧
      after = before.withJournal (old.after (.submit ctx.user) ctx.now) := by
  simp only [submitJournal, liftM, monadLift, MonadLift.monadLift, bind_ok_iff,
    mapError_ok_iff] at submitted
  obtain ⟨old, found, period, isIn, held, read, rules, _, action, decided, recorded⟩ := submitted
  have accepted : old.state.answer (.submit ctx.user held rules period) =
      .ok (old.state.after action) := map_ok_iff.mpr ⟨action, decided, rfl⟩
  obtain ⟨permitted, _, _, _, _, rfl⟩ := JournalState.submit_ok_iff.mp decided
  obtain ⟨stored, sameId, ofTenant⟩ := journal_ok found
  refine ⟨allowed read permitted, _, old, ⟨stored, sameId, ofTenant, accepted, ?_⟩,
    recordAction_ok recorded⟩
  rintro _ ⟨⟩
  exact acted_within isIn

theorem approveJournal_ok {id : JournalId} {view : JournalView}
    (approved : before.approveJournal ctx id = .ok (after, view)) :
    before.Allows ctx.tenant ctx.user .journalApprove ∧ ∃ request old,
      before.Acted ctx id request old (.approve ctx.user) ∧
      after = before.withJournal (old.after (.approve ctx.user) ctx.now) := by
  simp only [approveJournal, liftM, monadLift, MonadLift.monadLift, bind_ok_iff,
    mapError_ok_iff] at approved
  obtain ⟨old, found, held, read, rules, _, action, decided, recorded⟩ := approved
  have accepted : old.state.answer (.approve ctx.user held rules) =
      .ok (old.state.after action) := map_ok_iff.mpr ⟨action, decided, rfl⟩
  obtain ⟨permitted, _, _, rfl⟩ := JournalState.approve_ok_iff.mp decided
  obtain ⟨stored, sameId, ofTenant⟩ := journal_ok found
  refine ⟨allowed read permitted, _, old, ⟨stored, sameId, ofTenant, accepted, ?_⟩,
    recordAction_ok recorded⟩
  rintro _ ⟨⟩

theorem rejectJournal_ok {id : JournalId} {reason : String} {view : JournalView}
    (rejected : before.rejectJournal ctx id reason = .ok (after, view)) :
    before.Allows ctx.tenant ctx.user .journalApprove ∧ ∃ request old,
      before.Acted ctx id request old (.reject ctx.user reason) ∧
      after = before.withJournal (old.after (.reject ctx.user reason) ctx.now) := by
  simp only [rejectJournal, liftM, monadLift, MonadLift.monadLift, bind_ok_iff,
    mapError_ok_iff] at rejected
  obtain ⟨old, found, held, read, action, decided, recorded⟩ := rejected
  have accepted : old.state.answer (.reject ctx.user held reason) =
      .ok (old.state.after action) := map_ok_iff.mpr ⟨action, decided, rfl⟩
  obtain ⟨permitted, _, _, rfl⟩ := JournalState.reject_ok_iff.mp decided
  obtain ⟨stored, sameId, ofTenant⟩ := journal_ok found
  refine ⟨allowed read permitted, _, old, ⟨stored, sameId, ofTenant, accepted, ?_⟩,
    recordAction_ok recorded⟩
  rintro _ ⟨⟩

/-! ### Posting -/

theorem toPost_permitted {finalPost : Bool} {exercised : Permission}
    (selected : held.toPost finalPost = .ok exercised) :
    (finalPost = true → .journalFinalPost ∈ held) ∧
      (finalPost = false → .journalPost ∈ held ∨ .journalFinalPost ∈ held) := by
  cases finalPost with
  | true =>
    simp only [PermissionSet.toPost, if_true, bind_ok_iff, require_ok_iff] at selected
    obtain ⟨_, permitted, _⟩ := selected
    exact ⟨fun _ => permitted, nofun⟩
  | false =>
    simp only [PermissionSet.toPost, Bool.false_eq_true, if_false, requireAny_ok_iff] at selected
    have holds := List.find?_some selected
    have accepted := List.mem_of_find?_eq_some selected
    simp only [List.mem_cons, List.not_mem_nil, or_false] at accepted
    refine ⟨nofun, fun _ => ?_⟩
    rcases accepted with rfl | rfl
    · exact Or.inl (of_decide_eq_true holds)
    · exact Or.inr (of_decide_eq_true holds)

/-- Where accounts are told apart, an account is found for the tenant that has it. -/
theorem ofList_eq_some_iff (distinct : (before.accounts.map (·.account.id)).Nodup)
    {tenant : TenantId} {id : AccountId} {account : Account} :
    Chart.ofList ((before.accounts.filter (·.tenant = tenant)).map (·.account)) id = some account ↔
      ∃ stored ∈ before.accounts, stored.tenant = tenant ∧ stored.account = account ∧
        account.id = id := by
  refine ⟨ofList_some, ?_⟩
  rintro ⟨stored, present, ofTenant, rfl, rfl⟩
  have distinct' : (((before.accounts.filter (·.tenant = tenant)).map (·.account)).map
      (·.id)).Nodup := by
    rw [List.map_map]
    exact distinct.sublist ((List.filter_sublist).map _)
  refine Rows.find?_key distinct' (List.mem_map_of_mem (List.mem_filter.mpr ⟨present, ?_⟩))
  exact decide_eq_true ofTenant

theorem needsFinalPost_iff (charted : before.Charted) {journal : Journal}
    (stored : journal ∈ before.journals) (inTenant : journal.tenant = ctx.tenant)
    {rows : List StoredLine} {chart : Chart} (read : before.linesOf ctx journal.id = .ok rows)
    (looked : before.chart ctx (rows.map (·.line)) = .ok chart) :
    chart.needsFinalPost (rows.map (·.line)) = true ↔ before.FinalOnly journal.id := by
  have listed : ∀ row, row ∈ rows ↔ row ∈ before.journalLines ∧ row.journal = journal.id := by
    intro row
    rw [(linesOf_ok read).mem_iff, rowsOf, List.mem_filter, decide_eq_true_eq]
  simp only [Store.chart, bind_ok_iff, ite_ok_iff, pure_ok_iff] at looked
  obtain ⟨empty, rfl⟩ | ⟨_, _, _, rfl⟩ := looked
  · -- Without lines nothing is looked up.
    simp only [Chart.needsFinalPost, List.filterMap_none, List.any_nil, Bool.false_eq_true,
      false_iff]
    rintro ⟨row, present, ofJournal, _⟩
    have isLine := (listed row).mpr ⟨present, ofJournal⟩
    rw [List.isEmpty_iff, List.map_eq_nil_iff] at empty
    rw [empty] at isLine
    cases isLine
  · simp only [Chart.needsFinalPost, List.any_eq_true, List.mem_filterMap, List.mem_map,
      ofList_eq_some_iff charted.accounts]
    constructor
    · rintro ⟨_, ⟨_, ⟨row, isLine, rfl⟩, account, known, _, rfl, sameId⟩, reserved⟩
      obtain ⟨present, ofJournal⟩ := (listed row).mp isLine
      exact ⟨row, present, ofJournal, account, known, sameId, reserved⟩
    · rintro ⟨row, present, ofJournal, account, known, sameId, reserved⟩
      have ofTenant := charted.lines row present journal stored ofJournal account known sameId
      exact ⟨_, ⟨_, ⟨row, (listed row).mpr ⟨present, ofJournal⟩, rfl⟩, account, known,
        ofTenant.trans inTenant, rfl, sameId⟩, reserved⟩

theorem deltasOf_ok {lines : List Line} {deltas : List Delta}
    (made : deltasOf lines = .ok deltas) : Delta.ofLines lines = .ok deltas := by
  unfold deltasOf at made
  split at made
  · rename_i summed
    rw [summed, Except.ok.inj made]
  · cases made

/-- The rows of a journal of the tenant are summed up and added to the balances of its period. -/
structure Posted (before : Store) (ctx : Context) (id : JournalId) (old : Journal)
    (rows : List StoredLine) (deltas : List Delta) (after : Store) : Prop where
  acted : ∃ request, before.Acted ctx id request old (.post ctx.user)
  sorted : rows.Perm (rowsOf id before.journalLines)
  made : Delta.ofLines (rows.map (·.line)) = .ok deltas
  added : addDeltas ctx old.period (before.withJournal (old.after (.post ctx.user) ctx.now))
    deltas = .ok after

theorem Posted.frame {id : JournalId} {old : Journal} {rows : List StoredLine}
    {deltas : List Delta} (posted : before.Posted ctx id old rows deltas after) :
    ∃ balances, after =
        { before.withJournal (old.after (.post ctx.user) ctx.now) with balances } ∧
      ∀ other, other ≠ old.period →
        balances.filter (·.period = other) = before.balances.filter (·.period = other) :=
  addDeltas_frame posted.added

theorem postJournal_ok {id : JournalId} {view : JournalView}
    (posted : before.postJournal ctx id = .ok (after, view)) :
    (before.Charted → (Command.postJournal id).Permitted before ctx.tenant ctx.user) ∧
      ∃ old rows deltas, before.Posted ctx id old rows deltas after := by
  simp only [postJournal, liftM, monadLift, MonadLift.monadLift, bind_ok_iff, mapError_ok_iff,
    pure_ok_iff, Prod.mk.injEq] at posted
  obtain ⟨old, found, period, isIn, rows, listed, chart, looked, held, read, posted⟩ := posted
  obtain ⟨rules, _, action, decided, saved, saving, deltas, made, final, added, rfl, _⟩ := posted
  have accepted : old.state.answer
      (.post ctx.user held rules (chart.needsFinalPost (rows.map (·.line))) period) =
        .ok (old.state.after action) := map_ok_iff.mpr ⟨action, decided, rfl⟩
  obtain ⟨exercised, selected, _, _, _, rfl⟩ := JournalState.post_ok_iff.mp decided
  obtain ⟨stored, rfl, ofTenant⟩ := journal_ok found
  have within := acted_within isIn
  constructor
  · intro charted
    have reserved_iff := needsFinalPost_iff charted stored ofTenant listed looked
    obtain ⟨final, basic⟩ := toPost_permitted selected
    constructor
    · intro finalOnly
      exact allowed read (final (reserved_iff.mpr finalOnly))
    · intro unreserved
      rw [← reserved_iff, Bool.not_eq_true] at unreserved
      exact (basic unreserved).imp (allowed read) (allowed read)
  · obtain rfl := saveJournal_ok saving
    rw [within.1] at added
    refine ⟨old, rows, deltas, ⟨_, stored, rfl, ofTenant, accepted, ?_⟩, linesOf_ok listed,
      deltasOf_ok made, added⟩
    rintro _ ⟨⟩
    exact within

/-! ## Periods -/

/-- A period of the tenant is opened, apart from those they have. -/
structure Opened (before : Store) (ctx : Context) (input : PeriodInput) (row : StoredPeriod) :
    Prop where
  ofTenant : row.tenant = ctx.tenant
  period : row.period = ⟨ctx.newId 1, input.start, input.finish, .open⟩
  fresh : ∀ other ∈ before.periods, other.period.id ≠ ctx.newId 1
  proper : input.start ≤ input.finish
  apart : ∀ other ∈ before.periods, other.tenant = ctx.tenant →
    ¬ other.period.Overlaps input.start input.finish

theorem Opened.isNew {input : PeriodInput} {row : StoredPeriod}
    (opened : before.Opened ctx input row) : row.period.id = ctx.newId 1 :=
  congrArg Period.id opened.period

theorem createPeriod_ok {input : PeriodInput} {view : PeriodView}
    (created : before.createPeriod ctx input = .ok (after, view)) :
    before.Allows ctx.tenant ctx.user .periodClose ∧ before.Opened ctx input view.period ∧
      after = before.insertPeriod view.period := by
  simp only [createPeriod, liftM, monadLift, MonadLift.monadLift, bind_ok_iff, mapError_ok_iff,
    pure_ok_iff, Prod.mk.injEq, constraint_ok_iff, require_ok_iff, Bool.and_eq_true] at created
  obtain ⟨held, read, _, permitted, existing, listed, _, checked, created⟩ := created
  obtain ⟨_, _, _, ⟨_, free⟩, _, _, rfl, rfl⟩ := created
  obtain ⟨proper, apart⟩ := Period.checkNew_ok checked
  refine ⟨allowed read permitted, ⟨rfl, rfl, by simpa using free, proper, ?_⟩, rfl⟩
  intro other stored ofTenant
  exact apart other.period ((periodsByStart_ok listed _).mpr ⟨other, stored, ofTenant, rfl⟩)

/-- A period of the tenant had the status already, or is put into it. -/
inductive Moved (before : Store) (ctx : Context) (id : PeriodId) (target : PeriodStatus) :
    List StoredPeriod → Prop where
  | still {row : StoredPeriod} (stored : row ∈ before.periods) (sameId : row.period.id = id)
      (ofTenant : row.tenant = ctx.tenant) (status : row.period.status = target) :
      Moved before ctx id target before.periods
  | moved {row : StoredPeriod} {start : PeriodStatus} {actor : UserId} {time : Instant}
      (stored : row ∈ before.periods) (sameId : row.period.id = id)
      (ofTenant : row.tenant = ctx.tenant) :
      Moved before ctx id target
        (Rows.replace (·.period.id) (row.after (.transition start target actor time))
          before.periods)

/-- The action leads into the status, for whoever has the permission. -/
def LeadsTo (decide : PeriodStatus → PermissionSet → List ChecklistItem →
    Except PeriodError PeriodAction) (p : Permission) (target : PeriodStatus) : Prop :=
  ∀ status held checklist action, decide status held checklist = .ok action →
    p ∈ held ∧ (status = target ∧ action = .unchanged target ∨
      ∃ start actor time, action = .transition start target actor time)

theorem movePeriod_ok {id : PeriodId} {view : PeriodView} {p : Permission} {target : PeriodStatus}
    {decide : PeriodStatus → PermissionSet → List ChecklistItem → Except PeriodError PeriodAction}
    (leads : LeadsTo decide p target)
    (moved : before.movePeriod ctx id decide = .ok (after, view)) :
    before.Allows ctx.tenant ctx.user p ∧
      ∃ periods, before.Moved ctx id target periods ∧ after = { before with periods } := by
  simp only [movePeriod, liftM, monadLift, MonadLift.monadLift, bind_ok_iff,
    mapError_ok_iff] at moved
  obtain ⟨row, found, checklist, _, held, read, action, decided, moved⟩ := moved
  obtain ⟨stored, sameId, ofTenant⟩ := storedPeriod_ok found
  obtain ⟨permitted, leadsTo⟩ := leads _ _ _ _ decided
  refine ⟨allowed read permitted, ?_⟩
  rcases leadsTo with ⟨status, rfl⟩ | ⟨start, actor, time, rfl⟩
  · obtain ⟨rfl, _⟩ := Prod.mk.inj (pure_ok_iff.mp moved)
    exact ⟨_, .still stored sameId ofTenant status, rfl⟩
  · simp only [savePeriod, bind_ok_iff, pure_ok_iff, mapError_ok_iff, Prod.mk.injEq] at moved
    obtain ⟨saved, ⟨_, _, rfl⟩, rfl, _⟩ := moved
    exact ⟨_, .moved stored sameId ofTenant, rfl⟩

theorem closePeriod_ok {id : PeriodId} {view : PeriodView}
    (closed : before.closePeriod ctx id = .ok (after, view)) :
    before.Allows ctx.tenant ctx.user .periodClose ∧
      ∃ periods, before.Moved ctx id .closed periods ∧ after = { before with periods } := by
  refine movePeriod_ok (fun status held checklist action decided => ?_) closed
  obtain ⟨permitted, ⟨_, _, rfl⟩ | still⟩ := PeriodStatus.close_ok_iff.mp decided
  · exact ⟨permitted, Or.inr ⟨_, _, _, rfl⟩⟩
  · exact ⟨permitted, Or.inl still⟩

theorem lockPeriod_ok {id : PeriodId} {view : PeriodView}
    (locked : before.lockPeriod ctx id = .ok (after, view)) :
    before.Allows ctx.tenant ctx.user .periodLock ∧
      ∃ periods, before.Moved ctx id .locked periods ∧ after = { before with periods } := by
  refine movePeriod_ok (fun status held checklist action decided => ?_) locked
  obtain ⟨permitted, ⟨_, rfl⟩ | still⟩ := PeriodStatus.lock_ok_iff.mp decided
  · exact ⟨permitted, Or.inr ⟨_, _, _, rfl⟩⟩
  · exact ⟨permitted, Or.inl still⟩

theorem reopenPeriod_ok {id : PeriodId} {view : PeriodView}
    (reopened : before.reopenPeriod ctx id = .ok (after, view)) :
    before.Allows ctx.tenant ctx.user .periodReopen ∧
      ∃ periods, before.Moved ctx id .open periods ∧ after = { before with periods } := by
  refine movePeriod_ok (fun status held checklist action decided => ?_) reopened
  obtain ⟨permitted, _, rfl⟩ := PeriodStatus.reopen_ok_iff.mp decided
  exact ⟨permitted, Or.inr ⟨_, _, _, rfl⟩⟩

theorem completeItem_ok {id : PeriodId} {code : String} {item : ChecklistItem}
    (completed : before.completeItem ctx id code = .ok (after, item)) :
    before.Allows ctx.tenant ctx.user .checklistComplete ∧
      ∃ checklistItems, after = { before with checklistItems } := by
  simp only [completeItem, liftM, monadLift, MonadLift.monadLift, bind_ok_iff,
    mapError_ok_iff] at completed
  obtain ⟨_, _, _, _, completed⟩ := completed
  split at completed
  · simp only [throw_ok_iff] at completed
  simp only [bind_ok_iff, mapError_ok_iff, ChecklistItem.complete_ok_iff] at completed
  obtain ⟨held, read, signOff, ⟨permitted, _⟩, completed⟩ := completed
  refine ⟨allowed read permitted, ?_⟩
  split at completed
  · obtain ⟨rfl, _⟩ := Prod.mk.inj (pure_ok_iff.mp completed)
    exact ⟨_, rfl⟩
  · simp only [bind_ok_iff, pure_ok_iff, mapError_ok_iff, Prod.mk.injEq] at completed
    obtain ⟨_, _, rfl, _⟩ := completed
    exact ⟨_, rfl⟩

/-! ## Roles and templates -/

theorem createRole_ok {name : String} {description : Option String} {role : Role}
    (created : before.createRole ctx name description = .ok (after, role)) :
    before.Allows ctx.tenant ctx.user .sodManage ∧
      (∀ other ∈ before.roles, other.id ≠ role.id) ∧
      after = { before with roles := before.roles ++ [role] } := by
  simp only [createRole, liftM, monadLift, MonadLift.monadLift, bind_ok_iff, mapError_ok_iff,
    pure_ok_iff, Prod.mk.injEq, constraint_ok_iff, require_ok_iff, Bool.and_eq_true] at created
  obtain ⟨held, read, _, permitted, _, _, _, ⟨_, free⟩, rfl, rfl⟩ := created
  refine ⟨allowed read permitted, ?_, rfl⟩
  simp only [Bool.not_eq_true', List.any_eq_false, Bool.or_eq_true, decide_eq_true_eq,
    not_or] at free
  exact fun other present => (free other present).1

theorem checkGrantor_permitted {role : RoleId} {u : Unit}
    (checked : before.checkGrantor ctx role = .ok u) :
    before.Allows ctx.tenant ctx.user .sodManage := by
  simp only [checkGrantor, liftM, monadLift, MonadLift.monadLift, bind_ok_iff, mapError_ok_iff,
    require_ok_iff] at checked
  obtain ⟨held, read, _, permitted, _⟩ := checked
  exact allowed read permitted

theorem grantPermission_ok {role : RoleId} {p : Permission} {outcome : GrantOutcome}
    (granted : before.grantPermission ctx role p = .ok (after, outcome)) :
    before.Allows ctx.tenant ctx.user .sodManage ∧
      ∃ rolePermissions, after = { before with rolePermissions } := by
  simp only [grantPermission, liftM, monadLift, MonadLift.monadLift, bind_ok_iff,
    mapError_ok_iff] at granted
  obtain ⟨_, checked, grants, _, granted⟩ := granted
  refine ⟨checkGrantor_permitted checked, ?_⟩
  split at granted
  · obtain ⟨rfl, _⟩ := Prod.mk.inj (pure_ok_iff.mp granted)
    exact ⟨_, rfl⟩
  · simp only [bind_ok_iff, pure_ok_iff, Prod.mk.injEq] at granted
    obtain ⟨rules, _, decision, _, _, _, _, _, rfl, _⟩ := granted
    exact ⟨_, rfl⟩

theorem assignRole_ok {user : UserId} {role : RoleId} {outcome : GrantOutcome}
    (assigned : before.assignRole ctx user role = .ok (after, outcome)) :
    before.Allows ctx.tenant ctx.user .sodManage ∧
      ∃ userRoles, after = { before with userRoles } := by
  simp only [assignRole, liftM, monadLift, MonadLift.monadLift, bind_ok_iff,
    mapError_ok_iff] at assigned
  obtain ⟨_, checked, grants, _, assigned⟩ := assigned
  refine ⟨checkGrantor_permitted checked, ?_⟩
  split at assigned
  · obtain ⟨rfl, _⟩ := Prod.mk.inj (pure_ok_iff.mp assigned)
    exact ⟨_, rfl⟩
  · simp only [bind_ok_iff, pure_ok_iff, Prod.mk.injEq] at assigned
    obtain ⟨rules, _, decision, _, _, _, _, _, rfl, _⟩ := assigned
    exact ⟨_, rfl⟩

/-- A template of the tenant is stored with the document of its lines. -/
structure Installed (before : Store) (ctx : Context) (input : TemplateInput)
    (row : StoredTemplate) : Prop where
  isNew : row.id = ctx.newId 1
  ofTenant : row.tenant = ctx.tenant
  lines : row.lines = Json.ofList Line.toJson input.lines
  ungenerated : row.lastGenerated = none
  fresh : ∀ other ∈ before.templates, other.id ≠ row.id

theorem createTemplate_ok {input : TemplateInput} {row : StoredTemplate}
    (created : before.createTemplate ctx input = .ok (after, row)) :
    before.Allows ctx.tenant ctx.user .recurringGenerate ∧ before.Installed ctx input row ∧
      after = { before with templates := before.templates ++ [row] } := by
  simp only [createTemplate, liftM, monadLift, MonadLift.monadLift, bind_ok_iff, mapError_ok_iff,
    pure_ok_iff, Prod.mk.injEq, constraint_ok_iff, require_ok_iff, Bool.and_eq_true] at created
  obtain ⟨held, read, _, permitted, chart, _, totals, _, created⟩ := created
  obtain ⟨_, _, _, ⟨_, free⟩, rfl, rfl⟩ := created
  exact ⟨allowed read permitted, ⟨rfl, rfl, rfl, rfl, by simpa using free⟩, rfl⟩

/-! ## Commands -/

/-- What a command that succeeds found, what it leaves, and the row it created. -/
inductive Did (before : Store) (ctx : Context) : Command → Store → Option EntityId → Prop where
  | created {input : JournalInput} {period : PeriodId} {totals : Totals} {view : JournalView}
      (drafted : before.Drafted ctx
        ⟨input.date, period, input.description, input.lines, totals, none, none⟩ view) :
      Did before ctx (.createJournal input) (before.withDraft view) (some view.journal.id.recast)
  | edited {id : JournalId} {input : JournalInput} {old : Journal} {period : PeriodId}
      {totals : Totals} {rows : List StoredLine}
      (edited : before.Edited ctx id input old period totals rows) :
      Did before ctx (.updateJournal id input)
        (before.withEdited (old.edited input period totals ctx.now) rows) none
  | submitted {id : JournalId} {request : JournalRequest} {old : Journal}
      (acted : before.Acted ctx id request old (.submit ctx.user)) :
      Did before ctx (.submitJournal id)
        (before.withJournal (old.after (.submit ctx.user) ctx.now)) none
  | approved {id : JournalId} {request : JournalRequest} {old : Journal}
      (acted : before.Acted ctx id request old (.approve ctx.user)) :
      Did before ctx (.approveJournal id)
        (before.withJournal (old.after (.approve ctx.user) ctx.now)) none
  | rejected {id : JournalId} {reason : String} {request : JournalRequest} {old : Journal}
      (acted : before.Acted ctx id request old (.reject ctx.user reason)) :
      Did before ctx (.rejectJournal id reason)
        (before.withJournal (old.after (.reject ctx.user reason) ctx.now)) none
  | posted {id : JournalId} {old : Journal} {rows : List StoredLine} {deltas : List Delta}
      {after : Store} (posted : before.Posted ctx id old rows deltas after) :
      Did before ctx (.postJournal id) after none
  | reversed {id : JournalId} {date? : Option Date} {date : Date} {period : PeriodId}
      {description : Option String} {lines : List Line} {totals : Totals} {view : JournalView}
      (reversible : before.Reversible ctx id)
      (drafted : before.Drafted ctx
        ⟨date, period, description, lines, totals, some id, none⟩ view) :
      Did before ctx (.reverseJournal id date?) (before.withDraft view) none
  | opened {input : PeriodInput} {row : StoredPeriod} (opened : before.Opened ctx input row) :
      Did before ctx (.createPeriod input) (before.insertPeriod row) (some row.period.id.recast)
  | closed {id : PeriodId} {periods : List StoredPeriod}
      (moved : before.Moved ctx id .closed periods) :
      Did before ctx (.closePeriod id) { before with periods } none
  | locked {id : PeriodId} {periods : List StoredPeriod}
      (moved : before.Moved ctx id .locked periods) :
      Did before ctx (.lockPeriod id) { before with periods } none
  | reopened {id : PeriodId} {periods : List StoredPeriod}
      (moved : before.Moved ctx id .open periods) :
      Did before ctx (.reopenPeriod id) { before with periods } none
  | completed {id : PeriodId} {code : String} {checklistItems : List StoredItem} :
      Did before ctx (.completeItem id code) { before with checklistItems } none
  | roleCreated {name : String} {description : Option String} {role : Role}
      (fresh : ∀ other ∈ before.roles, other.id ≠ role.id) :
      Did before ctx (.createRole name description)
        { before with roles := before.roles ++ [role] } (some role.id.recast)
  | granted {role : RoleId} {code : String} {rolePermissions : List StoredGrant} :
      Did before ctx (.grantPermission role code) { before with rolePermissions } none
  | assigned {user : UserId} {role : RoleId} {userRoles : List StoredAssignment} :
      Did before ctx (.assignRole user role) { before with userRoles } none
  | installed {input : TemplateInput} {row : StoredTemplate}
      (installed : before.Installed ctx input row) :
      Did before ctx (.createTemplate input)
        { before with templates := before.templates ++ [row] } (some row.id.recast)
  | generated {id : TemplateId} {period : PeriodId} {row : StoredTemplate} {template : Template}
      {date : Date} {description : Option String} {totals : Totals} {view : JournalView}
      (generable : before.Generable ctx id period row template)
      (drafted : before.Drafted ctx
        ⟨date, period, description, template.lines, totals, none, some id⟩ view) :
      Did before ctx (.generateJournal id period)
        ((before.withDraft view).withGeneration ⟨ctx.tenant, id, period, view.journal.id⟩) none
  | matched {line : StatementLineId} {payment : PaymentId}
      {statementLines : List StoredStatementLine} :
      Did before ctx (.matchLine line payment) { before with statementLines } none
  | adjusted {bank : BankAccountId} {asOf : Date} {closing : Decimal} {offset : AccountId}
      {period : PeriodId} {description : Option String} {lines : List Line} {totals : Totals}
      {view : JournalView}
      (drafted : before.Drafted ctx
        ⟨asOf, period, description, lines, totals, none, none⟩ view) :
      Did before ctx (.createAdjustment bank asOf closing offset) (before.withDraft view) none

theorem command_did {command : Command} {done : Done}
    (succeeded : (command.run ctx before).result = .ok done) :
    (before.Charted → command.Permitted before ctx.tenant ctx.user) ∧
      before.Did ctx command done.store done.created := by
  cases command with
  | createJournal input =>
    obtain ⟨view, created, isNew⟩ := Command.created_ok succeeded
    obtain ⟨permitted, period, totals, drafted, reached⟩ := createJournal_ok created
    rw [isNew, reached]
    exact ⟨fun _ => permitted, .created drafted⟩
  | updateJournal id input =>
    obtain ⟨view, updated, isNone⟩ := Command.changed_ok succeeded
    obtain ⟨permitted, old, period, totals, rows, edited, reached⟩ := updateJournal_ok updated
    rw [isNone, reached]
    exact ⟨fun _ => permitted, .edited edited⟩
  | submitJournal id =>
    obtain ⟨view, submitted, isNone⟩ := Command.changed_ok succeeded
    obtain ⟨permitted, request, old, acted, reached⟩ := submitJournal_ok submitted
    rw [isNone, reached]
    exact ⟨fun _ => permitted, .submitted acted⟩
  | approveJournal id =>
    obtain ⟨view, approved, isNone⟩ := Command.changed_ok succeeded
    obtain ⟨permitted, request, old, acted, reached⟩ := approveJournal_ok approved
    rw [isNone, reached]
    exact ⟨fun _ => permitted, .approved acted⟩
  | rejectJournal id reason =>
    obtain ⟨view, rejected, isNone⟩ := Command.changed_ok succeeded
    obtain ⟨permitted, request, old, acted, reached⟩ := rejectJournal_ok rejected
    rw [isNone, reached]
    exact ⟨fun _ => permitted, .rejected acted⟩
  | postJournal id =>
    obtain ⟨view, posting, isNone⟩ := Command.changed_ok succeeded
    obtain ⟨permitted, old, rows, deltas, posted⟩ := postJournal_ok posting
    rw [isNone]
    exact ⟨permitted, .posted posted⟩
  | reverseJournal id date =>
    obtain ⟨view, reversed, isNone⟩ := Command.changed_ok succeeded
    obtain ⟨permitted, reversible, _, _, _, _, _, drafted, reached⟩ := reverseJournal_ok reversed
    rw [isNone, reached]
    exact ⟨fun _ => permitted, .reversed reversible drafted⟩
  | createPeriod input =>
    obtain ⟨view, created, isNew⟩ := Command.created_ok succeeded
    obtain ⟨permitted, opened, reached⟩ := createPeriod_ok created
    rw [isNew, reached]
    exact ⟨fun _ => permitted, .opened opened⟩
  | closePeriod id =>
    obtain ⟨view, closed, isNone⟩ := Command.changed_ok succeeded
    obtain ⟨permitted, periods, moved, reached⟩ := closePeriod_ok closed
    rw [isNone, reached]
    exact ⟨fun _ => permitted, .closed moved⟩
  | lockPeriod id =>
    obtain ⟨view, locked, isNone⟩ := Command.changed_ok succeeded
    obtain ⟨permitted, periods, moved, reached⟩ := lockPeriod_ok locked
    rw [isNone, reached]
    exact ⟨fun _ => permitted, .locked moved⟩
  | reopenPeriod id =>
    obtain ⟨view, reopened, isNone⟩ := Command.changed_ok succeeded
    obtain ⟨permitted, periods, moved, reached⟩ := reopenPeriod_ok reopened
    rw [isNone, reached]
    exact ⟨fun _ => permitted, .reopened moved⟩
  | completeItem id code =>
    obtain ⟨item, completed, isNone⟩ := Command.changed_ok succeeded
    obtain ⟨permitted, items, reached⟩ := completeItem_ok completed
    rw [isNone, reached]
    exact ⟨fun _ => permitted, .completed⟩
  | createRole name description =>
    obtain ⟨role, created, isNew⟩ := Command.created_ok succeeded
    obtain ⟨permitted, fresh, reached⟩ := createRole_ok created
    rw [isNew, reached]
    exact ⟨fun _ => permitted, .roleCreated fresh⟩
  | grantPermission role code =>
    obtain ⟨outcome, granted, isNone⟩ := Command.granted_ok succeeded
    split at granted
    · obtain ⟨permitted, grants, reached⟩ := grantPermission_ok granted
      rw [isNone, reached]
      exact ⟨fun _ => permitted, .granted⟩
    · cases granted
  | assignRole user role =>
    obtain ⟨outcome, assigned, isNone⟩ := Command.granted_ok succeeded
    obtain ⟨permitted, assignments, reached⟩ := assignRole_ok assigned
    rw [isNone, reached]
    exact ⟨fun _ => permitted, .assigned⟩
  | createTemplate input =>
    obtain ⟨row, created, isNew⟩ := Command.created_ok succeeded
    obtain ⟨permitted, installed, reached⟩ := createTemplate_ok created
    rw [isNew, reached]
    exact ⟨fun _ => permitted, .installed installed⟩
  | generateJournal template period =>
    obtain ⟨view, generated, isNone⟩ := Command.changed_ok succeeded
    obtain ⟨permitted, _, _, _, _, _, generable, drafted, reached⟩ := generateJournal_ok generated
    rw [isNone, reached]
    exact ⟨fun _ => permitted, .generated generable drafted⟩
  | matchLine line payment =>
    obtain ⟨row, asked, isNone⟩ := Command.changed_ok succeeded
    obtain ⟨old, paid, matched, reached⟩ := matchLine_ok asked
    obtain ⟨held, read, permitted⟩ := matched.permitted
    rw [isNone, reached]
    exact ⟨fun _ => allowed read permitted, .matched⟩
  | createAdjustment bank asOf closing offset =>
    obtain ⟨view, adjusted, isNone⟩ := Command.changed_ok succeeded
    obtain ⟨permitted, _, _, _, _, drafted, reached⟩ := createAdjustment_ok adjusted
    rw [isNone, reached]
    exact ⟨fun _ => permitted, .adjusted drafted⟩

end Store

end Countinghouse
