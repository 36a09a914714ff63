import Countinghouse.Proofs.Store.Once
import Countinghouse.Proofs.Store.Shut

/-! # Generating into periods

The status of a period is what the last accepted creation, closing, locking or reopening has left
it in.  Generating a journal reads its target for the dates alone, so that a journal that is
accepted for an open period is accepted for a closed or locked one in the same way. -/

set_option autoImplicit false

namespace Countinghouse

/-- The status that a period is left in once the command is accepted, if this is what the command
is about. -/
def Command.leaves? (ctx : Context) (id : PeriodId) : Command → Option PeriodStatus
  | createPeriod _ => if ctx.newId 1 = id then some .open else none
  | closePeriod other => if other = id then some .closed else none
  | lockPeriod other => if other = id then some .locked else none
  | reopenPeriod other => if other = id then some .open else none
  | _ => none

namespace Store

variable {store after : Store} {ctx : Context} {id : PeriodId}

def statusOf (store : Store) (id : PeriodId) : Option PeriodStatus :=
  (store.periods.find? fun row => row.period.id = id).map (·.period.status)

def lastLeft (store : Store) (attempts : List Attempt) (id : PeriodId) : Option PeriodStatus :=
  ((store.accepted attempts).filterMap fun attempt =>
    attempt.command.leaves? attempt.ctx id).getLast?

theorem Keyed.statusOf_eq (keyed : store.Keyed) {row : StoredPeriod}
    (stored : row ∈ store.periods) : store.statusOf row.period.id = some row.period.status := by
  rw [statusOf, Rows.find?_key keyed.periods stored]
  rfl

/-! ## One command -/

theorem Opened.statusOf {input : PeriodInput} {row : StoredPeriod}
    (opened : store.Opened ctx input row) (id : PeriodId) :
    (store.insertPeriod row).statusOf id =
      (if ctx.newId 1 = id then some .open else none : Option PeriodStatus).or
        (store.statusOf id) := by
  have isOpen : row.period.status = .open := congrArg Period.status opened.period
  rw [Store.statusOf, insertPeriod, List.find?_append]
  split
  case isTrue same =>
    have fresh : store.periods.find? (fun row => row.period.id = id) = none := by
      rw [← same, List.find?_eq_none]
      simpa using opened.fresh
    rw [fresh, List.find?_cons_of_pos (by simpa [opened.isNew] using same), Option.none_or,
      Option.map_some, isOpen, Option.some_or]
  case isFalse differ =>
    rw [List.find?_cons_of_neg (by simpa [opened.isNew] using differ), List.find?_nil, Option.or_none]
    rfl

theorem Moved.statusOf (keyed : store.Keyed) {other : PeriodId} {target : PeriodStatus}
    {periods : List StoredPeriod} (moved : store.Moved ctx other target periods) (id : PeriodId) :
    { store with periods }.statusOf id =
      (if other = id then some target else none).or (store.statusOf id) := by
  cases moved with
  | still stored sameId ofTenant status =>
    -- Nothing is written: the period has the status already that is asked for.
    split
    case isTrue same => rw [← same, ← sameId, keyed.statusOf_eq stored, status, Option.some_or]
    case isFalse => rw [Option.none_or]
  | @moved row start actor time stored sameId ofTenant =>
    obtain ⟨changed, _⟩ := row.after_transition start target actor time
    rw [Store.statusOf]
    dsimp only
    split
    case isTrue same =>
      have isIt : row.period.id = id := sameId.trans same
      have found : store.periods.find? (fun row => row.period.id = id) = some row :=
        isIt ▸ Rows.find?_key keyed.periods stored
      rw [Rows.find?_replace (·.period.id) _ found (by simpa [changed] using isIt)
        (by simp [changed, isIt]), Option.map_some, changed, Option.some_or]
    case isFalse differ =>
      have differ' : row.period.id ≠ id := sameId ▸ differ
      rw [Rows.find?_replace_other (by simpa [changed] using differ')
        (by simpa [changed] using fun _ _ same => same.trans_ne differ'), Option.none_or]
      rfl

theorem Did.statusOf {command : Command} {created : Option EntityId} (keyed : store.Keyed)
    (did : store.Did ctx command after created) (id : PeriodId) :
    after.statusOf id = (command.leaves? ctx id).or (store.statusOf id) := by
  cases did with
  | opened opened => exact opened.statusOf id
  | closed moved | locked moved | reopened moved => exact moved.statusOf keyed id
  | posted posted =>
    obtain ⟨balances, rfl, _⟩ := posted.frame
    rfl
  | _ => rfl

/-! ## Runs -/

theorem run_statusOf (keyed : store.Keyed) (attempts : List Attempt) (id : PeriodId) :
    (store.run attempts).statusOf id = (store.lastLeft attempts id).or (store.statusOf id) := by
  induction attempts generalizing store with
  | nil => rfl
  | cons attempt rest ih =>
    have later := ih (keyed.after attempt)
    rw [run, later]
    rcases store.after_cases attempt with
      ⟨done, records, succeeded, reached⟩ | ⟨failure, records, failed, reached⟩
    · have left : (store.after attempt).statusOf id =
          (attempt.command.leaves? attempt.ctx id).or (store.statusOf id) := by
        rw [reached]
        exact (command_did succeeded).2.statusOf keyed id
      rw [left, lastLeft, lastLeft, accepted_of_ok rest succeeded, List.filterMap_cons]
      cases attempt.command.leaves? attempt.ctx id with
      | none => rfl
      | some status =>
        dsimp only
        rw [List.getLast?_cons]
        cases (((store.after attempt).accepted rest).filterMap fun attempt =>
          attempt.command.leaves? attempt.ctx id).getLast? <;> rfl
    · have same : (store.after attempt).statusOf id = store.statusOf id := by
        rw [reached]
        rfl
      have passed : store.accepted (attempt :: rest) = (store.after attempt).accepted rest := by
        simp only [accepted, failed]
      rw [same, lastLeft, lastLeft, passed]

/-! ## Generating -/

/-- The same store, with other statuses of its periods. -/
def restated (store : Store) (statuses : StoredPeriod → PeriodStatus) : Store :=
  { store with
    periods := store.periods.map fun row =>
      { row with period := { row.period with status := statuses row } } }

theorem period?_restated {row? : Option StoredPeriod} (statuses : StoredPeriod → PeriodStatus)
    (searched : store.period? ctx id = .ok row?) :
    (store.restated statuses).period? ctx id =
      .ok (row?.map fun row =>
        { row with period := { row.period with status := statuses row } }) := by
  simp only [period?, bind_ok_iff, pure_ok_iff] at searched ⊢
  obtain ⟨_, reachable, rfl⟩ := searched
  refine ⟨(), reachable, ?_⟩
  rw [restated, List.find?_map]
  rfl

theorem insertDraft_restated {draft : NewJournal} {view : JournalView}
    (statuses : StoredPeriod → PeriodStatus)
    (inserted : store.insertDraft ctx draft = .ok (after, view)) :
    (store.restated statuses).insertDraft ctx draft = .ok (after.restated statuses, view) := by
  simp only [insertDraft, bind_ok_iff, pure_ok_iff, Prod.mk.injEq] at inserted ⊢
  obtain ⟨_, reachable, totals, stored, _, free, rows, made, rfl, rfl⟩ := inserted
  exact ⟨(), reachable, totals, stored, (), free, rows, made, rfl, rfl⟩

theorem generateJournal_target {template : TemplateId} {view : JournalView}
    (generated : store.generateJournal ctx template id = .ok (after, view)) :
    (∃ row ∈ store.periods, row.period.id = id ∧ row.tenant = ctx.tenant) ∧
      ∀ statuses, (store.restated statuses).generateJournal ctx template id =
        .ok (after.restated statuses, view) := by
  obtain ⟨stored, template, target, already, held, chart, made, drafted, found, read, searched,
    asked, granted, known, decided, inserted, recorded, marked, rfl⟩ :=
    generateJournal_ok_iff.mp generated
  refine ⟨⟨target, period?_ok searched⟩, fun statuses => generateJournal_ok_iff.mpr ?_⟩
  exact ⟨stored, template, _, already, held, chart, made, _, found, read,
    period?_restated statuses searched, asked, granted, known, decided,
    insertDraft_restated statuses inserted, recorded, marked, rfl⟩

theorem generate_target {template : TemplateId} {done : Done}
    (generated : ((Command.generateJournal template id).run ctx store).result = .ok done) :
    (∃ row ∈ store.periods, row.period.id = id ∧ row.tenant = ctx.tenant) ∧
      ∀ statuses,
        ((Command.generateJournal template id).run ctx (store.restated statuses)).result =
          .ok { done with store := done.store.restated statuses } := by
  simp only [Command.run, Command.changed, map_ok_iff, Command.asFailure_ok_iff] at generated ⊢
  obtain ⟨⟨reached, view⟩, generated, rfl⟩ := generated
  obtain ⟨target, unasked⟩ := generateJournal_target generated
  exact ⟨target, fun statuses => ⟨_, unasked statuses, rfl⟩⟩

/-- What is known of the target when a journal is generated after a run. -/
structure Target (store : Store) (earlier : List Attempt) (ctx : Context) (template : TemplateId)
    (period : PeriodId) (done : Done) : Prop where
  known : ∃ row ∈ (store.run earlier).periods, row.period.id = period ∧ row.tenant = ctx.tenant ∧
    (store.run earlier).statusOf period = some row.period.status
  open_iff : (store.run earlier).statusOf period = some .open ↔
    store.lastLeft earlier period = some .open ∨
      store.lastLeft earlier period = none ∧ store.statusOf period = some .open
  /-- The status is not asked for. -/
  unasked : ∀ statuses,
    ((Command.generateJournal template period).run ctx
        ((store.run earlier).restated statuses)).result =
      .ok { done with store := done.store.restated statuses }

def GeneratesIntoOpen (store : Store) (attempts : List Attempt) : Prop :=
  ∀ earlier ctx template period later,
    attempts = earlier ++ ⟨ctx, .generateJournal template period⟩ :: later →
    (∃ done, ((Command.generateJournal template period).run ctx (store.run earlier)).result =
      .ok done) →
    (store.run earlier).statusOf period = some .open

/-- Where a journal is generated after any run, the target is open exactly when the last accepted
creation, closing, locking or reopening of it has left it open, or there was none and it was open
at the start.  The journal is generated as well when it is not. -/
theorem generated_target (store : Store) (keyed : store.Keyed) (earlier : List Attempt)
    (ctx : Context) (template : TemplateId) (period : PeriodId) (done : Done)
    (generated : ((Command.generateJournal template period).run ctx (store.run earlier)).result =
      .ok done) : store.Target earlier ctx template period done := by
  obtain ⟨⟨row, stored, rfl, inTenant⟩, unasked⟩ := generate_target generated
  have reached := run_statusOf keyed earlier row.period.id
  refine ⟨⟨row, stored, rfl, inTenant, (keyed.run earlier).statusOf_eq stored⟩, ?_, unasked⟩
  rw [reached]
  cases store.lastLeft earlier row.period.id with
  | none => simp
  | some status => simp

def closableBooks : Store :=
  { rentBooks with
    rolePermissions := rentBooks.rolePermissions ++
      [⟨Id.ofNat 1, Id.ofNat 1, Permission.code .periodClose⟩] }

/-- The only period is closed, where no checklist is required for that. -/
def closedBooksAttempts : List Attempt :=
  [⟨⟨Id.ofNat 1, Id.ofNat 1, ⟨1728000000⟩, 100, ⟨false, .block⟩, .none⟩, .closePeriod (Id.ofNat 1)⟩]

def rentAttempt : Attempt := askRentBooks 1 200 (.generateJournal (Id.ofNat 50) (Id.ofNat 1))

theorem rentAttempt_accepted : ∃ done,
    (rentAttempt.command.run rentAttempt.ctx
      (closableBooks.run closedBooksAttempts)).result = .ok done := by
  have accepted : (rentAttempt.command.run rentAttempt.ctx
      (closableBooks.run closedBooksAttempts)).result.isOk = true := by decide +kernel
  cases ended : (rentAttempt.command.run rentAttempt.ctx
      (closableBooks.run closedBooksAttempts)).result with
  | ok done => exact ⟨done, rfl⟩
  | error failure =>
    rw [ended] at accepted
    cases accepted

theorem rentAttempt_target :
    closableBooks.Keyed ∧
      closableBooks.lastLeft closedBooksAttempts (Id.ofNat 1) = some .closed ∧
      ∃ done, closableBooks.Target closedBooksAttempts rentAttempt.ctx (Id.ofNat 50) (Id.ofNat 1)
        done := by
  have keyed : closableBooks.Keyed := ⟨by decide, by decide⟩
  obtain ⟨done, accepted⟩ := rentAttempt_accepted
  exact ⟨keyed, by decide +kernel, done, generated_target closableBooks keyed closedBooksAttempts
    rentAttempt.ctx (Id.ofNat 50) (Id.ofNat 1) done accepted⟩

/-- The rent is generated for a period that has been closed before. -/
theorem rent_into_closed :
    closableBooks.Keyed ∧ closableBooks.statusOf (Id.ofNat 1) = some .open ∧
      ¬ closableBooks.GeneratesIntoOpen (closedBooksAttempts ++ [rentAttempt]) := by
  refine ⟨⟨by decide, by decide⟩, by decide, fun into => ?_⟩
  have isOpen := into closedBooksAttempts rentAttempt.ctx (Id.ofNat 50) (Id.ofNat 1) [] rfl
    rentAttempt_accepted
  have isClosed : (closableBooks.run closedBooksAttempts).statusOf (Id.ofNat 1) = some .closed := by
    decide +kernel
  rw [isClosed] at isOpen
  cases isOpen

end Store

end Countinghouse
