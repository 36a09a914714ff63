import Countinghouse.Period.Calendar
import Countinghouse.Period.Closing
import Countinghouse.Store.Policy

/-! # Periods in the store

Creating periods with their checklists, closing, locking and reopening them, and
the balances that were posted into them. -/

set_option autoImplicit false

namespace Countinghouse

structure PeriodInput where
  name : Option String
  start : Date
  finish : Date

structure PeriodView where
  period : StoredPeriod
  checklist : List ChecklistItem

/-- The period once an action is recorded; what changes nothing leaves no mark. -/
def StoredPeriod.after (row : StoredPeriod) : PeriodAction → StoredPeriod
  | .unchanged _ => row
  | .transition _ target actor time =>
      let row := { row with period := { row.period with status := target } }
      match target with
      | .closed => { row with closed := some ⟨actor, time⟩ }
      | .locked => { row with locked := some ⟨actor, time⟩ }
      | .open => { row with reopened := some ⟨actor, time⟩ }

namespace Store

variable (store : Store) (ctx : Context)

def tenantPeriods : List StoredPeriod :=
  (store.periods.filter (·.tenant = ctx.tenant)).mergeSort fun a b =>
    decide (a.period.start ≤ b.period.start)

/-- The periods of the tenant, the oldest first. -/
def periodsByStart : Except StoreFault (List Period) := do
  ctx.use .periods
  return (store.tenantPeriods ctx).map (·.period)

def period? (id : PeriodId) : Except StoreFault (Option StoredPeriod) := do
  ctx.use .periods
  return store.periods.find? fun row => row.period.id = id && row.tenant = ctx.tenant

def storedPeriod (id : PeriodId) : Except PeriodError StoredPeriod := do
  match ← store.period? ctx id with
  | some row => return row
  | none => throw (.periodNotFound id)

def checklist (id : PeriodId) : Except StoreFault (List ChecklistItem) := do
  ctx.use .checklistItems
  return (store.checklistItems.filter fun row =>
    row.tenant = ctx.tenant && row.period = id).map (·.item)

def listPeriods : Except PeriodError (List StoredPeriod) := do
  ctx.use .periods
  return store.tenantPeriods ctx

def getPeriod (id : PeriodId) : Except PeriodError PeriodView := do
  let row ← store.storedPeriod ctx id
  let checklist ← store.checklist ctx id
  return ⟨row, checklist⟩

def insertPeriod (row : StoredPeriod) : Store :=
  { store with
    periods := store.periods ++ [row]
    checklistItems := store.checklistItems ++
      ChecklistItem.baseline.map fun item => ⟨row.tenant, row.period.id, item⟩ }

/-- Opens a new period.  A period without a name is named for its dates; names
have at most fifty characters. -/
def createPeriod (input : PeriodInput) : Except PeriodError (Store × PeriodView) := do
  let held ← store.permissions ctx ctx.user
  held.require .periodClose
  let existing ← store.periodsByStart ctx
  Period.checkNew input.start input.finish existing
  let name := input.name.getD (input.start.text ++ " to " ++ input.finish.text)
  let id : PeriodId := ctx.newId 1
  ctx.use .periods
  Store.require (name.length ≤ 50 && !store.periods.any (·.period.id = id))
  let row : StoredPeriod :=
    ⟨ctx.tenant, ⟨id, input.start, input.finish, .open⟩, name, none, none, none⟩
  ctx.use .checklistItems
  return (store.insertPeriod row, ⟨row, ChecklistItem.baseline⟩)

def savePeriod (row : StoredPeriod) : Except StoreFault Store := do
  ctx.use .periods
  return { store with
    periods := store.periods.map fun old => if old.period.id = row.period.id then row else old }

def movePeriod (id : PeriodId)
    (decide : PeriodStatus → PermissionSet → List ChecklistItem → Except PeriodError PeriodAction) :
    Except PeriodError (Store × PeriodView) := do
  let row ← store.storedPeriod ctx id
  let checklist ← store.checklist ctx id
  let held ← store.permissions ctx ctx.user
  match ← decide row.period.status held checklist with
  | .unchanged _ => return (store, ⟨row, checklist⟩)
  | action =>
      let row := row.after action
      let store ← store.savePeriod ctx row
      return (store, ⟨row, checklist⟩)

def closePeriod (id : PeriodId) : Except PeriodError (Store × PeriodView) :=
  store.movePeriod ctx id fun status held checklist =>
    status.close ctx.user held checklist ctx.ledger.requireChecklist ctx.now

def lockPeriod (id : PeriodId) : Except PeriodError (Store × PeriodView) :=
  store.movePeriod ctx id fun status held _ => status.lock ctx.user held ctx.now

def reopenPeriod (id : PeriodId) : Except PeriodError (Store × PeriodView) :=
  store.movePeriod ctx id fun status held _ => status.reopen ctx.user held ctx.now

def completeItem (id : PeriodId) (code : String) : Except PeriodError (Store × ChecklistItem) := do
  let _ ← store.storedPeriod ctx id
  ctx.use .checklistItems
  let isRow := fun (row : StoredItem) =>
    row.tenant = ctx.tenant && row.period = id && row.item.code = code
  match store.checklistItems.find? isRow with
  | none => throw (.unknownChecklistItem code)
  | some row =>
      let held ← store.permissions ctx ctx.user
      match ← row.item.complete ctx.user held ctx.now with
      | .alreadyComplete => return (store, row.item)
      | .completed actor time =>
          ctx.use .checklistItems
          let item := row.item.signedOff actor time
          let items := store.checklistItems.map fun old =>
            if isRow old then { old with item } else old
          return ({ store with checklistItems := items }, item)

def periodBalances (id : PeriodId) : Except PeriodError (List Balance) := do
  let _ ← store.storedPeriod ctx id
  ctx.use .balances
  let rows := store.balances.filter fun row => row.tenant = ctx.tenant && row.period = id
  return (rows.map (·.balance)).mergeSort fun a b => decide (a.account ≤ b.account)

end Store

end Countinghouse
