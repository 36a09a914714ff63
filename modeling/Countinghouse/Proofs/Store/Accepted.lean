import Countinghouse.Proofs.Store.Operations

/-! # Accepted commands

A command that is accepted was permitted to its actor in the store that it met.  It leaves the
trail to the service, and what it may write on where journals come from is listed in
`Store.Marks`. -/

set_option autoImplicit false

namespace Countinghouse

/-- What is fixed of a journal when it is drafted. -/
structure Origin where
  id : JournalId
  tenant : TenantId
  reverses : Option JournalId
  template : Option TemplateId
  deriving DecidableEq

def Journal.origin (journal : Journal) : Origin :=
  ⟨journal.id, journal.tenant, journal.reverses, journal.template⟩

/-- Where journals come from, and what was generated from templates. -/
structure Lineage where
  origins : List Origin
  generations : List Generation
  templates : List StoredTemplate

def Store.lineage (store : Store) : Lineage :=
  ⟨store.journals.map Journal.origin, store.generations, store.templates⟩

def Store.withoutTrail (store : Store) : Store := { store with auditRecords := [] }

def Command.Repeatable : Command → Prop
  | reverseJournal _ _ | generateJournal _ _ => False
  | _ => True

namespace Store

variable {before after : Store} {ctx : Context}

/-- A journal was drafted, with what it reverses and the template it is made from. -/
structure Drafts (before : Store) (ctx : Context) (reverses : Option JournalId)
    (template : Option TemplateId) (after : Store) (journal : Journal) : Prop where
  stored : ∃ rows, after = { before with
    journals := before.journals ++ [journal], journalLines := before.journalLines ++ rows }
  fresh : ∀ other ∈ before.journals, other.id ≠ journal.id
  origin : journal.origin = ⟨ctx.newId 1, ctx.tenant, reverses, template⟩

theorem Drafted.drafts {draft : NewJournal} {view : JournalView}
    (drafted : before.Drafted ctx draft view) :
    before.Drafts ctx draft.reverses draft.template (before.withDraft view) view.journal := by
  obtain ⟨totals, _, isDraft⟩ := drafted.journal
  exact ⟨⟨view.lines, rfl⟩, drafted.isNew ▸ drafted.fresh, congrArg Journal.origin isDraft⟩

/-- A journal was stored in the place of one with its origin; lines and balances may have changed
with it. -/
def Rewrites (before after : Store) : Prop :=
  ∃ old ∈ before.journals, ∃ new : Journal, new.origin = old.origin ∧
    ∃ journalLines balances, after = { before with
      journals := Rows.replace (·.id) new before.journals, journalLines, balances }

theorem after_origin (journal : Journal) (action : JournalAction) (now : Instant) :
    (journal.after action now).origin = journal.origin := by
  cases action <;> rfl

theorem Acted.rewrites {id : JournalId} {request : JournalRequest} {old : Journal}
    {action : JournalAction} (acted : before.Acted ctx id request old action) :
    before.Rewrites (before.withJournal (old.after action ctx.now)) :=
  ⟨old, acted.stored, _, after_origin .., _, _, rfl⟩

theorem Edited.rewrites {id : JournalId} {input : JournalInput} {old : Journal}
    {period : PeriodId} {totals : Totals} {rows : List StoredLine}
    (edited : before.Edited ctx id input old period totals rows) :
    before.Rewrites (before.withEdited (old.edited input period totals ctx.now) rows) :=
  ⟨old, edited.stored, old.edited input period totals ctx.now, rfl, _, _, rfl⟩

theorem Posted.rewrites {id : JournalId} {old : Journal} {rows : List StoredLine}
    {deltas : List Delta} (posted : before.Posted ctx id old rows deltas after) :
    before.Rewrites after := by
  obtain ⟨request, acted⟩ := posted.acted
  obtain ⟨balances, rfl, _⟩ := posted.frame
  exact ⟨old, acted.stored, _, after_origin .., _, balances, rfl⟩

/-- What an accepted command writes on the lineage of journals. -/
inductive Marks (before : Store) (ctx : Context) (after : Store) : Command → Prop where
  | kept {command : Command} (repeatable : command.Repeatable)
      (same : after.lineage = before.lineage) : Marks before ctx after command
  | drafted {command : Command} (repeatable : command.Repeatable) {journal : Journal}
      (drafts : before.Drafts ctx none none after journal) : Marks before ctx after command
  | installed {input : TemplateInput} {row : StoredTemplate}
      (ungenerated : row.lastGenerated = none)
      (fresh : ∀ other ∈ before.templates, other.id ≠ row.id)
      (stored : after = { before with templates := before.templates ++ [row] }) :
      Marks before ctx after (.createTemplate input)
  | reversed {id : JournalId} {date : Option Date} {original reversal : Journal}
      (known : original ∈ before.journals) (sameId : original.id = id)
      (inTenant : original.tenant = ctx.tenant) (posted : original.state.status = .posted)
      (unreversed : ∀ other ∈ before.journals, other.tenant = ctx.tenant →
        other.reverses ≠ some id)
      (drafts : before.Drafts ctx (some id) none after reversal) :
      Marks before ctx after (.reverseJournal id date)
  | generated {id : TemplateId} {period : PeriodId} {row : StoredTemplate} {drafted : Store}
      {journal : Journal} (known : row ∈ before.templates) (sameId : row.id = id)
      (inTenant : row.tenant = ctx.tenant)
      (ungenerated : ∀ other ∈ before.generations, other.tenant = ctx.tenant →
        other.template = id → other.period ≠ period)
      (drafts : before.Drafts ctx none (some id) drafted journal)
      (stored : after = { drafted with
        generations := drafted.generations ++ [⟨ctx.tenant, id, period, journal.id⟩]
        templates := drafted.templates.map fun old =>
          if old.id = id then { old with lastGenerated := some period } else old }) :
      Marks before ctx after (.generateJournal id period)

/-- What is known of a command that was accepted. -/
structure Accepted (before : Store) (ctx : Context) (command : Command) (after : Store) :
    Prop where
  permitted : before.Charted → command.Permitted before ctx.tenant ctx.user
  trail : after.auditRecords = before.auditRecords
  marks : (before.journals.map (·.id)).Nodup → before.Marks ctx after command

theorem Rewrites.marks {command : Command} (rewrites : before.Rewrites after)
    (repeatable : command.Repeatable) (distinct : (before.journals.map (·.id)).Nodup) :
    before.Marks ctx after command := by
  obtain ⟨old, stored, new, same, _, _, rfl⟩ := rewrites
  have sameId : new.id = old.id := congrArg Origin.id same
  refine .kept repeatable ?_
  simp only [lineage, Rows.map_replace distinct stored sameId same]

theorem Did.trail {command : Command} {created : Option EntityId}
    (did : before.Did ctx command after created) : after.auditRecords = before.auditRecords := by
  cases did with
  | posted posted =>
    obtain ⟨balances, rfl, _⟩ := posted.frame
    rfl
  | _ => rfl

theorem Did.marks {command : Command} {created : Option EntityId}
    (did : before.Did ctx command after created) (distinct : (before.journals.map (·.id)).Nodup) :
    before.Marks ctx after command := by
  cases did with
  | created drafted | adjusted drafted => exact .drafted trivial drafted.drafts
  | edited edited => exact edited.rewrites.marks trivial distinct
  | submitted acted | approved acted | rejected acted => exact acted.rewrites.marks trivial distinct
  | posted posted => exact posted.rewrites.marks trivial distinct
  | reversed reversible drafted =>
    obtain ⟨original, known, sameId, ofTenant, posted⟩ := reversible.posted
    exact .reversed known sameId ofTenant posted reversible.unreversed drafted.drafts
  | installed installed => exact .installed installed.ungenerated installed.fresh rfl
  | generated generable drafted =>
    obtain ⟨known, sameId, ofTenant⟩ := getTemplate_ok generable.found
    exact .generated known sameId ofTenant generable.ungenerated drafted.drafts rfl
  | _ => exact .kept trivial rfl

theorem command_accepted {command : Command} {done : Done}
    (succeeded : (command.run ctx before).result = .ok done) :
    before.Accepted ctx command done.store := by
  obtain ⟨permitted, did⟩ := command_did succeeded
  exact ⟨permitted, did.trail, did.marks⟩

end Store

end Countinghouse
