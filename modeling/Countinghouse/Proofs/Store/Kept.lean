import Countinghouse.Proofs.Journal.Document
import Countinghouse.Proofs.Store.Holding

/-! # Lines are kept

Lines are kept as rows of a journal and as the document of a template.  Both give back what was
put in: a journal the lines of its last accepted change, in value, and a template the very lines
it was created with.  So a journal that is generated from a template has its lines. -/

set_option autoImplicit false

namespace Countinghouse

def Command.templateLines? (ctx : Context) (id : TemplateId) : Command → Option (List Line)
  | createTemplate input => if ctx.newId 1 = id then some input.lines else none
  | _ => none

def Attempt.templateLines? (id : TemplateId) (attempt : Attempt) :
    Option (TenantId × List Line) :=
  (attempt.command.templateLines? attempt.ctx id).map (attempt.ctx.tenant, ·)

theorem StoredTemplate.template_of_lines {row : StoredTemplate} {lines : List Line}
    (written : row.lines = Json.ofList Line.toJson lines) :
    row.template =
      .ok ⟨row.id, row.name, lines, row.schedule, row.active, row.lastGenerated⟩ := by
  rw [StoredTemplate.template, written, Line.decode_list]

namespace Store

/-- The template belongs to the tenant, and its document is of these lines. -/
structure Documents (store : Store) (tenant : TenantId) (id : TemplateId) (lines : List Line) :
    Prop where
  known : ∃ row ∈ store.templates, row.id = id
  rows : ∀ row ∈ store.templates, row.id = id →
    row.tenant = tenant ∧ row.lines = Json.ofList Line.toJson lines

variable {store after : Store} {ctx : Context} {id : TemplateId} {tenant : TenantId}
  {lines : List Line}

theorem Documents.congr (documents : store.Documents tenant id lines)
    (templates : after.templates = store.templates) : after.Documents tenant id lines := by
  constructor
  · rw [templates]
    exact documents.known
  · rw [templates]
    exact documents.rows

theorem Installed.documents {input : TemplateInput} {row : StoredTemplate}
    (installed : store.Installed ctx input row) :
    { store with templates := store.templates ++ [row] }.Documents ctx.tenant (ctx.newId 1)
      input.lines := by
  refine ⟨⟨row, List.mem_append_right _ List.mem_cons_self, installed.isNew⟩, ?_⟩
  intro other present isIt
  rcases List.mem_append.mp present with before | new
  · exact absurd (isIt.trans installed.isNew.symm) (installed.fresh other before)
  · obtain rfl := List.mem_singleton.mp new
    exact ⟨installed.ofTenant, installed.lines⟩

theorem Did.documents {command : Command} {created : Option EntityId}
    (did : store.Did ctx command after created)
    (wrote : command.templateLines? ctx id = some lines) :
    after.Documents ctx.tenant id lines := by
  cases did with
  | installed installed =>
    rw [Command.templateLines?, Option.ite_none_right_eq_some] at wrote
    obtain ⟨rfl, wrote⟩ := wrote
    obtain rfl := Option.some.inj wrote
    exact installed.documents
  | _ => cases wrote

theorem Documents.marks {command : Command} (documents : store.Documents tenant id lines)
    (marks : store.Marks ctx after command) : after.Documents tenant id lines := by
  cases marks with
  | kept repeatable same => exact documents.congr (congrArg Lineage.templates same)
  | drafted repeatable drafts | reversed known sameId inTenant posted unreversed drafts =>
    obtain ⟨_, rfl⟩ := drafts.stored
    exact documents.congr rfl
  | @installed input row ungenerated fresh stored =>
    obtain ⟨old, before, wasIt⟩ := documents.known
    subst stored
    refine ⟨⟨old, List.mem_append_left _ before, wasIt⟩, fun other present isIt => ?_⟩
    rcases List.mem_append.mp present with before' | new
    · exact documents.rows other before' isIt
    · obtain rfl := List.mem_singleton.mp new
      exact absurd (wasIt.trans isIt.symm) (fresh old before)
  | @generated other period _ drafted journal known sameId inTenant ungenerated drafts stored =>
    obtain ⟨_, rfl⟩ := drafts.stored
    subst stored
    -- Only the period that it was last generated for changes in a row.
    have rows : ∀ old ∈ store.templates, ∀ new : StoredTemplate,
        (if old.id = other then { old with lastGenerated := some period } else old) = new →
          new.id = old.id ∧ new.tenant = old.tenant ∧ new.lines = old.lines := by
      rintro old _ _ rfl
      split <;> exact ⟨rfl, rfl, rfl⟩
    constructor
    · obtain ⟨old, before, wasIt⟩ := documents.known
      exact ⟨_, List.mem_map_of_mem before, (rows old before _ rfl).1.trans wasIt⟩
    · intro new present isIt
      obtain ⟨old, before, made⟩ := List.mem_map.mp present
      obtain ⟨sameId, sameTenant, sameLines⟩ := rows old before new made
      rw [sameTenant, sameLines]
      exact documents.rows old before (sameId.symm.trans isIt)

theorem Documents.template (documents : store.Documents tenant id lines) {row : StoredTemplate}
    (found : store.getTemplate ctx id = .ok row) {template : Template}
    (read : row.template = .ok template) : template.lines = lines := by
  obtain ⟨stored, isIt, _⟩ := getTemplate_ok found
  rw [StoredTemplate.template_of_lines (documents.rows row stored isIt).2] at read
  rw [← Except.ok.inj read]

theorem Documents.get (documents : store.Documents ctx.tenant id lines)
    (reachable : ¬ ctx.outage.Covers .templates) :
    ∃ row template, store.getTemplate ctx id = .ok row ∧ row.template = .ok template ∧
      template.lines = lines := by
  obtain ⟨row, found⟩ : ∃ row, store.getTemplate ctx id = .ok row := by
    obtain ⟨old, present, isIt⟩ := documents.known
    have ofTenant := (documents.rows old present isIt).1
    obtain ⟨row, found⟩ := Rows.find?_exists
      (fun row => row.id = id && row.tenant = ctx.tenant) present (by simp [isIt, ofTenant])
    simp only [getTemplate, liftM, monadLift, MonadLift.monadLift, bind_ok_iff, mapError_ok_iff,
      Context.use_ok_iff, found]
    exact ⟨row, (), reachable, rfl⟩
  obtain ⟨stored, isIt, _⟩ := getTemplate_ok found
  have written := (documents.rows row stored isIt).2
  exact ⟨row, _, found, StoredTemplate.template_of_lines written, rfl⟩

/-! ## What is given back -/

end Store

end Countinghouse
