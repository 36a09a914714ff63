import Countinghouse.Proofs.Store.Accepted
import Countinghouse.Proofs.Store.Balances

/-! # Generated once, reversed once

Whether a template was generated for a period, and whether a journal was reversed, is decided by
looking for what an earlier command wrote.  No command takes away or changes what it looks for, so
that each is accepted once, however the journals that came of it are treated since. -/

set_option autoImplicit false

namespace Countinghouse

/-! ## Lineages -/

namespace Lineage

def reversals (lineage : Lineage) : List (JournalId × JournalId) :=
  lineage.origins.filterMap fun origin => origin.reverses.map fun id => (id, origin.id)

/-- No template was generated for a period twice and no journal reversed twice, what is kept of
this belongs to journals of the same tenant, and templates show their last generation. -/
structure OnceOnly (lineage : Lineage) : Prop where
  journals : (lineage.origins.map (·.id)).Nodup
  templates : (lineage.templates.map (·.id)).Nodup
  generated : (lineage.generations.map fun row => (row.template, row.period)).Nodup
  ofTemplate : ∀ row ∈ lineage.generations,
    ∃ template ∈ lineage.templates, template.id = row.template ∧ template.tenant = row.tenant
  asGenerated : ∀ row ∈ lineage.generations,
    (⟨row.journal, row.tenant, none, some row.template⟩ : Origin) ∈ lineage.origins
  reversed : (lineage.reversals.map (·.1)).Nodup
  ofOriginal : ∀ origin ∈ lineage.origins, ∀ id, origin.reverses = some id →
    ∃ original ∈ lineage.origins, original.id = id ∧ original.tenant = origin.tenant
  last : ∀ template ∈ lineage.templates, template.lastGenerated =
    ((lineage.generations.filter (·.template = template.id)).getLast?).map (·.period)

variable {lineage : Lineage}

theorem mem_reversals_iff {link : JournalId × JournalId} :
    link ∈ lineage.reversals ↔
      ∃ origin ∈ lineage.origins, origin.reverses = some link.1 ∧ origin.id = link.2 := by
  simp only [reversals, List.mem_filterMap, Option.map_eq_some_iff, Prod.ext_iff]
  constructor
  · rintro ⟨origin, present, id, reverses, rfl, same⟩
    exact ⟨origin, present, reverses, same⟩
  · rintro ⟨origin, present, reverses, same⟩
    exact ⟨origin, present, _, reverses, rfl, same⟩

/-- What was not generated for its tenant was not generated at all. -/
theorem OnceOnly.ungenerated (once : lineage.OnceOnly) {row : StoredTemplate}
    (known : row ∈ lineage.templates) {period : PeriodId}
    (ungenerated : ∀ other ∈ lineage.generations, other.tenant = row.tenant →
      other.template = row.id → other.period ≠ period) :
    (row.id, period) ∉ lineage.generations.map fun row => (row.template, row.period) := by
  rw [List.mem_map]
  rintro ⟨other, stored, same⟩
  obtain ⟨ofTemplate, ofPeriod⟩ := Prod.mk.inj same
  obtain ⟨template, known', sameId, sameTenant⟩ := once.ofTemplate other stored
  obtain rfl := List.inj_on_of_nodup_map once.templates known' known (sameId.trans ofTemplate)
  exact ungenerated other stored sameTenant.symm ofTemplate ofPeriod

theorem OnceOnly.unreversed (once : lineage.OnceOnly) {original : Origin}
    (known : original ∈ lineage.origins)
    (unreversed : ∀ other ∈ lineage.origins, other.tenant = original.tenant →
      other.reverses ≠ some original.id) :
    original.id ∉ lineage.reversals.map (·.1) := by
  rw [List.mem_map]
  rintro ⟨link, present, sameId⟩
  obtain ⟨origin, stored, reverses, _⟩ := mem_reversals_iff.mp present
  obtain ⟨other, known', sameId', sameTenant⟩ := once.ofOriginal origin stored link.1 reverses
  obtain rfl := List.inj_on_of_nodup_map once.journals known' known (sameId'.trans sameId)
  exact unreversed origin stored sameTenant.symm (by rw [reverses, sameId])

/-! ### What is added -/

def draft (lineage : Lineage) (origin : Origin) : Lineage :=
  { lineage with origins := lineage.origins ++ [origin] }

def install (lineage : Lineage) (row : StoredTemplate) : Lineage :=
  { lineage with templates := lineage.templates ++ [row] }

def generate (lineage : Lineage) (row : Generation) : Lineage :=
  { lineage with
    generations := lineage.generations ++ [row]
    templates := lineage.templates.map fun old =>
      if old.id = row.template then { old with lastGenerated := some row.period } else old }

theorem reversals_draft (lineage : Lineage) (origin : Origin) :
    (lineage.draft origin).reversals =
      lineage.reversals ++ (origin.reverses.map fun id => (id, origin.id)).toList := by
  simp only [reversals, draft, List.filterMap_append, List.append_cancel_left_eq]
  cases reverses : origin.reverses <;> simp [reverses]

theorem OnceOnly.draft (once : lineage.OnceOnly) {origin : Origin}
    (fresh : origin.id ∉ lineage.origins.map (·.id))
    (unreversed : ∀ id, origin.reverses = some id → id ∉ lineage.reversals.map (·.1) ∧
      ∃ original ∈ lineage.origins, original.id = id ∧ original.tenant = origin.tenant) :
    (lineage.draft origin).OnceOnly where
  journals := Rows.nodup_keys_append once.journals fresh
  templates := once.templates
  generated := once.generated
  ofTemplate := once.ofTemplate
  asGenerated row stored := List.mem_append_left _ (once.asGenerated row stored)
  reversed := by
    rw [reversals_draft]
    cases reverses : origin.reverses with
    | none => simpa using once.reversed
    | some id => exact Rows.nodup_keys_append once.reversed (unreversed id reverses).1
  ofOriginal other present id reverses := by
    rcases List.mem_append.mp present with old | new
    · obtain ⟨original, known, same⟩ := once.ofOriginal other old id reverses
      exact ⟨original, List.mem_append_left _ known, same⟩
    · obtain rfl := List.mem_singleton.mp new
      obtain ⟨_, original, known, same⟩ := unreversed id reverses
      exact ⟨original, List.mem_append_left _ known, same⟩
  last := once.last

theorem OnceOnly.install (once : lineage.OnceOnly) {row : StoredTemplate}
    (fresh : row.id ∉ lineage.templates.map (·.id)) (ungenerated : row.lastGenerated = none) :
    (lineage.install row).OnceOnly where
  journals := once.journals
  templates := Rows.nodup_keys_append once.templates fresh
  generated := once.generated
  ofTemplate other stored := by
    obtain ⟨template, known, same⟩ := once.ofTemplate other stored
    exact ⟨template, List.mem_append_left _ known, same⟩
  asGenerated := once.asGenerated
  reversed := once.reversed
  ofOriginal := once.ofOriginal
  last template present := by
    rcases List.mem_append.mp present with old | new
    · exact once.last template old
    · obtain rfl := List.mem_singleton.mp new
      -- Nothing was generated from a template that did not exist.
      have none_of : lineage.generations.filter (·.template = template.id) = [] := by
        rw [List.filter_eq_nil_iff]
        intro other stored ofNew
        obtain ⟨old, known, sameId, _⟩ := once.ofTemplate other stored
        exact fresh (List.mem_map.mpr ⟨old, known, sameId.trans (of_decide_eq_true ofNew)⟩)
      simp only [Lineage.install, none_of, ungenerated, List.getLast?_nil, Option.map_none]

theorem mem_generate_templates {row : Generation} {template : StoredTemplate} :
    template ∈ (lineage.generate row).templates ↔
      (∃ old ∈ lineage.templates, old.id = row.template ∧
        { old with lastGenerated := some row.period } = template) ∨
      template ∈ lineage.templates ∧ template.id ≠ row.template := by
  simp only [generate, List.mem_map]
  constructor
  · rintro ⟨old, known, rfl⟩
    by_cases isIt : old.id = row.template
    · exact Or.inl ⟨old, known, isIt, (if_pos isIt).symm⟩
    · rw [if_neg isIt]
      exact Or.inr ⟨known, isIt⟩
  · rintro (⟨old, known, isIt, rfl⟩ | ⟨known, isNot⟩)
    · exact ⟨old, known, if_pos isIt⟩
    · exact ⟨template, known, if_neg isNot⟩

theorem OnceOnly.generate (once : lineage.OnceOnly) {row : Generation}
    (known : ∃ template ∈ lineage.templates,
      template.id = row.template ∧ template.tenant = row.tenant)
    (drafted : (⟨row.journal, row.tenant, none, some row.template⟩ : Origin) ∈ lineage.origins)
    (ungenerated : (row.template, row.period) ∉
      lineage.generations.map fun row => (row.template, row.period)) :
    (lineage.generate row).OnceOnly where
  journals := once.journals
  templates := by
    have same : (lineage.generate row).templates.map (·.id) = lineage.templates.map (·.id) := by
      simp only [Lineage.generate, List.map_map]
      refine List.map_congr_left fun old _ => ?_
      by_cases isIt : old.id = row.template <;> simp [isIt]
    rw [same]
    exact once.templates
  generated := Rows.nodup_keys_append once.generated ungenerated
  ofTemplate other stored := by
    have known_of : ∃ template ∈ lineage.templates,
        template.id = other.template ∧ template.tenant = other.tenant := by
      rcases List.mem_append.mp stored with old | new
      · exact once.ofTemplate other old
      · obtain rfl := List.mem_singleton.mp new
        exact known
    obtain ⟨template, known', same⟩ := known_of
    by_cases isIt : template.id = row.template
    · exact ⟨_, mem_generate_templates.mpr (Or.inl ⟨template, known', isIt, rfl⟩), same⟩
    · exact ⟨template, mem_generate_templates.mpr (Or.inr ⟨known', isIt⟩), same⟩
  asGenerated other stored := by
    rcases List.mem_append.mp stored with old | new
    · exact once.asGenerated other old
    · obtain rfl := List.mem_singleton.mp new
      exact drafted
  reversed := once.reversed
  ofOriginal := once.ofOriginal
  last template present := by
    rw [Lineage.generate, List.filter_append]
    rcases mem_generate_templates.mp present with ⟨old, _, isIt, rfl⟩ | ⟨known', isNot⟩
    · rw [List.filter_cons_of_pos (by simp [isIt]), List.filter_nil, List.getLast?_concat]
      rfl
    · rw [List.filter_cons_of_neg (by simpa using Ne.symm isNot), List.filter_nil,
        List.append_nil]
      exact once.last template known'

/-! ### Extensions -/

/-- A lineage with one more generation, one more reversal and a journal for either, as far as there
are such. -/
structure Extends (before after : Lineage) (generation? : Option Generation)
    (reversal? : Option (JournalId × JournalId)) (origin? : Option Origin) : Prop where
  once : after.OnceOnly
  generations : after.generations = before.generations ++ generation?.toList
  reversals : after.reversals = before.reversals ++ reversal?.toList
  origin : ∀ origin ∈ origin?,
    origin.id ∉ before.origins.map (·.id) ∧ origin ∈ after.origins

theorem OnceOnly.extends_self (once : lineage.OnceOnly) :
    lineage.Extends lineage none none none :=
  ⟨once, (List.append_nil _).symm, (List.append_nil _).symm, nofun⟩

theorem OnceOnly.extends_draft (once : lineage.OnceOnly) {origin : Origin}
    (fresh : origin.id ∉ lineage.origins.map (·.id)) (plain : origin.reverses = none) :
    lineage.Extends (lineage.draft origin) none none none := by
  refine ⟨once.draft fresh ?_, (List.append_nil _).symm, ?_, nofun⟩
  · intro id reverses
    rw [plain] at reverses
    cases reverses
  · rw [reversals_draft, plain]
    rfl

theorem OnceOnly.extends_install (once : lineage.OnceOnly) {row : StoredTemplate}
    (fresh : row.id ∉ lineage.templates.map (·.id)) (ungenerated : row.lastGenerated = none) :
    lineage.Extends (lineage.install row) none none none :=
  ⟨once.install fresh ungenerated, (List.append_nil _).symm, (List.append_nil _).symm, nofun⟩

theorem OnceOnly.extends_reversal (once : lineage.OnceOnly) {original : Origin}
    (known : original ∈ lineage.origins) {reversal : JournalId}
    (fresh : reversal ∉ lineage.origins.map (·.id))
    (unreversed : ∀ other ∈ lineage.origins, other.tenant = original.tenant →
      other.reverses ≠ some original.id) :
    lineage.Extends (lineage.draft ⟨reversal, original.tenant, some original.id, none⟩) none
      (some (original.id, reversal))
      (some ⟨reversal, original.tenant, some original.id, none⟩) := by
  refine ⟨once.draft fresh ?_, (List.append_nil _).symm, reversals_draft .., ?_⟩
  · rintro _ ⟨⟩
    exact ⟨once.unreversed known unreversed, original, known, rfl, rfl⟩
  · rintro _ ⟨⟩
    exact ⟨fresh, List.mem_append_right _ (List.mem_singleton_self _)⟩

theorem OnceOnly.extends_generation (once : lineage.OnceOnly) {template : StoredTemplate}
    (known : template ∈ lineage.templates) {journal : JournalId} {period : PeriodId}
    (fresh : journal ∉ lineage.origins.map (·.id))
    (ungenerated : ∀ other ∈ lineage.generations, other.tenant = template.tenant →
      other.template = template.id → other.period ≠ period) :
    lineage.Extends
      ((lineage.draft ⟨journal, template.tenant, none, some template.id⟩).generate
        ⟨template.tenant, template.id, period, journal⟩)
      (some ⟨template.tenant, template.id, period, journal⟩) none
      (some ⟨journal, template.tenant, none, some template.id⟩) := by
  have drafted : (lineage.draft ⟨journal, template.tenant, none, some template.id⟩).OnceOnly :=
    once.draft fresh nofun
  have isNew : (⟨journal, template.tenant, none, some template.id⟩ : Origin) ∈
      (lineage.draft ⟨journal, template.tenant, none, some template.id⟩).origins :=
    List.mem_append_right _ (List.mem_singleton_self _)
  refine ⟨drafted.generate ⟨template, known, rfl, rfl⟩ isNew ?_, rfl, ?_, ?_⟩
  · exact once.ungenerated known ungenerated
  · exact reversals_draft ..
  · rintro _ ⟨⟩
    exact ⟨fresh, isNew⟩

end Lineage

/-! ## One command -/

namespace Command

def generation? (ctx : Context) : Command → Option Generation
  | generateJournal template period => some ⟨ctx.tenant, template, period, ctx.newId 1⟩
  | _ => none

def reversal? (ctx : Context) : Command → Option (JournalId × JournalId)
  | reverseJournal id _ => some (id, ctx.newId 1)
  | _ => none

def originated? (ctx : Context) : Command → Option Origin
  | generateJournal template _ => some ⟨ctx.newId 1, ctx.tenant, none, some template⟩
  | reverseJournal id _ => some ⟨ctx.newId 1, ctx.tenant, some id, none⟩
  | _ => none

theorem Repeatable.writes_nothing {command : Command} (repeatable : command.Repeatable)
    (ctx : Context) :
    command.generation? ctx = none ∧ command.reversal? ctx = none ∧
      command.originated? ctx = none := by
  cases command with
  | reverseJournal id date => cases repeatable
  | generateJournal template period => cases repeatable
  | _ => exact ⟨rfl, rfl, rfl⟩

end Command

namespace Store

variable {store after : Store} {ctx : Context} {command : Command}

theorem lineage_ids (store : Store) :
    store.lineage.origins.map (·.id) = store.journals.map (·.id) := by
  simp only [lineage, List.map_map]
  rfl

theorem Drafts.fresh_id {reverses : Option JournalId} {template : Option TemplateId}
    {journal : Journal} (drafts : store.Drafts ctx reverses template after journal) :
    ctx.newId 1 ∉ store.lineage.origins.map (·.id) := by
  have isNew : journal.id = ctx.newId 1 := congrArg Origin.id drafts.origin
  rw [lineage_ids, List.mem_map, ← isNew]
  rintro ⟨other, stored, same⟩
  exact drafts.fresh other stored same

theorem Drafts.lineage {reverses : Option JournalId} {template : Option TemplateId}
    {journal : Journal} (drafts : store.Drafts ctx reverses template after journal) :
    after.lineage = store.lineage.draft ⟨ctx.newId 1, ctx.tenant, reverses, template⟩ := by
  obtain ⟨_, rfl⟩ := drafts.stored
  simp only [Store.lineage, List.map_append, List.map_singleton, drafts.origin]
  rfl

theorem origins_unreversed {original : Journal} (inTenant : original.tenant = ctx.tenant)
    (unreversed : ∀ other ∈ store.journals, other.tenant = ctx.tenant →
      other.reverses ≠ some original.id) :
    ∀ origin ∈ store.lineage.origins, origin.tenant = original.origin.tenant →
      origin.reverses ≠ some original.origin.id := by
  intro origin present sameTenant
  obtain ⟨other, stored, rfl⟩ := List.mem_map.mp present
  exact unreversed other stored (sameTenant.trans inTenant)

/-- An accepted command adds what it is to write, for a journal that did not exist, and repeats
nothing. -/
theorem Marks.extends (once : store.lineage.OnceOnly) (marks : store.Marks ctx after command) :
    store.lineage.Extends after.lineage (command.generation? ctx) (command.reversal? ctx)
      (command.originated? ctx) := by
  cases marks with
  | kept repeatable same =>
    obtain ⟨noGeneration, noReversal, noOrigin⟩ := repeatable.writes_nothing ctx
    rw [noGeneration, noReversal, noOrigin, same]
    exact once.extends_self
  | drafted repeatable drafts =>
    obtain ⟨noGeneration, noReversal, noOrigin⟩ := repeatable.writes_nothing ctx
    rw [noGeneration, noReversal, noOrigin, drafts.lineage]
    exact once.extends_draft drafts.fresh_id rfl
  | @installed input row ungenerated fresh stored =>
    have absent : row.id ∉ store.lineage.templates.map (·.id) := by
      rw [List.mem_map]
      rintro ⟨other, present, same⟩
      exact fresh other present same
    rw [stored]
    exact once.extends_install absent ungenerated
  | @reversed _ date original reversal known sameId inTenant posted unreversed drafts =>
    obtain rfl := sameId
    rw [drafts.lineage]
    have extended := once.extends_reversal (List.mem_map_of_mem known) drafts.fresh_id
      (origins_unreversed inTenant unreversed)
    rw [show original.origin.tenant = ctx.tenant from inTenant] at extended
    exact extended
  | @generated _ period row drafted journal known sameId inTenant ungenerated drafts stored =>
    obtain rfl := sameId
    have isNew : journal.id = ctx.newId 1 := congrArg Origin.id drafts.origin
    have extended := once.extends_generation known drafts.fresh_id (by
      intro other present sameTenant
      exact ungenerated other present (sameTenant.trans inTenant))
    have written : after.lineage = drafted.lineage.generate
        ⟨ctx.tenant, row.id, period, journal.id⟩ := by
      rw [stored]
      rfl
    rw [written, drafts.lineage, isNew]
    rw [inTenant] at extended
    exact extended

/-! ## Runs -/

def accepted (store : Store) : List Attempt → List Attempt
  | [] => []
  | attempt :: rest =>
      match (attempt.command.run attempt.ctx store).result with
      | .ok _ => attempt :: (store.after attempt).accepted rest
      | .error _ => (store.after attempt).accepted rest

def Refuses (store : Store) (attempt : Attempt) : Prop :=
  (∃ failure, (attempt.command.run attempt.ctx store).result = .error failure) ∧
    (store.after attempt).withoutTrail = store.withoutTrail

def generated (store : Store) (attempts : List Attempt) : List Generation :=
  (store.accepted attempts).filterMap fun attempt => attempt.command.generation? attempt.ctx

def reversed (store : Store) (attempts : List Attempt) : List (JournalId × JournalId) :=
  (store.accepted attempts).filterMap fun attempt => attempt.command.reversal? attempt.ctx

theorem attempt_cases (once : store.lineage.OnceOnly) (attempt : Attempt) :
    (∃ done, (attempt.command.run attempt.ctx store).result = .ok done ∧
        store.Marks attempt.ctx done.store attempt.command ∧
        (store.after attempt).lineage = done.store.lineage) ∨
      store.Refuses attempt := by
  have distinct := once.journals
  rw [lineage_ids] at distinct
  rcases store.after_cases attempt with
    ⟨done, records, succeeded, reached⟩ | ⟨failure, records, failed, reached⟩
  · refine Or.inl ⟨done, succeeded, (command_accepted succeeded).marks distinct, ?_⟩
    rw [reached]
    rfl
  · refine Or.inr ⟨⟨failure, failed⟩, ?_⟩
    rw [reached]
    rfl

theorem Refuses.lineage {attempt : Attempt} (refuses : store.Refuses attempt) :
    (store.after attempt).lineage = store.lineage := by
  have same : (store.after attempt).withoutTrail.lineage = store.withoutTrail.lineage := by
    rw [refuses.2]
  exact same

theorem accepted_of_ok {attempt : Attempt} {done : Done} (rest : List Attempt)
    (succeeded : (attempt.command.run attempt.ctx store).result = .ok done) :
    store.accepted (attempt :: rest) = attempt :: (store.after attempt).accepted rest := by
  simp only [accepted, succeeded]

theorem Refuses.accepted {attempt : Attempt} (refuses : store.Refuses attempt)
    (rest : List Attempt) :
    store.accepted (attempt :: rest) = (store.after attempt).accepted rest := by
  obtain ⟨⟨failure, failed⟩, _⟩ := refuses
  simp only [Store.accepted, failed]

/-- Along a run the accepted attempts are written one after the other, and nothing else is. -/
theorem run_extends (once : store.lineage.OnceOnly) (attempts : List Attempt) :
    (store.run attempts).lineage.OnceOnly ∧
      (store.run attempts).lineage.generations =
        store.lineage.generations ++ store.generated attempts ∧
      (store.run attempts).lineage.reversals =
        store.lineage.reversals ++ store.reversed attempts := by
  induction attempts generalizing store with
  | nil => exact ⟨once, (List.append_nil _).symm, (List.append_nil _).symm⟩
  | cons attempt rest ih =>
    rcases attempt_cases once attempt with ⟨done, succeeded, marks, same⟩ | refuses
    · have extended := marks.extends once
      rw [← same] at extended
      obtain ⟨once', generations, reversals⟩ := ih extended.once
      refine ⟨once', ?_, ?_⟩
      · rw [run, generations, extended.generations, generated, generated,
          accepted_of_ok rest succeeded, List.append_assoc]
        cases wrote : attempt.command.generation? attempt.ctx <;> simp [wrote]
      · rw [run, reversals, extended.reversals, reversed, reversed,
          accepted_of_ok rest succeeded, List.append_assoc]
        cases wrote : attempt.command.reversal? attempt.ctx <;> simp [wrote]
    · have same := refuses.lineage
      rw [← same] at once ⊢
      rw [run, generated, reversed, refuses.accepted rest]
      exact ih once

/-! ## Refusals -/

theorem generate_refused (once : store.lineage.OnceOnly) {row : Generation}
    (generated : row ∈ store.generations) (ctx : Context) :
    store.Refuses ⟨ctx, .generateJournal row.template row.period⟩ := by
  refine (attempt_cases once _).resolve_left ?_
  rintro ⟨done, _, marks, _⟩
  cases marks with
  | kept repeatable => exact repeatable
  | drafted repeatable => exact repeatable
  | @generated _ _ template _ _ known sameId inTenant ungenerated =>
    have absent := once.ungenerated known (by
      intro other stored sameTenant ofTemplate
      exact ungenerated other stored (sameTenant.trans inTenant) (ofTemplate.trans sameId))
    rw [sameId] at absent
    exact absent (List.mem_map_of_mem generated)

theorem reverse_refused (once : store.lineage.OnceOnly) {id : JournalId}
    (irreversible : id ∈ store.lineage.reversals.map (·.1) ∨
      ∀ journal ∈ store.journals, journal.id = id → journal.state.status ≠ .posted)
    (ctx : Context) (date : Option Date) : store.Refuses ⟨ctx, .reverseJournal id date⟩ := by
  refine (attempt_cases once _).resolve_left ?_
  rintro ⟨done, _, marks, _⟩
  cases marks with
  | kept repeatable => exact repeatable
  | drafted repeatable => exact repeatable
  | @reversed _ _ original _ known sameId inTenant posted unreversed =>
    rcases irreversible with reversed | unposted
    · obtain rfl := sameId
      exact once.unreversed (List.mem_map_of_mem known) (origins_unreversed inTenant unreversed)
        reversed
    · exact unposted original known sameId posted

/-! ## Once each -/

/-- Nothing was generated or reversed, and journals and templates are told apart. -/
structure Unmarked (store : Store) : Prop where
  journals : (store.journals.map (·.id)).Nodup
  templates : (store.templates.map (·.id)).Nodup
  ungenerated : store.generations = []
  unshown : ∀ row ∈ store.templates, row.lastGenerated = none
  unreversed : ∀ journal ∈ store.journals, journal.reverses = none

/-- What holds of a store that was reached by a run, of which the last two lists are the
generations and the reversals that were accepted. -/
structure OnceEach (reached : Store) (generated : List Generation)
    (reversed : List (JournalId × JournalId)) : Prop where
  generations : reached.generations = generated
  generatedOnce : (generated.map fun row => (row.template, row.period)).Nodup
  generateRefused : ∀ row ∈ generated, ∀ ctx,
    reached.Refuses ⟨ctx, .generateJournal row.template row.period⟩
  generatedKept : ∀ row ∈ generated, ∃ journal ∈ reached.journals,
    journal.origin = ⟨row.journal, row.tenant, none, some row.template⟩
  lastGenerated : ∀ template ∈ reached.templates, template.lastGenerated =
    ((generated.filter (·.template = template.id)).getLast?).map (·.period)
  links : (reached.journals.filterMap fun journal =>
    journal.reverses.map fun id => (id, journal.id)) = reversed
  reversedOnce : (reversed.map (·.1)).Nodup
  reverseRefused : ∀ id, (id ∈ reversed.map (·.1) ∨
      ∀ journal ∈ reached.journals, journal.id = id → journal.state.status ≠ .posted) →
    ∀ ctx date, reached.Refuses ⟨ctx, .reverseJournal id date⟩
  /-- What is accepted next is for a journal that does not exist yet. -/
  originated : ∀ attempt : Attempt,
    (∃ done, (attempt.command.run attempt.ctx reached).result = .ok done) →
    ∀ origin, attempt.command.originated? attempt.ctx = some origin →
      (∀ journal ∈ reached.journals, journal.id ≠ origin.id) ∧
        ∃ journal ∈ (reached.after attempt).journals, journal.origin = origin

theorem Unmarked.no_links (unmarked : store.Unmarked) : store.lineage.reversals = [] := by
  rw [Lineage.reversals, List.filterMap_eq_nil_iff]
  intro origin present
  obtain ⟨journal, stored, rfl⟩ := List.mem_map.mp present
  rw [Option.map_eq_none_iff]
  exact unmarked.unreversed journal stored

theorem Unmarked.onceOnly (unmarked : store.Unmarked) : store.lineage.OnceOnly := by
  have noGenerations : store.lineage.generations = [] := unmarked.ungenerated
  constructor
  · rw [lineage_ids]
    exact unmarked.journals
  · exact unmarked.templates
  · rw [noGenerations]
    exact List.nodup_nil
  · rw [noGenerations]
    exact nofun
  · rw [noGenerations]
    exact nofun
  · rw [unmarked.no_links]
    exact List.nodup_nil
  · intro origin present id reverses
    obtain ⟨journal, stored, rfl⟩ := List.mem_map.mp present
    have none : journal.origin.reverses = .none := unmarked.unreversed journal stored
    rw [none] at reverses
    cases reverses
  · intro row stored
    rw [noGenerations, unmarked.unshown row stored]
    rfl

theorem OnceEach.of_lineage (once : store.lineage.OnceOnly) :
    OnceEach store store.lineage.generations store.lineage.reversals where
  generations := rfl
  generatedOnce := once.generated
  generateRefused _ generated ctx := generate_refused once generated ctx
  generatedKept row generated := List.mem_map.mp (once.asGenerated row generated)
  lastGenerated := once.last
  links := by
    rw [Lineage.reversals, Store.lineage, List.filterMap_map]
    rfl
  reversedOnce := once.reversed
  reverseRefused _ irreversible := reverse_refused once irreversible
  originated attempt succeeds origin originates := by
    rcases attempt_cases once attempt with ⟨done, _, marks, same⟩ | ⟨⟨_, failed⟩, _⟩
    · have extended := marks.extends once
      rw [← same, originates] at extended
      obtain ⟨fresh, stored⟩ := extended.origin origin rfl
      refine ⟨?_, List.mem_map.mp stored⟩
      intro journal present sameId
      rw [lineage_ids] at fresh
      exact fresh (List.mem_map.mpr ⟨journal, present, sameId⟩)
    · obtain ⟨done, succeeded⟩ := succeeds
      rw [succeeded] at failed
      cases failed

/-- From a store in which nothing was generated or reversed, every run accepts one generation for
each template and period and one reversal of each journal, which is posted then.  Each is kept with
the journal that was drafted for it, whatever becomes of that, and from then on it is refused. -/
theorem run_once (store : Store) (unmarked : store.Unmarked) (attempts : List Attempt) :
    OnceEach (store.run attempts) (store.generated attempts) (store.reversed attempts) := by
  have start := unmarked.onceOnly
  obtain ⟨once, generations, reversals⟩ := run_extends start attempts
  have noGenerations : store.lineage.generations = [] := unmarked.ungenerated
  rw [noGenerations, List.nil_append] at generations
  rw [unmarked.no_links, List.nil_append] at reversals
  rw [← generations, ← reversals]
  exact .of_lineage once

def rentBooks : Store :=
  { newBooks with
    rolePermissions := newBooks.rolePermissions ++
      [⟨Id.ofNat 1, Id.ofNat 1, Permission.code .recurringGenerate⟩]
    templates := [⟨Id.ofNat 50, Id.ofNat 1, "rent", .monthly,
      .arr [.arr [.str "00000000-0000-0000-0000-000000000001", .int 60],
        .arr [.str "00000000-0000-0000-0000-000000000002", .int 0, .int 60]],
      true, none, ⟨1728000000⟩⟩] }

def askRentBooks (user base : Nat) (command : Command) : Attempt :=
  ⟨⟨Id.ofNat 1, Id.ofNat user, ⟨1728000000⟩, base, .default, .none⟩, command⟩

/-- The rent is asked for by a user who has no role, and then twice by one who may. -/
def rentAttempts : List Attempt :=
  let rent : Command := .generateJournal (Id.ofNat 50) (Id.ofNat 1)
  [askRentBooks 3 100 rent, askRentBooks 1 200 rent, askRentBooks 1 300 rent]

def correctionAttempts : List Attempt :=
  newBooksAttempts ++ [askRentBooks 1 100 (.reverseJournal (Id.ofNat 2) none)]

theorem rentBooks_once :
    OnceEach (rentBooks.run rentAttempts)
        [⟨Id.ofNat 1, Id.ofNat 50, Id.ofNat 1, Id.ofNat 201⟩] [] ∧
      OnceEach (rentBooks.run correctionAttempts) [] [(Id.ofNat 2, Id.ofNat 101)] := by
  have unmarked : rentBooks.Unmarked := by constructor <;> decide
  constructor
  · have generated : rentBooks.generated rentAttempts =
        [⟨Id.ofNat 1, Id.ofNat 50, Id.ofNat 1, Id.ofNat 201⟩] := by decide +kernel
    have reversed : rentBooks.reversed rentAttempts = [] := by decide +kernel
    rw [← generated, ← reversed]
    exact run_once rentBooks unmarked rentAttempts
  · have generated : rentBooks.generated correctionAttempts = [] := by cbv
    have reversed : rentBooks.reversed correctionAttempts = [(Id.ofNat 2, Id.ofNat 101)] := by cbv
    rw [← generated, ← reversed]
    exact run_once rentBooks unmarked correctionAttempts

end Store

end Countinghouse
