import Questionnaire.Proofs.StandardCells

/-!
# A request without errors is exact

If a compilation returns no error, every value that an answer means is in the request, and
every cell of the request is meant by an answer or asked for by a probe, but for the values
that the engine needs, each where its condition holds. One value alone may have given way to
a later one.
-/

namespace Questionnaire

namespace Action

def isWrite : Action → Bool
  | .write _ _ _ => true
  | _ => false

end Action

namespace Builder

/-- A plan that is neither stopped nor reports anything does nothing but write. -/
theorem isWrite_of_clean {b : Builder} (quiet : b.throws = false) {plan : List Action}
    (on : (perform plan b).halt = none) (clean : (perform plan b).builder.errors = [])
    {a : Action} (h : a ∈ plan) : a.isWrite = true := by
  rw [perform_errors quiet on] at clean
  have reported := (List.append_eq_nil_iff.mp clean).2
  rw [(perform_eq_store quiet plan).2] at on
  cases a with
  | report error =>
    rw [List.filterMap_eq_nil_iff] at reported
    cases reported _ h
  | fail failure => exact absurd h (fail_not_mem on failure)
  | write kind answerKey cell => rfl

end Builder

namespace Setting

/-- If settling does nothing but write, there is an expansion, and all of that is written. -/
theorem settle_of_writes {kind : EntityKind} {key : String}
    {expanded : Option (Except Failure Expansion)}
    (writes : ∀ a ∈ settle (.kind kind) key expanded, a.isWrite = true) :
    ∃ expansion, expanded = some (.ok expansion) ∧
      settle (.kind kind) key expanded =
        (Builder.cells expansion).map (Action.write kind key) := by
  cases expanded with
  | none => cases writes _ List.mem_cons_self
  | some result =>
    cases result with
    | error failure => cases failure <;> cases writes _ List.mem_cons_self
    | ok expansion =>
      refine ⟨expansion, rfl, ?_⟩
      apply List.map_congr_left
      intro cell inside
      have write := writes _ (List.mem_map.mpr ⟨cell, inside, rfl⟩)
      unfold Action.ofCell at write ⊢
      split at write
      · cases write
      · rename_i h
        rw [if_neg h]

/-- If taking an answer does nothing but write, its value means an expansion, and all of
that is written. -/
theorem answerPlan_of_writes {s : Setting} {key : String} {answer : Value}
    (given : answer.isUnanswered = false) {mapping : Mapping}
    (found : s.resolver.mapping? key = some mapping) (used : mapping.isExcluded = false)
    {kind : EntityKind} (owned : s.resolver.owner? key = some (.kind kind))
    (writes : ∀ a ∈ s.answerPlan key answer, a.isWrite = true) :
    ∃ expansion, Builder.expand s.periods key answer.unwrap mapping = some (.ok expansion) ∧
      s.answerPlan key answer = (Builder.cells expansion).map (Action.write kind key) := by
  have scalar : answer.unwrap.isScalar = true := by
    cases h : answer.unwrap.isScalar with
    | true => rfl
    | false =>
      simp only [answerPlan, given, h, found, Option.any_some, used, Bool.false_eq_true,
        if_false, List.mem_singleton, forall_eq] at writes
      cases writes
  have plan : s.answerPlan key answer =
      settle (.kind kind) key (Builder.expand s.periods key answer.unwrap mapping) := by
    simp only [answerPlan, given, scalar, Bool.false_eq_true, if_false, if_true, scalarPlan,
      found, owned]
    cases mapping with
    | excluded => cases used
    | _ => rfl
  rw [plan] at writes ⊢
  exact settle_of_writes writes

variable {s : Setting} {answers : Answers} {probes : List String} {key : String}
  {kind : EntityKind} {expansion : Expansion} {cell : Builder.Cell}

theorem mem_plan_of_answer {answer : Value}
    (inside : (key, answer) ∈ answers ++ Scholarship.added answers) {a : Action}
    (planned : a ∈ s.answerPlan key answer) : a ∈ s.plan answers probes :=
  List.mem_append_left _ (List.mem_flatMap.mpr ⟨_, inside, planned⟩)

theorem mem_plan_of_probe (probed : key ∈ probes) {a : Action}
    (planned : a ∈ s.probePlan key) : a ∈ s.plan answers probes :=
  List.mem_append_right _ (List.mem_flatMap.mpr ⟨_, probed, planned⟩)

/-- Where nothing else is done than writing, what an answer means is written. -/
theorem write_of_answer {answer : Value}
    (writes : ∀ a ∈ s.answerPlan key answer, a.isWrite = true)
    (given : answer.isUnanswered = false) (means : s.Means key answer.unwrap kind expansion)
    (meant : cell ∈ Builder.cells expansion) :
    Action.write kind key cell ∈ s.answerPlan key answer := by
  obtain ⟨mapping, found, owned, expanded⟩ := means
  have used : mapping.isExcluded = false := by
    cases mapping with
    | excluded => cases expanded
    | _ => rfl
  obtain ⟨_, expanded', plan⟩ := answerPlan_of_writes given found used owned writes
  cases Option.some.inj (expanded.symm.trans expanded')
  exact plan ▸ List.mem_map_of_mem meant

/-- So is what a probe asks for. -/
theorem write_of_probe (writes : ∀ a ∈ s.probePlan key, a.isWrite = true)
    (direct : ∃ name type, s.resolver.mapping? key = some (.direct name type))
    (means : s.Means key .null kind expansion) (meant : cell ∈ Builder.cells expansion) :
    Action.write kind key cell ∈ s.probePlan key := by
  obtain ⟨mapping, found, owned, expanded⟩ := means
  obtain ⟨name, type, found'⟩ := direct
  cases Option.some.inj (found.symm.trans found')
  have plan : s.probePlan key = settle (.kind kind) key (some (.ok expansion)) := by
    simp only [probePlan, found', owned, expanded]
  rw [plan] at writes ⊢
  obtain ⟨_, same, written⟩ := settle_of_writes writes
  cases same
  exact written ▸ List.mem_map_of_mem meant

/-- The cell is one of those that the value means. Its name may be another key that equals
the one meant. -/
def Yields (s : Setting) (key : String) (value : Value) (kind : EntityKind)
    (cell : Builder.Cell) : Prop :=
  ∃ expansion, s.Means key value kind expansion ∧ ∃ written ∈ Builder.cells expansion,
    written.value = cell.value ∧ written.period = cell.period ∧
      (cell.name = written.name ∨ (cell.name == written.name) = true)

/-- No answer means a value of the variable, and no probe asks for it. -/
structure Ungiven (s : Setting) (answers : Answers) (probes : List String)
    (kind : EntityKind) (name : String) : Prop where
  unanswered : ∀ key answer, (key, answer) ∈ answers ++ Scholarship.added answers →
    answer.isUnanswered = false →
    ∀ cell, s.Yields key answer.unwrap kind cell → cell.name ≠ .text name
  unprobed :
      ∀ key ∈ probes, (∃ name type, s.resolver.mapping? key = some (.direct name type)) →
    ∀ cell, s.Yields key .null kind cell → cell.name ≠ .text name

/-- The cells that the engine needs: a nationality and a moving date if nothing else is
given for them, and the level of study of someone who moves, as the request says. -/
inductive Needs (s : Setting) (answers : Answers) (probes : List String) (request : Value) :
    EntityKind → Builder.Cell → Prop where
  | nationality (ungiven : s.Ungiven answers probes .individual "nationalite") :
      Needs s answers probes request .individual
        ⟨.text "nationalite", s.periods.month, .text "FR"⟩
  | movingDate (ungiven : s.Ungiven answers probes .household "date_entree_logement") :
      Needs s answers probes request .household
        ⟨.text "date_entree_logement", s.periods.month, .text s.periods.nextMonth⟩
  | school (moves :
        Request.cell? request .individual (.text "sortie_academie") s.periods.month =
          some (.bool true)) :
      Needs s answers probes request .individual
        ⟨.text "annee_etude", s.periods.month, .text "terminale"⟩
  | university (moves :
        Request.cell? request .individual (.text "sortie_region_academique")
          s.periods.month = some (.bool true)) :
      Needs s answers probes request .individual
        ⟨.text "annee_etude", s.periods.month, .text "master_1"⟩

/-- They are named by texts and hold values. -/
theorem Needs.text {request : Value} (needs : s.Needs answers probes request kind cell) :
    (∃ name, cell.name = .text name) ∧ cell.value.isNull = false := by
  cases needs <;> exact ⟨⟨_, rfl⟩, rfl⟩

end Setting

theorem isNull_eq_false_of_isScalar {v : Value} (h : v.isScalar = true) :
    v.isNull = false := by
  cases v with
  | null => cases h
  | _ => rfl

/-- Of the values that a scalar means, only those of a dispatcher can be `null`. -/
theorem Setting.dispatch_of_yields {s : Setting} {key : String} {value : Value}
    {kind : EntityKind} {cell : Builder.Cell} (scalar : value.isScalar = true)
    (yields : s.Yields key value kind cell) (null : cell.value.isNull = true) :
    ∃ dispatcher type, s.resolver.mapping? key = some (.dispatch dispatcher type) := by
  obtain ⟨expansion, ⟨mapping, found, _, expanded⟩, written, meant, same, _⟩ := yields
  cases mapping with
  | direct name type =>
    obtain ⟨period, _, cells⟩ := Builder.expand_direct expanded
    rw [cells, List.mem_singleton] at meant
    rw [← same, meant, isNull_eq_false_of_isScalar scalar] at null
    cases null
  | dispatch dispatcher type => exact ⟨dispatcher, type, found⟩
  | excluded => cases expanded
  | other => cases expanded

theorem Entity.Call.valueFor_write {name written value held : Value}
    {period at' answerKey : String}
    (h : (Call.write written value at' answerKey).valueFor name period = some held) :
    (written == name) = true ∧ at' = period ∧ value = held := by
  simp only [valueFor, Option.ite_none_right_eq_some, Option.some.injEq] at h
  exact ⟨h.1.1, h.1.2, h.2⟩

namespace Builder

/-- What is read in a cell that holds a value. -/
theorem cell?_of_value {e : Entity} {name : Value} {period : String}
    (there : (e.value name period).isNull = false) :
    e.cell? name period = some (e.value name period) := by
  rw [Entity.value_eq_cell?] at there ⊢
  cases h : e.cell? name period with
  | none =>
    rw [h] at there
    cases there
  | some v => rfl

/-- How a builder without errors came about: the plan does nothing but write, and each
entity is the run of the writes to its kind, then of the writes that the filled builder
needs. -/
structure Built (s : Setting) (plan : List Action) (filled b : Builder) : Prop where
  wellFormed : b.WellFormed
  writes : ∀ a ∈ plan, a.isWrite = true
  errors : ∀ kind, (b.entities.get kind).errors = []
  periods : filled.periods = s.periods
  first : ∀ kind, filled.entities.get kind =
    (Entity.ofKind kind).run (plan.filterMap (Action.callTo kind))
  entities : ∀ kind, b.entities.get kind =
    (filled.entities.get kind).run (filled.defaultCalls kind)

theorem Built.entity {s : Setting} {plan : List Action} {filled b : Builder}
    (h : Built s plan filled b) (kind : EntityKind) : b.entities.get kind =
      (Entity.ofKind kind).run (plan.filterMap (Action.callTo kind) ++
        filled.defaultCalls kind) := by
  rw [h.entities, h.first, Entity.run_append]

theorem built_of_strictConstruction {options : Options}
    (off : options.throwOnError.truthy = false) {resolver : Resolver} {periods : Periods}
    {answers : Answers} {probes : List String}
    (on : (strictConstruction options resolver periods answers probes).halt = none)
    (clean : (strictConstruction options resolver periods answers
      probes).builder.allErrors = []) :
    Built ⟨options, resolver, periods⟩
      ((⟨options, resolver, periods⟩ : Setting).plan answers probes)
      ((fresh options resolver periods).filled answers probes).builder
      (strictConstruction options resolver periods answers probes).builder := by
  have quiet : (fresh options resolver periods).throws = false := off
  cases filledOn : ((fresh options resolver periods).filled answers probes).halt with
  | some failure =>
    rw [strictConstruction_halt filledOn] at on
    cases on
  | none =>
    have calm := calm_filled off filledOn
    have made := strictConstruction_made off filledOn
    obtain ⟨own, entities⟩ := allErrors_eq_nil clean
    refine ⟨(made.calm calm).wellFormed, ?_, entities, ?_, filled_get off filledOn,
      made.entities⟩
    · intro a inside
      rw [made.errors] at own
      rw [filled_eq_perform] at own filledOn
      exact isWrite_of_clean quiet filledOn own inside
    · exact congrArg Setting.periods (filled_setting options resolver periods
        answers probes)

section Clean

variable {s : Setting} {answers : Answers} {probes : List String} {filled b : Builder}

/-- A variable that the filled builder lacks is not given. -/
theorem Built.ungiven (h : Built s (s.plan answers probes) filled b) {kind : EntityKind}
    {name : String} (free : (EntityLayout.ofKind kind).hasMembers (.text name) = false)
    (missing : lacks kind name filled = true) : s.Ungiven answers probes kind name := by
  have unwritten (key : String) (cell : Cell)
      (planned : Action.write kind key cell ∈ s.plan answers probes) :
          cell.name ≠ .text name := by
    intro named
    have called : Entity.Call.write cell.name cell.value cell.period key ∈
        (s.plan answers probes).filterMap (Action.callTo kind) :=
      List.mem_filterMap.mpr ⟨_, planned, by simp [Action.callTo]⟩
    have there : (filled.entities.get kind).hasVariable (.text name) = true := by
      rw [h.first, Entity.run_hasVariable (Entity.total_ofKind _)
        (Entity.membersOfLayout_ofKind _) _ rfl free,
        Bool.or_eq_true_iff]
      exact .inr (List.any_eq_true.mpr ⟨_, called, (Value.same_text _ _).mpr named⟩)
    rw [lacks, there] at missing
    cases missing
  have meant {written cell : Cell} (named : cell.name = .text name)
      (same : cell.name = written.name ∨ (cell.name == written.name) = true) :
          written.name = .text name := by
    rw [named] at same
    rcases same with same | same
    · exact same.symm
    · exact (Value.text_same _ _).mp same
  constructor
  · rintro key answer inside given cell ⟨expansion, means, written, there, _, _, same⟩ named
    have part : ∀ a ∈ s.answerPlan key answer, a ∈ s.plan answers probes :=
      fun _ => Setting.mem_plan_of_answer inside
    have planned := Setting.write_of_answer (fun a planned => h.writes a (part a planned))
      given means there
    exact unwritten key written (part _ planned) (meant named same)
  · rintro key probed direct cell ⟨expansion, means, written, there, _, _, same⟩ named
    have part : ∀ a ∈ s.probePlan key, a ∈ s.plan answers probes :=
      fun _ => Setting.mem_plan_of_probe probed
    have planned :=
      Setting.write_of_probe (fun a planned => h.writes a (part a planned)) direct
        means there
    exact unwritten key written (part _ planned) (meant named same)

/-- What is set when the builder is filled is so in the request. -/
theorem Built.cell?_of_isSet {plan : List Action} (h : Built s plan filled b)
    {name : String} (apart : name ∉ neededNames .individual)
    (set : isSet .individual name filled = true) :
    Request.cell? b.request .individual (.text name) s.periods.month =
      some (.bool true) := by
  have held : (filled.entities.get .individual).value (.text name) s.periods.month =
      .bool true := by
    rw [← h.periods]
    unfold isSet current at set
    split at set
    · assumption
    · cases set
  have same :=
    Entity.run_sameBut (filled.entities.get .individual)
      (defaultCalls_only filled .individual)
  have kept :
      (b.entities.get .individual).value (.text name) s.periods.month = .bool true := by
    rw [h.entities, same.value ?_, held]
    rintro other inside ⟨⟩
    exact apart inside
  rw [cell?_request h.wellFormed rfl, cell?_of_value (by rw [kept]; rfl), kept]

/-- The writes that the filled builder needs are of cells that the engine needs. -/
theorem Built.needs (h : Built s (s.plan answers probes) filled b) {kind : EntityKind}
    {c : Entity.Call} (called : c ∈ filled.defaultCalls kind) :
    ∃ cell answerKey, c = .write cell.name cell.value cell.period answerKey ∧
      s.Needs answers probes b.request kind cell := by
  cases kind with
  | individual =>
    simp only [defaultCalls, h.periods, List.mem_append] at called
    rcases called with (called | called) | called
    · split at called
      · rename_i missing
        exact ⟨⟨_, _, _⟩, _, List.mem_singleton.mp called,
          .nationality (h.ungiven (free_of_needed nationality_needed) missing)⟩
      · cases called
    · split at called
      · rename_i set
        exact ⟨⟨_, _, _⟩, _, List.mem_singleton.mp called,
          .school (h.cell?_of_isSet (by simp [neededNames]) set)⟩
      · cases called
    · split at called
      · rename_i set
        exact ⟨⟨_, _, _⟩, _, List.mem_singleton.mp called,
          .university (h.cell?_of_isSet (by simp [neededNames]) set)⟩
      · cases called
  | household =>
    simp only [defaultCalls, h.periods] at called
    split at called
    · rename_i missing
      exact ⟨⟨_, _, _⟩, _, List.mem_singleton.mp called,
        .movingDate (h.ungiven (free_of_needed movingDate_needed) missing)⟩
    · cases called
  | taxHousehold => cases called
  | family => cases called

/-- Where the cells of a request without errors come from. -/
theorem Built.origin (h : Built s (s.plan answers probes) filled b) {kind : EntityKind}
    {cell : Cell} (inside : cell ∈ Request.cells b.request kind) :
    (∃ key answer, (key, answer) ∈ answers ++ Scholarship.added answers ∧
      answer.isUnanswered = false ∧
      answer.unwrap.isScalar = true ∧ s.Yields key answer.unwrap kind cell) ∨
    (cell.value = .null ∧ ∃ key ∈ probes,
      (∃ name type, s.resolver.mapping? key = some (.direct name type)) ∧
      s.Yields key .null kind cell) ∨
    s.Needs answers probes b.request kind cell := by
  rw [cells_request h.wellFormed, h.entity] at inside
  rcases Entity.mem_cells_run (Entity.total_ofKind _) inside with
    start | ⟨c, called, name, answerKey, rfl, same⟩
  · cases start
  rcases List.mem_append.mp called with called | called
  · obtain ⟨key, written, planned, as⟩ := Action.write_of_callTo called
    simp only [Entity.Call.write.injEq] at as
    obtain ⟨rfl, value, period, _⟩ := as
    rcases Setting.write_mem_plan planned with
      ⟨key, answer, given, there, scalar, expansion, means, meant⟩ |
      ⟨null, key, probed, direct, expansion, means, meant⟩
    · exact Or.inl ⟨key, answer, given, there, scalar, expansion, means, written, meant,
        value.symm, period.symm, same⟩
    · exact Or.inr (Or.inl ⟨value.trans null, key, probed, direct, expansion, means,
        written, meant, value.symm, period.symm, same⟩)
  · right
    right
    obtain ⟨written, key, as, needs⟩ := h.needs called
    obtain ⟨⟨t, text⟩, _⟩ := needs.text
    simp only [Entity.Call.write.injEq] at as
    obtain ⟨rfl, value, period, _⟩ := as
    have named : cell.name = written.name := by
      rcases same with same | same
      · exact same
      · rw [text] at same ⊢
        exact (Value.same_text _ _).mp same
    obtain ⟨cellName, cellPeriod, cellValue⟩ := cell
    simp only at value period named
    rw [value, period, named]
    exact needs

end Clean

/-- The actions for one answer stand between those of the answers before it and of what
comes after. -/
theorem plan_split (s : Setting) {answers before after : Answers} {key : String}
    {answer : Value} (split : answers = before ++ (key, answer) :: after)
    (probes : List String) :
    s.plan answers probes = before.flatMap (fun entry => s.answerPlan entry.1 entry.2)
      ++ s.answerPlan key answer
      ++ ((after ++ Scholarship.added answers).flatMap (fun entry =>
        s.answerPlan entry.1 entry.2)
        ++ probes.flatMap s.probePlan) := by
  unfold Setting.plan
  generalize Scholarship.added answers = added
  rw [split]
  simp only [List.append_assoc, List.cons_append, List.flatMap_append, List.flatMap_cons]

theorem filterMap_callTo_writes (kind : EntityKind) (key : String) (written : List Cell) :
    (written.map (Action.write kind key)).filterMap (Action.callTo kind) =
      written.map fun cell => .write cell.name cell.value cell.period key := by
  rw [List.filterMap_map, ← List.filterMap_eq_map]
  congr 1
  funext cell
  simp [Action.callTo]

/-- Where a later value for a cell can come from: from the same answer, or from a later one. -/
def Later (s : Setting) (answers : Answers) (later : List Cell) (kind : EntityKind)
    (name : Value) (period : String) (held : Value) : Prop :=
  (∃ written ∈ later, written.value = held ∧ written.period = period ∧
    (written.name == name) = true) ∨
  ∃ key answer, (key, answer) ∈ answers ∧ answer.isUnanswered = false ∧
    ∃ expansion, s.Means key answer.unwrap kind expansion ∧ ∃ written ∈ cells expansion,
      written.value = held ∧ written.period = period ∧ (written.name == name) = true

/-- A value that is written later on belongs to the same answer or to a later one, if the
engine needs none in that cell. -/
theorem later_of_calls {s : Setting} {answers : Answers} {probes : List String}
    {later : List Cell} {kind : EntityKind} {key : String} {needed : List Entity.Call}
    {name : Value} {period : String} (apart : ∀ c ∈ needed, c.valueFor name period = none)
    {held : Value} (value : held.isNull = false)
    (h : held ∈
      ((later.map fun cell => Entity.Call.write cell.name cell.value cell.period key) ++
        ((answers.flatMap (fun entry => s.answerPlan entry.1 entry.2) ++
          probes.flatMap s.probePlan).filterMap (Action.callTo kind) ++ needed)).filterMap
        (Entity.Call.valueFor name period)) :
    Later s answers later kind name period held := by
  obtain ⟨c, called, gives⟩ := List.mem_filterMap.mp h
  rcases List.mem_append.mp called with called | called
  · obtain ⟨next, there, rfl⟩ := List.mem_map.mp called
    obtain ⟨same, period, is⟩ := Entity.Call.valueFor_write gives
    exact Or.inl ⟨next, there, is, period, same⟩
  rcases List.mem_append.mp called with called | called
  · obtain ⟨answerKey, next, planned, rfl⟩ := Action.write_of_callTo called
    obtain ⟨same, period, is⟩ := Entity.Call.valueFor_write gives
    rcases List.mem_append.mp planned with planned | planned
    · obtain ⟨⟨key', answer'⟩, there, planned⟩ := List.mem_flatMap.mp planned
      obtain ⟨given', _, expansion', means, meant⟩ := Setting.write_mem_answerPlan planned
      exact Or.inr ⟨key', answer', there, given', expansion', means, next, meant, is,
        period, same⟩
    · -- a probe writes no value
      obtain ⟨probe, _, planned⟩ := List.mem_flatMap.mp planned
      rw [← is, (Setting.write_mem_probePlan planned).1] at value
      cases value
  · rw [apart c called] at gives
    cases gives

/-- The engine needs no value for how someone is housed. -/
theorem valueFor_defaultCalls {b : Builder} {kind : EntityKind} {c : Entity.Call}
    (h : c ∈ b.defaultCalls kind) (period : String) :
    c.valueFor (.text "statut_occupation_logement") period = none := by
  obtain ⟨t, needs, v, at', answerKey, rfl⟩ := defaultCalls_only b kind c h
  have apart : "statut_occupation_logement" ≠ t := by
    rintro rfl
    cases kind <;> simp [neededNames] at needs
  simp [Entity.Call.valueFor, Value.text_same, apart]

/-- In a request without errors nothing of what an answer means is lost. -/
theorem Built.kept {s : Setting} {answers : Answers} {probes : List String}
    {filled b : Builder} (h : Built s (s.plan answers probes) filled b)
    {before after : Answers} {key : String} {answer : Value}
    (split : answers = before ++ (key, answer) :: after)
    (given : answer.isUnanswered = false) {mapping : Mapping}
    (found : s.resolver.mapping? key = some mapping) (used : mapping.isExcluded = false)
    {kind : EntityKind} (owned : s.resolver.owner? key = some (.kind kind)) :
    ∃ expansion, expand s.periods key answer.unwrap mapping = some (.ok expansion) ∧
      ∀ earlier cell later, cells expansion = earlier ++ cell :: later →
        cell.value.isNull = false →
        (EntityLayout.ofKind kind).hasMembers cell.name = false → cell.name.isKey = true →
        (cell.name == cell.name) = true →
        ∃ held, Request.cell? b.request kind cell.name cell.period = some held ∧
          (held = cell.value ∨ (cell.name = .text "statut_occupation_logement" ∧
            cell.value = .text "locataire_vide" ∧ held.isNull = false ∧
            Later s (after ++ Scholarship.added answers) later kind cell.name cell.period
              held)) := by
  have plan := plan_split s split probes
  have writes : ∀ a ∈ s.answerPlan key answer, a.isWrite = true := by
    intro a inside
    refine h.writes a ?_
    rw [plan]
    exact List.mem_append_left _ (List.mem_append_right _ inside)
  obtain ⟨expansion, expanded, written⟩ :=
    Setting.answerPlan_of_writes given found used owned writes
  refine ⟨expansion, expanded, ?_⟩
  intro earlier cell later there value free named self
  -- the writes to the entity before and after the one of this cell
  let w (cell : Cell) : Entity.Call := .write cell.name cell.value cell.period key
  let answered (entries : Answers) :=
    entries.flatMap fun entry => s.answerPlan entry.1 entry.2
  have calls :
      (s.plan answers probes).filterMap (Action.callTo kind) ++ filled.defaultCalls kind =
      ((answered before).filterMap (Action.callTo kind) ++ earlier.map w) ++ w cell ::
        (later.map w ++ ((answered (after ++ Scholarship.added answers) ++
          probes.flatMap s.probePlan).filterMap
          (Action.callTo kind) ++ filled.defaultCalls kind)) := by
    rw [plan, written]
    simp only [List.filterMap_append, filterMap_callTo_writes, there]
    simp only [List.map_append, List.map_cons, List.append_assoc, List.cons_append, answered, w]
  have clean := h.errors kind
  rw [h.entity, calls] at clean
  rw [cell?_request h.wellFormed free, h.entity, calls]
  have members := Entity.membersOfLayout_ofKind kind
  rcases Entity.value_of_clean (Entity.total_ofKind _) members named self free value clean with
    same | ⟨inside, remains, other, accepted⟩
  · refine ⟨cell.value, ?_, Or.inl rfl⟩
    rw [cell?_of_value (by rw [same]; exact value), same]
  · refine ⟨_, cell?_of_value remains, Or.inr ?_⟩
    obtain ⟨renting, vacant⟩ := Refinements.accepts_standard accepted
    refine ⟨renting, vacant, remains, later_of_calls ?_ remains inside⟩
    intro c called
    rw [renting]
    exact valueFor_defaultCalls called cell.period

end Builder

/-- An outcome without errors is that of a strict construction without errors. -/
theorem outcome_of_clean {options : Options} {resolver : Resolver} {periods : Periods}
    {answers : Answers} {probes : List String} {o : Outcome}
    (done : outcome options resolver periods answers probes = .ok o)
    (clean : o.errors = []) :
    let strict := strictConstruction options resolver periods answers probes
    strict.halt = none ∧ strict.builder.allErrors = [] ∧
      o.request = some strict.builder.request := by
  unfold outcome at done
  generalize strictConstruction options resolver periods answers probes = strict at done
  intro strict'
  cases on : strict.halt with
  | some failure =>
    simp only [on] at done
    cases done
  | none =>
    simp only [on] at done
    refine ⟨rfl, ?_⟩
    rcases strict.builder.build_cases with ⟨without, built⟩ | ⟨errors, built⟩
    · simp only [built, Except.ok.injEq] at done
      subst done
      exact ⟨without, rfl⟩
    · simp only [built] at done
      split at done
      · cases fallback : permissiveRequest options resolver periods answers probes with
        | error failure =>
          rw [fallback] at done
          cases done
        | ok request =>
          rw [fallback] at done
          cases done
          exact absurd clean errors
      · cases done
        exact absurd clean errors

theorem outcome_of_compile {options : Options}
    (off : options.standardizeBirthDate.truthy = false) {registry : Registry} {today : Date}
    {answers : Answers} {probes : List String} {o : Outcome}
    (done : compile options registry today answers probes = .ok o) :
    outcome options (.ofRegistry registry) (.ofDate (options.day today)) answers probes =
      .ok o := by
  unfold compile at done
  dsimp only at done
  cases h : outcome options (.ofRegistry registry) (.ofDate (options.day today)) answers
    probes with
  | error failure =>
    rw [h] at done
    cases done
  | ok first =>
    rw [h] at done
    simp only [bind, Except.bind, off, Bool.false_eq_true, if_false, pure,
      Except.pure] at done
    split at done <;> exact done

/-- If a compilation returns no error, every value that an answer means is in the request,
unless it is that of someone who rents and a later answer said how; and every cell of the
request that holds a value is meant by an answer or by the scholarship rule, or the engine
needs it there, and every other cell is asked for by a probe or left open by a dispatcher.
The first part is about names that can be found again: a name that is no key, or a number
that is none and so not the same as itself, cannot be looked up. -/
theorem compile_exact (options : Options) (registry : Registry) (today : Date)
    (answers : Answers) (probes : List String) (o : Outcome)
    (off : options.throwOnError.truthy = false)
    (asGiven : options.standardizeBirthDate.truthy = false)
    (done : compile options registry today answers probes = .ok o) (clean : o.errors = []) :
    let s : Setting := ⟨options, .ofRegistry registry, .ofDate (options.day today)⟩
    ∃ request, o.request = some request ∧
      (∀ before key answer after, answers = before ++ (key, answer) :: after →
        answer.isUnanswered = false →
        ∀ mapping kind, registry.mapping? (.text key) = some mapping →
          mapping.isExcluded = false → registry.kind? (.text key) = some kind →
          ∃ expansion,
            Builder.expand s.periods key answer.unwrap mapping = some (.ok expansion) ∧
            ∀ earlier cell later, Builder.cells expansion = earlier ++ cell :: later →
              cell.value.isNull = false →
              (EntityLayout.ofKind kind).hasMembers cell.name = false →
              cell.name.isKey = true → (cell.name == cell.name) = true →
              ∃ held, Request.cell? request kind cell.name cell.period = some held ∧
                (held = cell.value ∨ (cell.name = .text "statut_occupation_logement" ∧
                  cell.value = .text "locataire_vide" ∧ held.isNull = false ∧
                  Builder.Later s (after ++ Scholarship.added answers) later kind cell.name
                    cell.period held))) ∧
      (∀ kind, ∀ cell ∈ Request.cells request kind,
        (cell.value.isNull = false →
          (∃ key answer, (key, answer) ∈ answers ++ Scholarship.added answers ∧
            answer.isUnanswered = false ∧ s.Yields key answer.unwrap kind cell) ∨
          s.Needs answers probes request kind cell) ∧
        (cell.value.isNull = true →
          (∃ key ∈ probes,
            (∃ name type, registry.mapping? (.text key) = some (.direct name type)) ∧
            s.Yields key .null kind cell) ∨
          ∃ key answer, (key, answer) ∈ answers ++ Scholarship.added answers ∧
            answer.isUnanswered = false ∧
            (∃ dispatcher type,
              registry.mapping? (.text key) = some (.dispatch dispatcher type)) ∧
            s.Yields key answer.unwrap kind cell)) := by
  intro s
  obtain ⟨on, without, request⟩ := outcome_of_clean (outcome_of_compile asGiven done) clean
  have built := Builder.built_of_strictConstruction off on without
  refine ⟨_, request, ?_, ?_⟩
  · intro before key answer after split given mapping kind found used owned
    refine built.kept split given found used ?_
    simp only [Resolver.ofRegistry, owned, Option.map_some]
  · intro kind cell inside
    constructor
    · intro value
      rcases built.origin inside with ⟨key, answer, there, given, _, yields⟩ | ⟨null, _⟩ | needs
      · exact Or.inl ⟨key, answer, there, given, yields⟩
      · rw [null] at value
        cases value
      · exact Or.inr needs
    · intro null
      rcases built.origin inside with
        ⟨key, answer, there, given, scalar, yields⟩ | ⟨_, probed⟩ | needs
      · exact Or.inr ⟨key, answer, there, given,
          Setting.dispatch_of_yields scalar yields null, yields⟩
      · exact Or.inl probed
      · rw [needs.text.2] at null
        cases null

/-- Someone who rents, and rents furnished. -/
def furnishedAnswers : Answers :=
  [("situation-logement", .text "locataire"), ("loyer-montant-mensuel", .int 600),
    ("type-logement", .text "logement-meuble")]

theorem compile_exact_furnished :
    ({} : Options).throwOnError.truthy = false ∧
      ({} : Options).standardizeBirthDate.truthy = false ∧
      ∃ o request, compile {} .standard ⟨2025, 10, 7, by decide⟩ furnishedAnswers
        ["garantie-visale"] = .ok o ∧
        o.errors = [] ∧ o.request = some request ∧
        Request.cell? request .household (.text "loyer") "2025-10" = some (.int 600) := by
  refine ⟨rfl, rfl, ?_⟩
  have succeeds :
      (compile {} .standard ⟨2025, 10, 7, by decide⟩ furnishedAnswers
        ["garantie-visale"]).toOption.any
      (·.errors.isEmpty) = true := by decide +kernel
  cases done : compile {} .standard ⟨2025, 10, 7, by decide⟩ furnishedAnswers
    ["garantie-visale"] with
  | error failure =>
    rw [done] at succeeds
    cases succeeds
  | ok o =>
    rw [done] at succeeds
    have clean : o.errors = [] := List.isEmpty_iff.mp succeeds
    obtain ⟨request, built, kept, _⟩ :=
      compile_exact {} .standard ⟨2025, 10, 7, by decide⟩ furnishedAnswers
      ["garantie-visale"] o rfl rfl done clean
    obtain ⟨expansion, expanded, cells⟩ :=
      kept [("situation-logement", .text "locataire")] "loyer-montant-mensuel"
      (.int 600) [("type-logement", .text "logement-meuble")] rfl rfl
      (.direct (.text "loyer") .month) .household
      rfl rfl (by decide +kernel)
    have month : (Periods.ofDate ⟨2025, 10, 7, by decide⟩).month = "2025-10" := by
      decide +kernel
    obtain ⟨period, resolved, cell⟩ := Builder.expand_direct expanded
    cases resolved
    have rent : (EntityLayout.ofKind .household).hasMembers (.text "loyer") = false := by
      decide +kernel
    obtain ⟨held, found, same | ⟨renting, _⟩⟩ :=
      cells [] _ [] cell rfl rent rfl ((Value.text_same _ _).mpr rfl)
    · refine ⟨o, request, rfl, clean, built, ?_⟩
      rw [← month]
      exact found.trans (congrArg some same)
    · simp at renting

end Questionnaire
