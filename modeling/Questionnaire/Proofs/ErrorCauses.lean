import Questionnaire.Proofs.Histories
import Questionnaire.Proofs.RegistryDocuments

/-!
# The causes of build errors

Some errors never come up. A key that has a mapping in a registry has a kind of entity, so
none is missing. The defaults set the nationality and the moving date only where there are
none, so these two writes are never refused. And if the registry comes from a document, a
mapping error has one of two causes: a write that was refused, or a probe of something that
is no variable.
-/

namespace Questionnaire

/-- A key that has a mapping belongs to a kind. -/
theorem Registry.kind?_of_mapping? {r : Registry} {key : Value} {mapping : Mapping}
    (found : r.mapping? key = some mapping) : ∃ kind, r.kind? key = some kind := by
  obtain ⟨entry, inside, held⟩ := List.exists_of_findSome?_eq_some found
  have there : Table.contains entry.2 key = true := by
    rw [Table.contains, Option.join_eq_some_iff.mp held]
    rfl
  have some :
      (r.tables.toList.find? fun entry => Table.contains entry.2 key).isSome = true :=
    List.find?_isSome.mpr ⟨entry, inside, there⟩
  obtain ⟨owner, first⟩ := Option.isSome_iff_exists.mp some
  exact ⟨owner.1, by rw [Registry.kind?, first]; rfl⟩

theorem Resolver.owner?_ne_none {r : Registry} {key : String} {mapping : Mapping}
    (found : (ofRegistry r).mapping? key = some mapping) :
    (ofRegistry r).owner? key ≠ none := by
  obtain ⟨kind, owned⟩ := Registry.kind?_of_mapping? found
  simp [ofRegistry, owned]

theorem Resolver.kind_of_owner? {r : Registry} {key : String} {owner : Owner}
    (owned : (ofRegistry r).owner? key = some owner) : ∃ kind, owner = .kind kind := by
  obtain ⟨kind, _, rfl⟩ := Option.map_eq_some_iff.mp owned
  exact ⟨kind, rfl⟩

/-- What the action records is told under the key. -/
def Action.About (key : String) : Action → Prop
  | .report error => error.answerKey = key
  | .write _ answerKey _ => answerKey = key
  | .fail _ => True

namespace Setting

/-! ### The keys of the actions -/

theorem about_settle (owner : Owner) (key : String)
    (expanded : Option (Except Failure Expansion)) :
    ∀ a ∈ settle owner key expanded, a.About key := by
  intro a planned
  cases expanded with
  | none =>
    rw [List.mem_singleton.mp planned]
    rfl
  | some result =>
    cases result with
    | ok expansion =>
      cases owner with
      | unknown name =>
        rw [List.mem_singleton.mp planned]
        rfl
      | kind kind =>
        obtain ⟨cell, _, rfl⟩ := List.mem_map.mp planned
        unfold Action.ofCell
        split <;> rfl
    | error failure =>
      cases failure
      all_goals
        rw [List.mem_singleton.mp planned]
        simp only [Action.About]

theorem about_answerPlan (s : Setting) (key : String) (answer : Value) :
    ∀ a ∈ s.answerPlan key answer, a.About key := by
  intro a planned
  have shape := s.answerCase key answer
  generalize s.answerPlan key answer = plan at planned shape
  cases shape with
  | idle => cases planned
  | told kind own message =>
    rw [List.mem_singleton.mp planned]
    rfl
  | unowned mapping found unowned message =>
    rw [List.mem_singleton.mp planned]
    rfl
  | settled => exact about_settle _ _ _ a planned

theorem about_probePlan (s : Setting) (key : String) :
    ∀ a ∈ s.probePlan key, a.About key := by
  intro a planned
  have shape := s.probeCase key
  generalize s.probePlan key = plan at planned shape
  cases shape with
  | settled => exact about_settle _ _ _ a planned
  | _ =>
    rw [List.mem_singleton.mp planned]
    rfl

/-! ### The kinds of the reports -/

/-- An expansion for a kind of entity is reported as unexpected, or there is none, or its
period is unknown, or it holds a value that no cell can. -/
theorem report_mem_settle {kind : EntityKind} {key : String}
    {expanded : Option (Except Failure Expansion)} {error : BuildError}
    (h : Action.report error ∈ settle (.kind kind) key expanded) :
    error.kind = .unexpectedValue ∨ error.kind = .mappingError ∧
      (expanded = none ∨ (∃ v, expanded = some (.error (.period v))) ∨
        ∃ expansion, expanded = some (.ok expansion) ∧ ∃ cell ∈ Builder.cells expansion,
          cell.value.isCell = false) := by
  cases expanded with
  | none =>
    cases List.mem_singleton.mp h
    exact Or.inr ⟨rfl, Or.inl rfl⟩
  | some result =>
    cases result with
    | ok expansion =>
      obtain ⟨cell, inside, same⟩ := List.mem_map.mp h
      unfold Action.ofCell at same
      split at same
      · rename_i structured
        cases same
        refine Or.inr ⟨rfl, Or.inr (Or.inr ⟨expansion, rfl, cell, inside, ?_⟩)⟩
        simpa [Value.isCell] using structured
      · cases same
    | error failure =>
      cases failure with
      | period v =>
        cases List.mem_singleton.mp h
        exact Or.inr ⟨rfl, Or.inr (Or.inl ⟨v, rfl⟩)⟩
      | dispatch answerKey message =>
        cases List.mem_singleton.mp h
        exact Or.inl rfl
      | unexpectedValue answerKey value =>
        cases List.mem_singleton.mp h
        exact Or.inl rfl
      | _ => cases List.mem_singleton.mp h

variable {s : Setting} {r : Registry}

/-- A report on an answer is about a missing or an unexpected value or an unknown key, or
about an expansion. -/
theorem report_mem_answerPlan (resolver : s.resolver = .ofRegistry r) {key : String}
    {answer : Value} {error : BuildError}
    (h : Action.report error ∈ s.answerPlan key answer) :
    error.kind ∈ [.undefinedValue, .unexpectedValue, .unknownVariable] ∨
      ∃ mapping kind, r.mapping? (.text key) = some mapping ∧ mapping ≠ .excluded ∧
        answer.unwrap.isScalar = true ∧
        Action.report error ∈ settle (.kind kind) key
          (Builder.expand s.periods key answer.unwrap mapping) := by
  have shape := s.answerCase key answer
  generalize s.answerPlan key answer = plan at h shape
  cases shape with
  | idle => cases h
  | told kind own message =>
    cases List.mem_singleton.mp h
    exact Or.inl own
  | unowned mapping found unowned message =>
    rw [resolver] at found unowned
    exact absurd unowned (Resolver.owner?_ne_none found)
  | settled mapping owner given scalar found counts owned =>
    rw [resolver] at found owned
    obtain ⟨kind, rfl⟩ := Resolver.kind_of_owner? owned
    exact Or.inr ⟨mapping, kind, found, counts, scalar, h⟩

/-- A report on a probe is about an unknown key, about an expansion, or about a key that is
no variable. -/
theorem report_mem_probePlan (resolver : s.resolver = .ofRegistry r) {key : String}
    {error : BuildError} (h : Action.report error ∈ s.probePlan key) :
    error.kind = .unknownVariable ∨
      (∃ name type kind, r.mapping? (.text key) = some (.direct name type) ∧
        Action.report error ∈ settle (.kind kind) key (Builder.expand s.periods key .null
          (.direct name type))) ∨
      ∃ mapping, r.mapping? (.text key) = some mapping ∧
        (∀ name type, mapping ≠ .direct name type) ∧
        error = ⟨.mappingError, key, "Question key must have direct mapping: " ++ key⟩ := by
  have shape := s.probeCase key
  generalize s.probePlan key = plan at h shape
  cases shape with
  | unknown message =>
    cases List.mem_singleton.mp h
    exact Or.inl rfl
  | unowned mapping found unowned message =>
    rw [resolver] at found unowned
    exact absurd unowned (Resolver.owner?_ne_none found)
  | settled name type owner found owned =>
    rw [resolver] at found owned
    obtain ⟨kind, rfl⟩ := Resolver.kind_of_owner? owned
    exact Or.inr (Or.inl ⟨name, type, kind, found, h⟩)
  | indirect mapping found indirect =>
    cases List.mem_singleton.mp h
    rw [resolver] at found
    exact Or.inr (Or.inr ⟨mapping, found, indirect, rfl⟩)

/-- Under a described mapping to values of tame dispatchers, what is reported is an
unexpected value. -/
theorem kind_of_described {dispatchers : List Dispatcher} (tame : ∀ d ∈ dispatchers, d.Tame)
    {mapping : Mapping} (described : mapping.Described dispatchers)
    (counts : mapping ≠ .excluded) {kind : EntityKind} {key : String} {value : Value}
    (cell : value.isCell = true) {periods : Periods} {error : BuildError}
    (h : Action.report error ∈ settle (.kind kind) key
      (Builder.expand periods key value mapping)) : error.kind = .unexpectedValue := by
  obtain ⟨result, expanded, resolved, held⟩ := described.expand tame counts periods key cell
  rw [expanded] at h
  rcases report_mem_settle h with
    unexpected | ⟨_, none | ⟨v, period⟩ | ⟨expansion, done, written, inside, structured⟩⟩
  · exact unexpected
  · cases none
  · exact absurd (Option.some.inj period) (resolved v)
  · rw [held expansion (Option.some.inj done) written inside] at structured
    cases structured

end Setting

namespace Builder

/-! ### The errors of the defaults -/

/-- A text that is written where its variable is missing, now as when it was planned, is not
refused. -/
theorem log_writeIf_lacks {b c : Builder} {kind : EntityKind} {name : String}
    (missing : lacks kind name c = lacks kind name b) (key text : String) :
    log (b.writeIf (lacks kind name b) kind key name text) c = [] := by
  rw [← missing, writeIf]
  split
  · rename_i lacking
    have absent : Table.get? (c.entities.get kind).values (.text name) = none := by
      simpa [lacks, Entity.hasVariable, Table.contains] using lacking
    have empty : (c.entities.get kind).value (.text name) b.periods.month = .null := by
      rw [Entity.value, absent]
      rfl
    rw [List.eq_nil_iff_forall_not_mem]
    intro entry inside
    rcases List.mem_append.mp inside with here | later
    · obtain ⟨error, recorded, _⟩ := List.mem_map.mp here
      obtain ⟨next, written⟩ := recorded_write recorded
      obtain ⟨held, _⟩ := Entity.of_write_refused written
      rw [empty] at held
      cases held
    · cases Log.mem_following later
  · rfl

/-- The errors of the defaults are about the level of study. -/
theorem answerKey_of_defaults {b : Builder} {entry : Record × Builder}
    (h : entry ∈ log b.defaultPlan b) :
    entry.1.error.answerKey = "mobility_annee_etude" := by
  have level {condition : Bool} {text : String} {c : Builder}
      (inside : entry ∈ log (b.writeIf condition .individual "mobility_annee_etude"
        "annee_etude" text) c) :
      entry.1.error.answerKey = "mobility_annee_etude" := by
    rcases mem_log inside with ⟨_, planned⟩ | ⟨kind, answerKey, cell, _, planned, refused⟩
    · unfold writeIf at planned
      split at planned <;> simp at planned
    · rw [refused.error]
      unfold writeIf at planned
      split at planned
      · cases List.mem_singleton.mp planned
        rfl
      · cases planned
  have nationality : Within (fun kind => if kind = .individual then ["nationalite"] else [])
      (b.writeIf (lacks .individual "nationalite" b) .individual "default_nationalite"
        "nationalite" "FR") :=
    within_writeIf (by simp) b _ _ _
  rw [defaultPlan, log_append, log_append, log_append] at h
  simp only [List.mem_append] at h
  rcases h with ((first | second) | third) | fourth
  · rw [log_writeIf_lacks rfl] at first
    cases first
  · -- the nationality leaves the household as it is: the moving date is still missing
    have second := Log.mem_following second
    rw [log_writeIf_lacks (lacks_congr (perform_sameBut nationality b .household)
      (by simp))] at second
    cases second
  · exact level (Log.mem_following third)
  · exact level (Log.mem_following fourth)

/-! ### The errors of a turn -/

section Turns

variable {b : Builder} {r : Registry} {turn : Turn} {entry : Record × Builder}

/-- No error of a turn is about a missing entity. -/
theorem kind_ne_of_mem_log (resolver : b.resolver = .ofRegistry r)
    (h : entry ∈ log (b.turnPlan turn) b) : entry.1.error.kind ≠ .unknownEntity := by
  have settled {owner : EntityKind} {key : String}
      {expanded : Option (Except Failure Expansion)}
      (told : .report entry.1.error ∈ Setting.settle (.kind owner) key expanded) :
      entry.1.error.kind ≠ .unknownEntity := by
    rcases Setting.report_mem_settle told with kind | ⟨kind, _⟩ <;> simp [kind]
  rcases mem_log h with ⟨_, planned⟩ | ⟨_, _, _, _, _, refused⟩
  · rcases mem_turnPlan planned with ⟨key, answer, _, told⟩ | ⟨key, _, told⟩ | ⟨_, told⟩
    · rcases Setting.report_mem_answerPlan resolver told with kind | ⟨_, _, _, _, _, told⟩
      · intro unknown
        simp [unknown] at kind
      · exact settled told
    · rcases Setting.report_mem_probePlan resolver told with
        kind | ⟨_, _, _, _, told⟩ | ⟨_, _, _, error⟩
      · simp [kind]
      · exact settled told
      · simp [error]
    · obtain ⟨_, _, _, _, _, _, write⟩ := within_defaultPlan b _ told
      cases write
  · simp [refused.error, Entity.refusal]

/-- The errors of a turn are told under its own key; those of the defaults are about the
level of study. -/
theorem answerKey_of_mem_log (h : entry ∈ log (b.turnPlan turn) b) :
    turn.key? = some entry.1.error.answerKey ∨
      turn = .step .defaults ∧ entry.1.error.answerKey = "mobility_annee_etude" := by
  have about :
      ∃ a ∈ b.turnPlan turn, ∀ key, a.About key → entry.1.error.answerKey = key := by
    rcases mem_log h with ⟨_, planned⟩ | ⟨_, _, _, _, planned, refused⟩
    · exact ⟨_, planned, fun key about => about⟩
    · refine ⟨_, planned, fun key about => ?_⟩
      rw [refused.error]
      exact about
  obtain ⟨a, planned, told⟩ := about
  rcases mem_turnPlan planned with
    ⟨key, answer, own, planned⟩ | ⟨key, rfl, planned⟩ | ⟨rfl, _⟩
  · rw [told key (Setting.about_answerPlan _ key answer a planned)]
    exact Or.inl own
  · rw [told key (Setting.about_probePlan _ key a planned)]
    exact Or.inl rfl
  · exact Or.inr ⟨rfl, answerKey_of_defaults h⟩

/-- Under a registry from a document, a mapping error of a turn is that of a refused write,
or the turn probes a key that is no variable. -/
theorem mappingError_of_mem_log (resolver : b.resolver = .ofRegistry r) {document : Value}
    (read : Registry.ofValue Dispatcher.standard document = .ok r)
    (h : entry ∈ log (b.turnPlan turn) b)
    (mappingError : entry.1.error.kind = .mappingError) :
    (∃ kind answerKey cell, entry.1.holder = some kind ∧
      entry.2.Refused kind answerKey cell entry.1.error) ∨
      ∃ key mapping, turn = .step (.probe key) ∧ r.mapping? (.text key) = some mapping ∧
        (∀ name type, mapping ≠ .direct name type) ∧
        entry.1.error = ⟨.mappingError, key, "Question key must have direct mapping: " ++
          key⟩ := by
  have described {key : Value} {mapping : Mapping}
      (found : r.mapping? key = some mapping) :=
    Registry.described_of_mapping? read found
  have tame : ∀ d ∈ Dispatcher.standard, d.Tame := fun d => Dispatcher.tame_standard
  rcases mem_log h with ⟨_, planned⟩ | ⟨kind, answerKey, cell, holder, _, refused⟩
  · right
    rcases mem_turnPlan planned with ⟨key, answer, _, told⟩ | ⟨key, probe, told⟩ | ⟨_, told⟩
    · rcases Setting.report_mem_answerPlan resolver told with
        kind | ⟨mapping, _, found, counts, scalar, told⟩
      · simp [mappingError] at kind
      · have cell : answer.unwrap.isCell = true := by simp [Value.isCell, scalar]
        rw [Setting.kind_of_described tame (described found) counts cell told]
          at mappingError
        cases mappingError
    · rcases Setting.report_mem_probePlan resolver told with
        kind | ⟨name, type, _, found, told⟩ | ⟨mapping, found, indirect, error⟩
      · rw [kind] at mappingError
        cases mappingError
      · rw [Setting.kind_of_described tame (described found) (by simp) rfl told]
          at mappingError
        cases mappingError
      · exact ⟨key, mapping, probe, found, indirect, error⟩
    · obtain ⟨_, _, _, _, _, _, write⟩ := within_defaultPlan b _ told
      cases write
  · exact Or.inl ⟨kind, answerKey, cell, holder, refused⟩

end Turns

/-- Whatever is done with a fresh builder, its errors are those of its history, and some
never come up. No entity is ever unknown. The defaults, however often they are applied,
record errors about the level of study only, so that none is told under the keys of the
nationality and the moving date unless a turn uses these. If the registry comes from a
document, every mapping error is that of a refused write, or of the probe of a key that is
no variable. -/
theorem history_causes (options : Options) (registry : Registry) (periods : Periods)
    (turns : List Turn) :
    let start := fresh options (.ofRegistry registry) periods
    let run := playAll turns start
    let log := history turns start
    log.map (·.1.error) = run.recorded ∧
      run.builder.allErrors.Perm run.recorded ∧
      (∀ error ∈ run.recorded, error.kind ≠ .unknownEntity) ∧
      (∀ before rest, turns = before ++ .step .defaults :: rest →
        ∀ error ∈ (playAll before start).builder.applyDefaults.recorded,
          error.answerKey = "mobility_annee_etude") ∧
      (∀ key ∈ ["default_nationalite", "default_date_entree_logement"],
        (∀ turn ∈ turns, turn.key? ≠ some key) →
        ∀ error ∈ run.recorded, error.answerKey ≠ key) ∧
      ∀ document, Registry.ofValue Dispatcher.standard document = .ok registry →
        ∀ entry ∈ log, entry.1.error.kind = .mappingError →
          (∃ kind answerKey cell, entry.1.holder = some kind ∧
            entry.2.Refused kind answerKey cell entry.1.error) ∨
          ∃ key mapping, .step (.probe key) ∈ turns ∧
            registry.mapping? (.text key) = some mapping ∧
            (∀ name type, mapping ≠ .direct name type) ∧
            entry.1.error = ⟨.mappingError, key,
              "Question key must have direct mapping: " ++ key⟩ := by
  intro start run log
  have tells := history_tells turns start
  have resolver (before : List Turn) :
      (playAll before start).builder.resolver = .ofRegistry registry :=
    playAll_keeps (P := fun b => b.resolver = .ofRegistry registry)
      (fun b turn kept => (congrArg Setting.resolver (play_setting b turn)).trans kept) before rfl
  -- an error was recorded by some turn, after those before it
  have origin : ∀ error ∈ run.recorded, ∃ entry ∈ log, entry.1.error = error := by
    intro error recorded
    rw [← tells.recorded] at recorded
    exact List.mem_map.mp recorded
  refine ⟨tells.recorded, (errors_of_fresh tells).2, ?_, ?_, ?_, ?_⟩
  · intro error recorded
    obtain ⟨entry, inside, rfl⟩ := origin error recorded
    obtain ⟨before, turn, rest, _, here⟩ := mem_history inside
    exact kind_ne_of_mem_log (resolver before) here
  · intro before rest _ error recorded
    have told :=
      (log_tells (playAll before start).builder.defaultPlan
        (playAll before start).builder).recorded
    rw [← applyDefaults_eq_perform] at told
    rw [← told] at recorded
    obtain ⟨entry, inside, rfl⟩ := List.mem_map.mp recorded
    exact answerKey_of_defaults inside
  · intro key listed unused error recorded same
    obtain ⟨entry, inside, rfl⟩ := origin error recorded
    obtain ⟨before, turn, rest, rfl, here⟩ := mem_history inside
    rcases answerKey_of_mem_log here with own | ⟨_, level⟩
    · exact unused turn (by simp) (same ▸ own)
    · rw [← same, level] at listed
      simp at listed
  · intro document read entry inside mappingError
    obtain ⟨before, turn, rest, rfl, here⟩ := mem_history inside
    rcases mappingError_of_mem_log (resolver before) read here mappingError with
      refused | ⟨key, mapping, rfl, probe⟩
    · exact Or.inl refused
    · exact Or.inr ⟨key, mapping, by simp, probe⟩

/-- The move and the level of a student. -/
def studentDocument : Value :=
  .map [(.text "individus", .map [(.text "answers", .map
    [(.text "mobilite", .map [(.text "dispatch", .text "etudiant_mobilite")]),
      (.text "niveau", .map [(.text "variable", .text "annee_etude")])])])]

def studentRegistry : Registry where
  tables :=
    { individual :=
        [(.text "mobilite", some (.dispatch .studentMobility .month)),
          (.text "niveau", some (.direct (.text "annee_etude") .month))]
      household := []
      taxHousehold := []
      family := [] }

/-- A student who moves and has a level other than that of the default, which is applied
before and twice after. The move is probed as well, and so is a key that is not in the
registry. -/
def studentTurns : List Turn :=
  [.step .defaults, .step (.answer "mobilite" (.text "parcoursup-nouvelle-region")),
    .step (.answer "niveau" (.text "licence_1")), .step .defaults, .step .defaults,
    .scholarship [], .step (.probe "mobilite"), .step (.probe "locapass")]

theorem history_causes_student :
    Registry.ofValue Dispatcher.standard studentDocument = .ok studentRegistry ∧
      let start :=
        fresh {} (.ofRegistry studentRegistry) ⟨"2025-10", "2025-11", "2025", "month:2024-10:12"⟩
      let run := playAll studentTurns start
      run.recorded.map BuildError.answerKey =
          ["mobility_annee_etude", "mobility_annee_etude", "mobilite", "locapass"] ∧
        run.builder.allErrors.Perm run.recorded ∧
        (∀ error ∈ run.recorded, error.kind ≠ .unknownEntity ∧
          error.answerKey ≠ "default_nationalite") ∧
        ∀ entry ∈ history studentTurns start, entry.1.error.kind = .mappingError →
          (∃ kind answerKey cell, entry.1.holder = some kind ∧
            entry.2.Refused kind answerKey cell entry.1.error) ∨
          ∃ key mapping, .step (.probe key) ∈ studentTurns ∧
            studentRegistry.mapping? (.text key) = some mapping ∧
              (∀ name type, mapping ≠ .direct name type) ∧
            entry.1.error = ⟨.mappingError, key,
              "Question key must have direct mapping: " ++ key⟩ := by
  have read :
      Registry.ofValue Dispatcher.standard studentDocument = .ok studentRegistry := rfl
  have unused : ∀ turn ∈ studentTurns, turn.key? ≠ some "default_nationalite" := by
    simp [studentTurns, Turn.key?, Scholarship.amountKey]
  obtain ⟨_, told, known, _, keys, causes⟩ := history_causes {} studentRegistry
    ⟨"2025-10", "2025-11", "2025", "month:2024-10:12"⟩ studentTurns
  refine ⟨read, by decide +kernel, told, ?_, causes studentDocument read⟩
  intro error recorded
  exact ⟨known error recorded, keys _ (by simp) unused error recorded⟩

end Builder

end Questionnaire
