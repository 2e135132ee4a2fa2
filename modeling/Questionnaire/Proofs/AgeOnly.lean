import Questionnaire.Proofs.Lawful
import Questionnaire.Proofs.Report

/-!
# Only the age counts

Under the standard registry one answer alone is about the birth date. If birth dates are
standardized, two of them that give the same age lead to the same outcome: the builders that
they leave are the same once the birth date is rounded, and nothing that a builder does
looks at it before.
-/

namespace Questionnaire

namespace Registry.Standard

/-- What an entry of the standard registry has to do with the birth date. -/
inductive BirthEntry : Value × Option Mapping → Prop where
  | birth (type : PeriodType) :
      BirthEntry (.text "date-naissance", some (.direct (.text "date_naissance") type))
  | direct (key : Value) {name : String} (type : PeriodType)
      (other : name ≠ "date_naissance") :
      BirthEntry (key, some (.direct (.text name) type))
  | dispatch (key : Value) {dispatcher : Dispatcher} (type : PeriodType)
      (known : dispatcher ∈ Dispatcher.standard) :
      BirthEntry (key, some (.dispatch dispatcher type))
  | excluded (key : Value) : BirthEntry (key, some .excluded)

theorem birthEntry {kind : EntityKind} {entry : Value × Option Mapping}
    (h : entry ∈ standard.tables.get kind) : BirthEntry entry := by
  cases entry_of_mem h with
  | direct key name type =>
    have one := test_of_mem (fun key name _ => name != "date_naissance" ||
      key == "date-naissance") (by decide) h
    by_cases birth : name = "date_naissance"
    · subst birth
      have asked : key = "date-naissance" := by simpa using one
      subst asked
      exact .birth type
    · exact .direct (.text key) type birth
  | dispatched key type known => exact .dispatch (.text key) type known
  | excluded key => exact .excluded (.text key)

/-- None of the dispatchers sets the birth date. -/
theorem name_ne_of_dispatcher {dispatcher : Dispatcher}
    (known : dispatcher ∈ Dispatcher.standard) {key : String} {value : Value}
    {type : PeriodType} {periods : Periods} {expansion : Expansion}
    (run : dispatcher.run key value type periods = .ok expansion) {cell : Builder.Cell}
    (inside : cell ∈ Builder.cells expansion) : cell.name ≠ .text "date_naissance" := by
  obtain ⟨name, listed, same⟩ := name_of_dispatcher known run inside
  rw [same]
  rintro ⟨⟩
  simp [dispatchedNames] at listed

/-- No other answer means a birth date. -/
theorem name_ne_of_means {s : Setting} (resolver : s.resolver = .ofRegistry standard)
    {key : String} (other : key ≠ "date-naissance") {value : Value} {kind : EntityKind}
    {expansion : Expansion} (means : s.Means key value kind expansion) {cell : Builder.Cell}
    (inside : cell ∈ Builder.cells expansion) : cell.name ≠ .text "date_naissance" := by
  obtain ⟨mapping, found, _, expanded⟩ := means
  rw [resolver] at found
  obtain ⟨owner, stored, there, equal⟩ := mem_of_mapping? found
  have named : stored = .text key := (Value.same_text stored key).mp equal
  cases birthEntry there with
  | birth type =>
    cases named
    exact absurd rfl other
  | direct _ type apart =>
    obtain ⟨period, _, cells⟩ := Builder.expand_direct expanded
    rw [cells, List.mem_singleton] at inside
    rw [inside]
    simpa using apart
  | dispatch _ type known =>
    simp only [Builder.expand, Option.some.injEq] at expanded
    exact name_ne_of_dispatcher known expanded inside
  | excluded _ => cases expanded

end Registry.Standard

namespace Setting

/-- What answers make a builder do. -/
def answersPlan (s : Setting) (answers : Answers) : List Action :=
  answers.flatMap fun entry => s.answerPlan entry.1 entry.2

variable {s : Setting} (resolver : s.resolver = .ofRegistry .standard)

include resolver

/-- An answer with another key writes no birth date. -/
theorem name_ne_of_answer {key : String} (other : key ≠ "date-naissance") {answer : Value}
    {kind : EntityKind} {answerKey : String} {cell : Builder.Cell}
    (planned : Action.write kind answerKey cell ∈ s.answerPlan key answer) :
    cell.name ≠ .text "date_naissance" := by
  obtain ⟨_, _, expansion, means, inside⟩ := write_mem_answerPlan planned
  exact Registry.Standard.name_ne_of_means resolver other means inside

theorem name_ne_of_answers {answers : Answers}
    (none : "date-naissance" ∉ Table.keys answers) {kind : EntityKind} {answerKey : String}
    {cell : Builder.Cell}
    (planned : Action.write kind answerKey cell ∈ s.answersPlan answers) :
    cell.name ≠ .text "date_naissance" := by
  obtain ⟨entry, given, planned⟩ := List.mem_flatMap.mp planned
  have other : entry.1 ≠ "date-naissance" := by
    intro same
    exact none (List.mem_map.mpr ⟨entry, given, same⟩)
  exact name_ne_of_answer resolver other planned

/-- What follows the answer about the birth date writes none. -/
theorem undated_later {after : Answers} (none : "date-naissance" ∉ Table.keys after)
    (added : Answers) (scholarship : ∀ entry ∈ added, entry.1 = Scholarship.amountKey)
    (probes : List String) :
    ∀ a ∈ s.answersPlan (after ++ added) ++ probes.flatMap s.probePlan, a.Undated := by
  rintro a inside answerKey cell rfl named
  rcases List.mem_append.mp inside with answered | probed
  · have none' : "date-naissance" ∉ Table.keys (after ++ added) := by
      intro given
      obtain ⟨entry, there, same⟩ := List.mem_map.mp given
      rcases List.mem_append.mp there with there | there
      · exact none (List.mem_map.mpr ⟨entry, there, same⟩)
      · rw [scholarship entry there] at same
        simp [Scholarship.amountKey] at same
    exact absurd named (name_ne_of_answers resolver none' answered)
  · obtain ⟨key, _, planned⟩ := List.mem_flatMap.mp probed
    exact (write_mem_probePlan planned).1

end Setting

theorem Scholarship.added_key (answers : Answers) :
    ∀ entry ∈ added answers, entry.1 = amountKey := by
  intro entry inside
  unfold added at inside
  split at inside
  · rw [List.mem_singleton.mp inside]
  · cases inside

/-- The scholarship rule does not look at the birth date. -/
theorem Scholarship.added_birth (before after : Answers) (birth : Value) :
    added (before ++ ("date-naissance", birth) :: after) = added (before ++ after) := by
  have same {key : String} (other : ("date-naissance" == key) = false) :
      Table.get? (before ++ ("date-naissance", birth) :: after : Answers) key =
        Table.get? (before ++ after : Answers) key := by
    simp only [Table.get?_append, Table.get?, other, Bool.false_eq_true, if_false]
  have missing : isMissing (before ++ ("date-naissance", birth) :: after) =
      isMissing (before ++ after) := by
    unfold isMissing Table.contains
    rw [same (by decide), same (by decide), same (by decide)]
  simp only [added, missing]

/-- What a text as the answer about the birth date makes a builder do. -/
def Action.birth (s : String) : Action :=
  .write .individual "date-naissance" ⟨.text "date_naissance", Periods.eternity, .text s⟩

/-- The answer about the birth date writes one cell, between what is given before and what
follows. -/
theorem Setting.plan_birth (options : Options) (periods : Periods) (before after : Answers)
    (probes : List String) (s : String) :
    let setting : Setting := ⟨options, .ofRegistry .standard, periods⟩
    setting.plan (before ++ ("date-naissance", .text s) :: after) probes =
      setting.answersPlan before ++
        .birth s :: (setting.answersPlan (after ++ Scholarship.added (before ++ after)) ++
          probes.flatMap setting.probePlan) := by
  intro setting
  have one : setting.answerPlan "date-naissance" (.text s) = [.birth s] := rfl
  simp only [plan, answersPlan, Scholarship.added_birth, List.flatMap_append,
    List.flatMap_cons, one, List.append_assoc, List.cons_append, List.nil_append]

namespace Builder

section Birth

variable {options : Options} {periods : Periods} {before after : Answers}
  {probes : List String}

/-- Before the birth date is answered, none is held. -/
theorem birth_null {s : Setting} (resolver : s.resolver = .ofRegistry .standard)
    (none : "date-naissance" ∉ Table.keys before)
    (off : options.throwOnError.truthy = false)
    (on : (perform (s.answersPlan before) (fresh options s.resolver periods)).halt =
      Option.none) :
    ((perform (s.answersPlan before) (fresh options s.resolver
      periods)).builder.entities.get .individual).value
      (.text "date_naissance") Periods.eternity = .null := by
  have calm := calm_fresh off s.resolver periods
  have unwritten : ((s.answersPlan before).filterMap (Action.callTo .individual)).filterMap
      (Entity.Call.valueFor (.text "date_naissance") Periods.eternity) = [] := by
    rw [List.filterMap_eq_nil_iff]
    intro c called
    obtain ⟨answerKey, cell, planned, rfl⟩ := Action.write_of_callTo called
    have other := Setting.name_ne_of_answers resolver none planned
    rw [Entity.Call.valueFor, if_neg]
    rintro ⟨same, _⟩
    exact other ((Value.same_text cell.name _).mp same)
  rw [perform_get calm on, Entity.run_value (calm.total _) (calm.wellFormed _).2 _ rfl rfl,
    unwritten]
  rfl

/-- The answer about the birth date is taken where none is held. -/
theorem act_birth {b : Builder} (calm : b.Calm)
    (empty : (b.entities.get .individual).value (.text "date_naissance") Periods.eternity = .null)
    (s : String) :
    b.act (.birth s) = .quiet { b with
        entities := b.entities.set .individual
          ((b.entities.get .individual).put (.text "date_naissance") Periods.eternity
            (.text s)) } := by
  have free :
      (b.entities.get .individual).isMemberList (.text "date_naissance") = false := by
    rw [Entity.isMemberList_eq (calm.wellFormed _).2, (calm.wellFormed _).1]
    rfl
  have taken : (b.entities.get .individual).verdict (.text "date_naissance") (.text s)
      Periods.eternity "date-naissance" = .taken := by
    rw [Entity.verdict, free, empty]
    rfl
  simp only [Action.birth, act, Entity.call_write_eq (calm.total _), taken]
  rfl

/-- Two birth dates that are rounded alike, and what follows them, leave the same once rounded. -/
theorem perform_birth {b : Builder} (calm : b.Calm)
    (empty : (b.entities.get .individual).value (.text "date_naissance") Periods.eternity = .null)
    {later : List Action} (undated : ∀ a ∈ later, a.Undated) {day : Date} {s t : String}
    (same : BirthDate.roundValue day (.text s) = BirthDate.roundValue day (.text t)) :
    (perform (.birth s :: later) b).builder.rounded day =
      (perform (.birth t :: later) b).builder.rounded day := by
  let born (u : String) : Builder := { b with
    entities := b.entities.set .individual
      ((b.entities.get .individual).put (.text "date_naissance") Periods.eternity (.text u)) }
  have taken (u : String) : b.act (.birth u) = .quiet (born u) := act_birth calm empty u
  have rounded (u : String) :
      (perform (.birth u :: later) b).builder.rounded day =
      (perform later ((born u).rounded day)).builder := by
    have total : ∀ kind, ((born u).entities.get kind).refinements.Total := by
      have kept := act_total calm.total (.birth u)
      rw [taken] at kept
      exact kept
    change ((b.act (.birth u)).andThen (perform later)).builder.rounded day = _
    rw [taken, Stepped.andThen_quiet, perform_rounded day total undated]
  have put (u : String) :
      ((b.entities.get .individual).put (.text "date_naissance") Periods.eternity
          (.text u)).rounded day =
        ((b.entities.get .individual).rounded day).put (.text "date_naissance")
          Periods.eternity (BirthDate.roundValue day (.text u)) :=
    (Entity.put_rounded day _ _ _ _).symm
  have alike : (born s).rounded day = (born t).rounded day := by
    simp only [born, set_rounded, if_true, put, same]
  rw [rounded, rounded, alike]

/-- Two birth dates that are rounded alike leave builders that are the same once rounded. -/
theorem filled_birth {day : Date} {s t : String} (off : options.throwOnError.truthy = false)
    (once : "date-naissance" ∉ Table.keys (before ++ after))
    (same : BirthDate.roundValue day (.text s) = BirthDate.roundValue day (.text t)) :
    ((fresh options (.ofRegistry .standard) periods).filled (before ++
      ("date-naissance", .text s) :: after)
        probes).builder.rounded day =
      ((fresh options (.ofRegistry .standard) periods).filled (before ++
        ("date-naissance", .text t) :: after)
        probes).builder.rounded day := by
  have calm := calm_fresh off (.ofRegistry .standard) periods
  have onceBefore : "date-naissance" ∉ Table.keys before := by
    intro given
    exact once (by simpa [Table.keys] using Or.inl (List.mem_map.mp given))
  have onceAfter : "date-naissance" ∉ Table.keys after := by
    intro given
    exact once (by simpa [Table.keys] using Or.inr (List.mem_map.mp given))
  let setting : Setting := ⟨options, .ofRegistry .standard, periods⟩
  let start := fresh options (.ofRegistry .standard) periods
  have on : (perform (setting.answersPlan before) start).halt = none := by
    rw [perform_halt_eq_none_iff calm.quiet calm.total]
    intro failure inside
    obtain ⟨entry, _, planned⟩ := List.mem_flatMap.mp inside
    exact Setting.fail_not_mem_answerPlan Registry.lawful_standard _ _ _ planned
  let later := setting.answersPlan (after ++ Scholarship.added (before ++ after)) ++
    probes.flatMap setting.probePlan
  have undated : ∀ a ∈ later, a.Undated :=
    Setting.undated_later rfl onceAfter _ (Scholarship.added_key _) probes
  have filled (u : String) :
      (start.filled (before ++ ("date-naissance", .text u) :: after) probes).builder =
      (perform (.birth u :: later) (perform (setting.answersPlan before)
        start).builder).builder := by
    have plan : setting.plan (before ++ ("date-naissance", .text u) :: after) probes =
        setting.answersPlan before ++ .birth u :: later :=
          Setting.plan_birth options periods before after probes u
    rw [filled_eq_perform]
    change (perform (setting.plan _ probes) start).builder = _
    rw [plan, perform_append, Stepped.andThen_of_halt_none on]
  rw [filled s, filled t]
  exact perform_birth (calm_perform calm on) (birth_null rfl onceBefore off on) undated same

/-- So do the strict constructions. -/
theorem strict_birth (off : options.throwOnError.truthy = false) (periods : Periods)
    (probes : List String) {day : Date} {s t : String}
    (once : "date-naissance" ∉ Table.keys (before ++ after))
    (same : BirthDate.roundValue day (.text s) = BirthDate.roundValue day (.text t)) :
    (strictConstruction options (.ofRegistry .standard) periods (before ++
      ("date-naissance", .text s) :: after)
        probes).builder.rounded day =
      (strictConstruction options (.ofRegistry .standard) periods (before ++
        ("date-naissance", .text t) :: after)
        probes).builder.rounded day := by
  have rounded (answers : Answers) :
      (strictConstruction options (.ofRegistry .standard) periods answers
        probes).builder.rounded day =
        (((fresh options (.ofRegistry .standard) periods).filled answers
          probes).builder.rounded
          day).applyDefaults.builder := by
    have on := Registry.lawful_standard.filled_goes_on off periods answers probes
    rw [strictConstruction, Stepped.andThen_of_halt_none on,
      applyDefaults_rounded day (calm_filled off on).total]
  rw [rounded, rounded, filled_birth off once same]

/-- So do the permissive ones. -/
theorem permissive_birth (options : Options) (periods : Periods) (probes : List String)
    {day : Date} {s t : String} (once : "date-naissance" ∉ Table.keys (before ++ after))
    (same : BirthDate.roundValue day (.text s) = BirthDate.roundValue day (.text t)) :
    ∃ first second : Builder,
      permissiveRequest options (.ofRegistry .standard) periods (before ++
        ("date-naissance", .text s) :: after)
        probes = .ok first.request ∧
      permissiveRequest options (.ofRegistry .standard) periods (before ++
        ("date-naissance", .text t) :: after)
        probes = .ok second.request ∧
      first.rounded day = second.rounded day := by
  have off : options.permissive.throwOnError.truthy = false := rfl
  have built (answers : Answers) : ∃ c : Builder,
      permissiveRequest options (.ofRegistry .standard) periods answers probes =
        .ok c.request ∧
      (((fresh options.permissive (.ofRegistry .standard) periods).filled answers
        probes).builder.rounded
        day).clampDefaults = .ok (c.rounded day) := by
    have on := Registry.lawful_standard.filled_goes_on off periods answers probes
    obtain ⟨c, forced, _⟩ := clampDefaults_clamped (calm_filled off on).wellFormed
    refine ⟨c, permissiveRequest_eq_ok on forced, ?_⟩
    rw [clampDefaults_rounded, forced]
    rfl
  obtain ⟨first, requested, forced⟩ :=
    built (before ++ ("date-naissance", .text s) :: after)
  obtain ⟨second, requested', forced'⟩ :=
    built (before ++ ("date-naissance", .text t) :: after)
  rw [filled_birth off once same, forced'] at forced
  exact ⟨first, second, requested, requested', (Except.ok.inj forced).symm⟩

end Birth

end Builder

/-- With birth dates standardized, a compilation under the standard registry depends on a
birth date through the age alone. Two lists of answers are the same but for that about the
birth date, which is the text of a date in both, with the same age on the reference date.
Then both compile, and to the same outcome: the same request or none, the same errors, and
the same use of the permissive request. -/
theorem compile_ageOnly (options : Options) (today : Date) (before after : Answers)
    (probes : List String) (s t : String) (first second : Date)
    (off : options.throwOnError.truthy = false)
    (on : options.standardizeBirthDate.truthy = true)
    (once : "date-naissance" ∉ Table.keys (before ++ after)) (hs : Date.ofIso s = .ok first)
    (ht : Date.ofIso t = .ok second)
    (age : first.age (options.day today) = second.age (options.day today)) :
    ∃ o, compile options .standard today (before ++ ("date-naissance", .text s) :: after)
        probes = .ok o ∧
      compile options .standard today (before ++ ("date-naissance", .text t) :: after)
        probes = .ok o := by
  have same : BirthDate.roundValue (options.day today) (.text s) =
      BirthDate.roundValue (options.day today) (.text t) := by
    simp only [BirthDate.roundValue, hs, ht, BirthDate.rounded, age]
  have strict := Builder.strict_birth off (.ofDate (options.day today)) probes once same
  obtain ⟨permissive, permissive', built, built', forced⟩ :=
    Builder.permissive_birth options (.ofDate (options.day today)) probes once same
  have halt (answers : Answers) :
      (strictConstruction options (.ofRegistry .standard) (.ofDate (options.day today))
      answers probes).halt = none :=
    (Builder.strictConstruction_made off (Registry.lawful_standard.filled_goes_on off _
      answers probes)).halt
  refine ⟨_, compile_eq_report (halt _) built, ?_⟩
  rw [compile_eq_report (halt _) built']
  exact congrArg Except.ok (Options.report_congr on strict.symm forced.symm)

/-- Two people of 22, one of them in another form of date, with an answer that is not known. -/
theorem compile_ageOnly_autumn :
    let options : Options := { standardizeBirthDate := .bool true }
    let today : Date := ⟨2025, 10, 1, by decide⟩
    let after : Answers :=
      [("statut-professionnel", .text "etudiant"), ("couleur", .text "bleu")]
    options.throwOnError.truthy = false ∧ options.standardizeBirthDate.truthy = true ∧
      "date-naissance" ∉ Table.keys ([] ++ after) ∧
      ∃ o, compile options .standard today ([] ++ ("date-naissance", .text "2003-05-04") ::
        after) ["locapass"] = .ok o ∧
        compile options .standard today ([] ++ ("date-naissance", .text "20030120") ::
          after) ["locapass"] = .ok o ∧
        o.usedFallback = true ∧ o.errors.map BuildError.answerKey = ["couleur"] := by
  intro options today after
  have once : "date-naissance" ∉ Table.keys ([] ++ after) := by decide
  have read {text : String} {day : Date} (h : (Date.ofIso text).toOption = some day) :
      Date.ofIso text = .ok day := by
    cases parsed : Date.ofIso text with
    | error fault =>
      rw [parsed] at h
      cases h
    | ok other =>
      rw [parsed] at h
      cases h
      rfl
  obtain ⟨o, first, second⟩ :=
    compile_ageOnly options today [] after ["locapass"] "2003-05-04" "20030120"
      ⟨2003, 5, 4, by decide⟩ ⟨2003, 1, 20, by decide⟩ rfl rfl once (read (by decide +kernel))
      (read (by decide +kernel)) (by decide +kernel)
  have told :
      (compile options .standard today ([] ++
        ("date-naissance", .text "2003-05-04") :: after)
      ["locapass"]).toOption.map (fun o =>
      (o.usedFallback, o.errors.map BuildError.answerKey)) =
        some (true, ["couleur"]) := by
    decide +kernel
  rw [first] at told
  obtain ⟨fallback, errors⟩ := Prod.mk.inj (Option.some.inj told)
  exact ⟨rfl, rfl, once, o, first, second, fallback, errors⟩

end Questionnaire
