import Questionnaire.Proofs.Provenance
import Questionnaire.Registry.Standard

/-!
# The cells of the standard registry

No answer to the survey and no probe sets the moving date. The level of study is set for the
current month only, and whether a student moves is a truth value or not set at all.
-/

namespace Questionnaire

theorem Registry.mem_of_mapping? {r : Registry} {key : Value} {mapping : Mapping}
    (found : r.mapping? key = some mapping) :
    ∃ kind other, (other, some mapping) ∈ r.tables.get kind ∧ (other == key) = true := by
  obtain ⟨⟨kind, table⟩, inside, held⟩ := List.exists_of_findSome?_eq_some found
  obtain ⟨kind', _, same⟩ := List.mem_map.mp inside
  cases same
  obtain ⟨other, there, equal⟩ := Table.mem_of_get? (Option.join_eq_some_iff.mp held)
  exact ⟨kind, other, there, equal⟩

namespace Dispatcher

/-- What a dispatcher by cases gives are the settings of one of its cases, in the period of
its type. -/
theorem cells_eq_ofCases {name : String} {cases : List (String × List (String × Value))}
    {key : String} {answer : Value} {type : PeriodType} {periods : Periods}
    {expansion : Expansion}
    (run : (ofCases name cases).run key answer type periods = .ok expansion) :
    ∃ period, periods.resolve type = .ok period ∧ ∃ entry ∈ cases,
      Builder.cells expansion = entry.2.map fun setting =>
        ⟨.text setting.1, period, setting.2⟩ := by
  cases resolved : periods.resolve type with
  | error failure => simp [ofCases, resolved, bind, Except.bind] at run
  | ok period =>
    cases found : cases.find? fun entry => answer == .text entry.1 with
    | none => simp [ofCases, resolved, found, bind, Except.bind] at run
    | some entry =>
      simp only [ofCases, resolved, found, bind, Except.bind, pure, Except.pure,
        Except.ok.injEq] at run
      subst run
      refine ⟨period, rfl, entry, List.mem_of_find?_eq_some found, ?_⟩
      rw [Builder.cells, List.flatMap_map, List.map_eq_flatMap]
      rfl

theorem cells_ofCases {name : String} {cases : List (String × List (String × Value))}
    {key : String} {answer : Value} {type : PeriodType} {periods : Periods}
    {expansion : Expansion}
    (run : (ofCases name cases).run key answer type periods = .ok expansion)
    {cell : Builder.Cell} (h : cell ∈ Builder.cells expansion) :
    ∃ period written, periods.resolve type = .ok period ∧
      cell = ⟨.text written, period, cell.value⟩ ∧
      ∃ entry ∈ cases, (written, cell.value) ∈ entry.2 := by
  obtain ⟨period, resolved, entry, listed, cells⟩ := cells_eq_ofCases run
  rw [cells] at h
  obtain ⟨⟨written, v⟩, setting, rfl⟩ := List.mem_map.mp h
  exact ⟨period, written, resolved, rfl, entry, listed, setting⟩

end Dispatcher

namespace Registry.Standard

/-- The entries of the standard registry: variables, the dispatchers of the survey, and
excluded keys. -/
inductive Entry : Value × Option Mapping → Prop where
  | direct (key name : String) (type : PeriodType) : Entry (Standard.direct key name type)
  | dispatched (key : String) {dispatcher : Dispatcher} (type : PeriodType)
      (known : dispatcher ∈ Dispatcher.standard) :
          Entry (Standard.dispatched key dispatcher type)
  | excluded (key : String) : Entry (Standard.excluded key)

theorem entry_of_mem {kind : EntityKind} {entry : Value × Option Mapping}
    (h : entry ∈ standard.tables.get kind) : Entry entry := by
  have dispatched (key : String) (type : PeriodType) :
      ∀ dispatcher ∈ Dispatcher.standard, Entry (Standard.dispatched key dispatcher type) :=
    fun _ known => .dispatched key type known
  simp only [Dispatcher.standard, List.forall_mem_cons] at dispatched
  revert entry
  cases kind <;>
    simp [standard, PerKind.get, individualAnswers, individualProbes, householdAnswers,
      householdProbes, taxHouseholdAnswers, taxHouseholdProbes, familyAnswers, familyProbes,
      or_imp, forall_and, Entry.direct, Entry.excluded, dispatched]

theorem dispatcher_known {kind : EntityKind} {key : Value} {dispatcher : Dispatcher}
    {type : PeriodType}
    (there : (key, some (.dispatch dispatcher type)) ∈ standard.tables.get kind) :
    dispatcher ∈ Dispatcher.standard := by
  generalize same : (key, some (Mapping.dispatch dispatcher type)) = entry at there
  cases entry_of_mem there with
  | direct asked name period => cases same
  | dispatched asked period known =>
    cases same
    exact known
  | excluded asked => cases same

/-- The key, the name and the period type of every direct mapping pass a test. -/
def directsPass (test : String → String → PeriodType → Bool) : Bool :=
  EntityKind.all.all fun kind => (standard.tables.get kind).all fun
    | (.text key, some (.direct (.text name) type)) => test key name type
    | _ => true

theorem test_of_mem (test : String → String → PeriodType → Bool)
    (pass : directsPass test = true) {kind : EntityKind} {key name : String}
    {type : PeriodType} (there : Standard.direct key name type ∈ standard.tables.get kind) :
    test key name type = true :=
  List.all_eq_true.mp (List.all_eq_true.mp pass kind kind.mem_all) _ there

/-- What holds of every cell that is written under the standard registry. -/
structure Regular (periods : Periods) (cell : Builder.Cell) : Prop where
  date : cell.name ≠ .text "date_entree_logement"
  level : cell.name = .text "annee_etude" → cell.period = periods.month
  mobility :
      cell.name = .text "sortie_academie" ∨ cell.name = .text "sortie_region_academique" →
    ∃ b, cell.value = .bool b

/-- A dispatcher leaves the moving date and the level alone, and sets a move to a truth value. -/
def RegularCases (cases : List (String × List (String × Value))) : Prop :=
  ∀ entry ∈ cases, ∀ setting ∈ entry.2, setting.1 ≠ "date_entree_logement" ∧
    setting.1 ≠ "annee_etude" ∧
    (setting.1 = "sortie_academie" ∨ setting.1 = "sortie_region_academique" →
      ∃ b, setting.2 = .bool b)

/-- What holds of every mapping of the standard registry. -/
inductive RegularMapping : Mapping → Prop where
  | direct (name : String) (type : PeriodType)
      (free : name ∉ ["date_entree_logement", "sortie_academie",
        "sortie_region_academique"])
      (level : name = "annee_etude" → type = .month) :
          RegularMapping (.direct (.text name) type)
  | dispatch (name : String) (cases : List (String × List (String × Value)))
      (type : PeriodType)
      (regular : RegularCases cases) : RegularMapping (.dispatch (.ofCases name cases) type)
  | excluded : RegularMapping .excluded

/-- What holds of every entry of the standard registry. -/
def RegularEntry (entry : Value × Option Mapping) : Prop :=
  ∀ mapping, entry.2 = some mapping → RegularMapping mapping

/-- What every direct mapping must be for its entry to be regular. -/
def regularDirect (name : String) (type : PeriodType) : Bool :=
  !(["date_entree_logement", "sortie_academie",
    "sortie_region_academique"].contains name) &&
    match type with
    | .month => true
    | _ => name != "annee_etude"

theorem regularEntry {kind : EntityKind} {entry : Value × Option Mapping}
    (h : entry ∈ standard.tables.get kind) : RegularEntry entry := by
  intro mapping same
  cases entry_of_mem h with
  | direct key name type =>
    cases same
    have regular := test_of_mem (fun _ => regularDirect) (by decide) h
    obtain ⟨free, level⟩ := Bool.and_eq_true_iff.mp regular
    refine .direct name type (by simpa using free) ?_
    intro named
    cases type with
    | month => rfl
    | _ => simp [named] at level
  | dispatched key type known =>
    cases same
    simp only [Dispatcher.standard, List.mem_cons, List.not_mem_nil, or_false] at known
    rcases known with rfl | rfl | rfl | rfl <;>
      exact .dispatch _ _ type (by simp [RegularCases, -Prod.forall])
  | excluded key =>
    cases same
    exact .excluded

/-- The cells of the standard registry are regular. -/
theorem regular_of_means {s : Setting} (resolver : s.resolver = .ofRegistry standard)
    {key : String} {value : Value} {kind : EntityKind} {expansion : Expansion}
    (means : s.Means key value kind expansion) {cell : Builder.Cell}
    (h : cell ∈ Builder.cells expansion) : Regular s.periods cell := by
  obtain ⟨mapping, found, _, expanded⟩ := means
  rw [resolver] at found
  obtain ⟨owner, other, there, _⟩ := mem_of_mapping? found
  cases regularEntry there mapping rfl with
  | excluded => cases expanded
  | direct name type free level =>
    obtain ⟨period, resolved, cells⟩ := Builder.expand_direct expanded
    rw [cells, List.mem_singleton] at h
    subst h
    simp only [List.mem_cons, List.not_mem_nil, or_false, not_or] at free
    constructor
    · simpa using free.1
    · intro h
      rw [level (by simpa using h)] at resolved
      cases resolved
      rfl
    · intro h
      simp [free] at h
  | dispatch name cases type regular =>
    simp only [Builder.expand, Option.some.injEq] at expanded
    obtain ⟨period, written, _, same, entry, inside, setting⟩ :=
      Dispatcher.cells_ofCases expanded h
    obtain ⟨date, level, mobility⟩ := regular entry inside (written, cell.value) setting
    have named : cell.name = .text written := by rw [same]
    constructor
    · simpa [named] using date
    · intro h
      exact absurd (by simpa [named] using h) level
    · intro h
      exact mobility (by simpa [named] using h)

/-- Every write that is planned under the standard registry is regular. -/
theorem regular_of_plan {s : Setting} (resolver : s.resolver = .ofRegistry standard)
    {answers : Answers} {probes : List String} {kind : EntityKind} {answerKey : String}
    {cell : Builder.Cell} (h : Action.write kind answerKey cell ∈ s.plan answers probes) :
    Regular s.periods cell := by
  rcases Setting.write_mem_plan h with
    ⟨_, _, _, _, _, expansion, means, inside⟩ | ⟨_, _, _, _, expansion, means, inside⟩
  · exact regular_of_means resolver means inside
  · exact regular_of_means resolver means inside

/-- The variables that the dispatchers of the survey set. -/
def dispatchedNames : List String :=
  ["stagiaire", "alternant", "statut_occupation_logement", "sortie_academie",
    "sortie_region_academique"]

/-- A dispatcher of the survey sets no other variable. -/
theorem name_of_dispatcher {dispatcher : Dispatcher}
    (known : dispatcher ∈ Dispatcher.standard) {key : String} {value : Value}
    {type : PeriodType} {periods : Periods} {expansion : Expansion}
    (run : dispatcher.run key value type periods = .ok expansion) {cell : Builder.Cell}
    (inside : cell ∈ Builder.cells expansion) :
    ∃ name ∈ dispatchedNames, cell.name = .text name := by
  simp only [Dispatcher.standard, List.mem_cons, List.not_mem_nil, or_false] at known
  rcases known with rfl | rfl | rfl | rfl
  all_goals
    obtain ⟨period, written, _, same, entry, listed, set⟩ :=
      Dispatcher.cells_ofCases run inside
    refine ⟨written, ?_, by rw [same]⟩
    simp only [List.mem_cons, List.not_mem_nil, or_false] at listed
    simp only [dispatchedNames, List.mem_cons, List.not_mem_nil, or_false]
    rcases listed with rfl | rfl | rfl | rfl <;> simp at set <;> grind

end Registry.Standard

namespace Builder

/-- A builder that has been filled under the standard registry lacks a moving date, has a
level of study for the current month at most, and knows of a move whether it takes place, if
anything. -/
structure StandardFilled (b : Builder) : Prop where
  date : Table.get? (b.entities.get .household).values (.text "date_entree_logement") = none
  level : ∀ cells, Table.get? (b.entities.get .individual).values (.text "annee_etude") =
    some cells →
    ∃ v, cells = [(b.periods.month, v)]
  mobility : ∀ name, name = "sortie_academie" ∨ name = "sortie_region_academique" →
    b.current .individual name = .null ∨ ∃ set, b.current .individual name = .bool set

section Filled

variable {options : Options} {periods : Periods} {answers : Answers} {probes : List String}

/-- What is written to fill a builder under the standard registry is regular. -/
theorem regular_of_callTo {kind : EntityKind} {name value : Value}
    {period answerKey : String}
    (h : Entity.Call.write name value period answerKey ∈
      ((⟨options, .ofRegistry .standard, periods⟩ : Setting).plan answers probes).filterMap
        (Action.callTo kind)) :
    Registry.Standard.Regular periods ⟨name, period, value⟩ := by
  obtain ⟨key, cell, planned, same⟩ := Action.write_of_callTo h
  cases same
  exact Registry.Standard.regular_of_plan rfl planned

theorem get?_movingDate_filled (off : options.throwOnError.truthy = false)
    (on : ((fresh options (.ofRegistry .standard) periods).filled answers probes).halt = none) :
    Table.get? (((fresh options (.ofRegistry .standard) periods).filled answers
      probes).builder.entities.get
      .household).values (.text "date_entree_logement") = none := by
  have absent :
      Entity.hasVariable (((fresh options (.ofRegistry .standard) periods).filled answers
      probes).builder.entities.get .household) (.text "date_entree_logement") = false := by
    rw [filled_get off on, Entity.run_hasVariable (Entity.total_ofKind _)
      (Entity.membersOfLayout_ofKind _) _ rfl
      (free_of_needed movingDate_needed)]
    simp only [Entity.ofKind, Entity.fresh, Entity.hasVariable, Table.contains,
      Table.get?_nil, Option.isSome_none, Bool.false_or, List.any_eq_false]
    intro c inside writes
    cases c with
    | addMember field id => cases writes
    | write name value period answerKey =>
      exact (regular_of_callTo inside).date ((Value.same_text name _).mp writes)
  simpa [Entity.hasVariable, Table.contains] using absent

theorem get?_level_filled (off : options.throwOnError.truthy = false)
    (on : ((fresh options (.ofRegistry .standard) periods).filled answers probes).halt =
      none)
    {cells : ByPeriod}
    (found : Table.get? (((fresh options (.ofRegistry .standard) periods).filled answers
      probes).builder.entities.get .individual).values (.text "annee_etude") = some cells) :
    ∃ v, cells = [(periods.month, v)] := by
  rw [filled_get off on] at found
  apply Entity.get?_values_run (Entity.total_ofKind _) rfl ?_ ?_ found
  · intro cells h
    cases h
  · intro name value period answerKey inside same
    exact (regular_of_callTo inside).level ((Value.same_text name _).mp same)

theorem value_mobility_filled (off : options.throwOnError.truthy = false)
    (on : ((fresh options (.ofRegistry .standard) periods).filled answers probes).halt =
      none)
    {name : String} (hname : name = "sortie_academie" ∨ name = "sortie_region_academique")
    (period : String) :
    let v := (((fresh options (.ofRegistry .standard) periods).filled answers
      probes).builder.entities.get
      .individual).value (.text name) period
    v = .null ∨ ∃ set, v = .bool set := by
  rw [filled_get off on, Entity.value_eq_cell?]
  generalize hcalls :
      ((⟨options, .ofRegistry .standard, periods⟩ : Setting).plan answers probes).filterMap
    (Action.callTo .individual) = calls
  cases found : ((Entity.ofKind .individual).run calls).cell? (.text name) period with
  | none => exact Or.inl rfl
  | some v =>
    right
    obtain ⟨key, same, inside⟩ := Entity.mem_cells_of_cell? found
    rcases Entity.mem_cells_run (Entity.total_ofKind _) inside with
      start | ⟨c, called, written, answerKey, rfl, as⟩
    · cases start
    · have named : written = .text name := by
        have hkey : key = .text name := (Value.same_text key name).mp same
        rcases as with as | as
        · exact as.symm.trans hkey
        · rw [hkey] at as
          exact (Value.text_same name written).mp as
      rw [← hcalls] at called
      apply (regular_of_callTo called).mobility
      rw [named]
      simpa using hname

theorem standardFilled (off : options.throwOnError.truthy = false)
    (on : ((fresh options (.ofRegistry .standard) periods).filled answers probes).halt = none) :
    ((fresh options (.ofRegistry .standard) periods).filled answers
      probes).builder.StandardFilled := by
  have month :
      ((fresh options (.ofRegistry .standard) periods).filled answers
        probes).builder.periods = periods :=
    congrArg Setting.periods (filled_setting options _ periods answers probes)
  constructor
  · exact get?_movingDate_filled off on
  · intro cells found
    rw [month]
    exact get?_level_filled off on found
  · intro name hname
    exact value_mobility_filled off on hname _

end Filled

end Builder

end Questionnaire
