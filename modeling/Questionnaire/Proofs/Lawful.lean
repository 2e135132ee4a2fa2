import Questionnaire.Proofs.StandardCells

/-!
# Registries that never stop a builder

A builder reports what it knows to be wrong with an answer and stops at any other failure.
Under a lawful registry there is none: the names of direct mappings can be keys, and a
dispatcher fails only in the ways that a builder reports. The standard registry is lawful.
-/

namespace Questionnaire

/-- The failures of a dispatcher that a builder takes for an error of the answer. -/
def Failure.isReported : Failure → Bool
  | .period _ => true
  | .dispatch _ _ => true
  | .unexpectedValue _ _ => true
  | _ => false

namespace Dispatcher

/-- Whatever the answer, the dispatcher fails only in ways that a builder reports. -/
def Reports (d : Dispatcher) : Prop :=
  ∀ key value type periods failure, d.run key value type periods = .error failure →
    failure.isReported = true

/-- Whatever the answer, the names that the dispatcher gives values for can be keys. -/
def Keyed (d : Dispatcher) : Prop :=
  ∀ key value type periods expansion, d.run key value type periods = .ok expansion →
    ∀ entry ∈ expansion, entry.1.isKey = true

end Dispatcher

namespace Registry

/-- What the dispatchers of the registry give are maps: the names can be keys. -/
def Keyed (r : Registry) : Prop :=
  ∀ kind key dispatcher type, (key, some (.dispatch dispatcher type)) ∈ r.tables.get kind →
    dispatcher.Keyed

/-- Nothing in the registry stops a builder. -/
structure Lawful (r : Registry) : Prop where
  names : ∀ kind key name type, (key, some (.direct name type)) ∈ r.tables.get kind →
    name.isKey = true
  reports : ∀ kind key dispatcher type,
    (key, some (.dispatch dispatcher type)) ∈ r.tables.get kind → dispatcher.Reports

end Registry

theorem Periods.isReported_of_resolve {periods : Periods} {type : PeriodType}
    {failure : Failure} (h : periods.resolve type = .error failure) :
    failure.isReported = true := by
  cases type with
  | other value =>
    cases h
    rfl
  | _ => cases h

namespace Dispatcher

/-- A dispatcher by cases fails at unknown answers and unknown periods alone. -/
theorem reports_ofCases (name : String) (cases : List (String × List (String × Value))) :
    (ofCases name cases).Reports := by
  intro key value type periods failure run
  cases resolved : periods.resolve type with
  | error cause =>
    simp only [ofCases, resolved, bind, Except.bind, Except.error.injEq] at run
    rw [← run]
    exact Periods.isReported_of_resolve resolved
  | ok period =>
    cases found : cases.find? fun entry => value == .text entry.1 with
    | none =>
      simp only [ofCases, resolved, found, bind, Except.bind, Except.error.injEq] at run
      rw [← run]
      rfl
    | some entry =>
      simp [ofCases, resolved, found, bind, Except.bind, pure, Except.pure] at run

/-- The names that a dispatcher by cases gives values for are texts. -/
theorem isText_of_ofCases {name : String} {cases : List (String × List (String × Value))}
    {key : String} {value : Value} {type : PeriodType} {periods : Periods}
    {expansion : Expansion}
    (run : (ofCases name cases).run key value type periods = .ok expansion) :
    ∀ entry ∈ expansion, entry.1.isText = true := by
  intro entry inside
  cases resolved : periods.resolve type with
  | error cause => simp [ofCases, resolved, bind, Except.bind] at run
  | ok period =>
    cases found : cases.find? fun entry => value == .text entry.1 with
    | none => simp [ofCases, resolved, found, bind, Except.bind] at run
    | some known =>
      simp only [ofCases, resolved, found, bind, Except.bind, pure, Except.pure,
        Except.ok.injEq] at run
      rw [← run] at inside
      obtain ⟨setting, _, rfl⟩ := List.mem_map.mp inside
      rfl

theorem keyed_ofCases (name : String) (cases : List (String × List (String × Value))) :
    (ofCases name cases).Keyed := by
  intro key value type periods expansion run entry inside
  have text := isText_of_ofCases run entry inside
  cases named : entry.1 with
  | text s => rfl
  | _ => simp [named, Value.isText] at text

end Dispatcher

namespace Registry

theorem lawful_standard : standard.Lawful := by
  constructor
  · intro kind key name type there
    cases Standard.regularEntry there _ rfl
    rfl
  · intro kind key dispatcher type there
    cases Standard.regularEntry there _ rfl
    exact Dispatcher.reports_ofCases _ _

theorem keyed_standard : standard.Keyed := by
  intro kind key dispatcher type there
  cases Standard.regularEntry there _ rfl
  exact Dispatcher.keyed_ofCases _ _

end Registry

/-- Under a lawful registry, an expansion fails only in ways that a builder reports. -/
theorem Registry.Lawful.isReported {r : Registry} (h : r.Lawful) {lookup : Value}
    {mapping : Mapping} (found : r.mapping? lookup = some mapping) {periods : Periods}
    {key : String} {value : Value} {failure : Failure}
    (expanded : Builder.expand periods key value mapping = some (.error failure)) :
    failure.isReported = true := by
  obtain ⟨kind, other, there, _⟩ := mem_of_mapping? found
  cases mapping with
  | direct name type =>
    have named := h.names kind other name type there
    cases resolved : periods.resolve type with
    | error cause =>
      simp only [Builder.expand, resolved, bind, Except.bind, Option.some.injEq,
        Except.error.injEq] at expanded
      rw [← expanded]
      exact Periods.isReported_of_resolve resolved
    | ok period =>
      simp [Builder.expand, resolved, named, bind, Except.bind, pure,
        Except.pure] at expanded
  | dispatch dispatcher type =>
    simp only [Builder.expand, Option.some.injEq] at expanded
    exact h.reports kind other dispatcher type there key value type periods failure expanded
  | excluded => cases expanded
  | other => cases expanded

/-- A name that an answer means is the name of a direct mapping, or a dispatcher gives
values for it. -/
theorem Registry.name_of_means {r : Registry} {s : Setting}
    (resolver : s.resolver = .ofRegistry r) {key : String} {value : Value}
    {kind : EntityKind} {expansion : Expansion} (means : s.Means key value kind expansion)
    {cell : Builder.Cell} (inside : cell ∈ Builder.cells expansion) :
    (cell.name.isKey = true ∧ ∃ owner other type, (other, some (.direct cell.name type)) ∈
      r.tables.get owner) ∨
      ∃ owner other dispatcher type,
        (other, some (.dispatch dispatcher type)) ∈ r.tables.get owner ∧
        dispatcher.run key value type s.periods = .ok expansion ∧
          ∃ values, (cell.name, values) ∈ expansion := by
  obtain ⟨mapping, found, _, expanded⟩ := means
  rw [resolver] at found
  obtain ⟨owner, other, there, _⟩ := mem_of_mapping? found
  cases mapping with
  | direct name type =>
    obtain ⟨period, _, cells⟩ := Builder.expand_direct expanded
    rw [cells, List.mem_singleton] at inside
    rw [inside]
    exact Or.inl ⟨Builder.isKey_of_expand_direct expanded, owner, other, type, there⟩
  | dispatch dispatcher type =>
    simp only [Builder.expand, Option.some.injEq] at expanded
    obtain ⟨values, entry, _⟩ := Builder.mem_cells.mp inside
    exact Or.inr ⟨owner, other, dispatcher, type, there, expanded, values, entry⟩
  | excluded => cases expanded
  | other => cases expanded

/-- Whatever an answer means under a keyed registry, it means for names that can be keys. -/
theorem Registry.Keyed.isKey {r : Registry} (h : r.Keyed) {s : Setting}
    (resolver : s.resolver = .ofRegistry r) {key : String} {value : Value}
    {kind : EntityKind} {expansion : Expansion} (means : s.Means key value kind expansion)
    {cell : Builder.Cell} (inside : cell ∈ Builder.cells expansion) :
    cell.name.isKey = true := by
  rcases name_of_means resolver means inside with
    ⟨isKey, _⟩ | ⟨owner, other, dispatcher, type, there, run, values, entry⟩
  · exact isKey
  · exact h owner other dispatcher type there key value type s.periods expansion run _ entry

namespace Setting

/-- A step fails only if its expansion fails in a way that is not reported. -/
theorem fail_mem_settle {owner : Owner} {key : String}
    {expanded : Option (Except Failure Expansion)} {failure : Failure}
    (h : Action.fail failure ∈ settle owner key expanded) :
    expanded = some (.error failure) ∧ failure.isReported = false := by
  have unrouted (expansion : Expansion) :
      Action.fail failure ∉ route key expansion owner := by
    cases owner with
    | unknown name => simp [route]
    | kind kind =>
      intro inside
      obtain ⟨cell, _, same⟩ := List.mem_map.mp inside
      unfold Action.ofCell at same
      split at same <;> cases same
  cases expanded with
  | none => simp [settle] at h
  | some result =>
    cases result with
    | ok expansion => exact absurd h (unrouted expansion)
    | error cause => cases cause <;> simp_all [settle, Failure.isReported]

variable {r : Registry} {options : Options} {periods : Periods}

theorem fail_not_mem_answerPlan (lawful : r.Lawful) (key : String) (answer : Value)
    (failure : Failure) :
    Action.fail failure ∉ (⟨options, .ofRegistry r, periods⟩ : Setting).answerPlan key
      answer := by
  intro inside
  have shape := (⟨options, .ofRegistry r, periods⟩ : Setting).answerCase key answer
  generalize Setting.answerPlan _ key answer = plan at inside shape
  cases shape with
  | idle => cases inside
  | told => simp at inside
  | unowned => simp at inside
  | settled mapping owner given scalar found counts owned =>
    obtain ⟨expanded, unreported⟩ := fail_mem_settle inside
    rw [lawful.isReported found expanded] at unreported
    cases unreported

theorem fail_not_mem_probePlan (lawful : r.Lawful) (key : String) (failure : Failure) :
    Action.fail failure ∉ (⟨options, .ofRegistry r, periods⟩ : Setting).probePlan key := by
  intro inside
  have shape := (⟨options, .ofRegistry r, periods⟩ : Setting).probeCase key
  generalize Setting.probePlan _ key = plan at inside shape
  cases shape with
  | unknown => simp at inside
  | unowned => simp at inside
  | indirect => simp at inside
  | settled name type owner found owned =>
    obtain ⟨expanded, unreported⟩ := fail_mem_settle inside
    rw [lawful.isReported found expanded] at unreported
    cases unreported

theorem fail_not_mem_plan (lawful : r.Lawful) (answers : Answers) (probes : List String)
    (failure : Failure) :
    Action.fail failure ∉ (⟨options, .ofRegistry r, periods⟩ : Setting).plan answers probes := by
  intro inside
  rcases List.mem_append.mp inside with inside | inside
  · obtain ⟨entry, _, inside⟩ := List.mem_flatMap.mp inside
    exact fail_not_mem_answerPlan lawful _ _ _ inside
  · obtain ⟨key, _, inside⟩ := List.mem_flatMap.mp inside
    exact fail_not_mem_probePlan lawful _ _ inside

end Setting

/-- Under a lawful registry nothing stops a builder that is filled, if it does not throw. -/
theorem Registry.Lawful.filled_goes_on {r : Registry} (lawful : r.Lawful)
    {options : Options} (off : options.throwOnError.truthy = false) (periods : Periods)
    (answers : Answers) (probes : List String) :
    ((Builder.fresh options (.ofRegistry r) periods).filled answers probes).halt = none := by
  have calm := Builder.calm_fresh off (.ofRegistry r) periods
  rw [Builder.filled_eq_perform, Builder.perform_halt_eq_none_iff calm.quiet calm.total]
  exact Setting.fail_not_mem_plan lawful answers probes

end Questionnaire
