import Questionnaire.Proofs.EntityForm
import Questionnaire.Proofs.QuestionDocuments
import Questionnaire.Proofs.StandardCells

/-!
# What documents can describe

A table built by hand can hold mappings that no value passes: one without a meaning, or one
with a period that no date resolves. A document describes none of them. Its dispatchers are
among the given ones, and those of the survey give values that a cell can hold, so what is
given under a registry from a document always comes to a cell, to an unexpected value or to
nothing.
-/

namespace Questionnaire

/-- Every date has a text for the period. -/
def PeriodType.Resolves (type : PeriodType) : Prop :=
  ∀ periods : Periods, ∃ period, periods.resolve type = .ok period

/-- The period types that a document can name. -/
def PeriodType.named : List PeriodType := [.eternity, .year, .rollingYear, .month]

theorem PeriodType.read_eq_ok {v : Value} {type : PeriodType} (done : read v = .ok type) :
    type ∈ named ∧ v = .text type.name := by
  unfold read at done
  split at done <;> cases done <;> simp [named, name]

theorem PeriodType.resolves_of_named {type : PeriodType} (known : type ∈ named) :
    type.Resolves := by
  intro periods
  simp only [named, List.mem_cons, List.not_mem_nil, or_false] at known
  rcases known with rfl | rfl | rfl | rfl <;> exact ⟨_, rfl⟩

namespace Dispatcher

/-- The dispatcher fails at a period only if no date resolves it, and what it gives can be
held by cells. -/
structure Tame (d : Dispatcher) : Prop where
  periods : ∀ {type : PeriodType}, type.Resolves → ∀ key value periods v,
    d.run key value type periods ≠ .error (.period v)
  cells : ∀ {key value type periods expansion},
    d.run key value type periods = .ok expansion →
      ∀ cell ∈ Builder.cells expansion, cell.value.isCell = true

theorem tame_ofCases (name : String) {cases : List (String × List (String × Value))}
    (plain : ∀ entry ∈ cases, ∀ setting ∈ entry.2, setting.2.isCell = true) :
    (ofCases name cases).Tame := by
  constructor
  · intro type resolves key value periods v run
    obtain ⟨period, resolved⟩ := resolves periods
    cases found : cases.find? fun entry => value == .text entry.1 with
    | none => simp [ofCases, resolved, found, bind, Except.bind] at run
    | some entry =>
      simp [ofCases, resolved, found, bind, Except.bind, pure, Except.pure] at run
  · intro key value type periods expansion run cell inside
    obtain ⟨_, _, _, _, entry, listed, setting⟩ := cells_ofCases run inside
    exact plain entry listed _ setting

theorem tame_standard {d : Dispatcher} (known : d ∈ standard) : d.Tame := by
  simp only [standard, List.mem_cons, List.not_mem_nil, or_false] at known
  rcases known with rfl | rfl | rfl | rfl <;>
    exact tame_ofCases _ (by simp [Value.isCell, Value.isNull, Value.isScalar,
      -Prod.forall])

end Dispatcher

/-- The mappings that a document can describe. -/
inductive Mapping.Described (dispatchers : List Dispatcher) : Mapping → Prop where
  | direct (name : Value) {type : PeriodType} (resolves : type.Resolves) : Described
      dispatchers (.direct name type)
  | dispatch {dispatcher : Dispatcher} (listed : dispatcher ∈ dispatchers)
      {type : PeriodType}
      (resolves : type.Resolves) : Described dispatchers (.dispatch dispatcher type)
  | excluded : Described dispatchers .excluded

/-- Only such mappings are in the table. -/
def MappingTable.Described (dispatchers : List Dispatcher) (table : MappingTable) : Prop :=
  ∀ key mapping, (key, some mapping) ∈ table → mapping.Described dispatchers

theorem MappingTable.Described.append {dispatchers : List Dispatcher}
    {first rest : MappingTable} (h : first.Described dispatchers)
    (h' : rest.Described dispatchers) :
    MappingTable.Described dispatchers (first ++ rest) := by
  intro key mapping inside
  rcases List.mem_append.mp inside with inside | inside
  · exact h key mapping inside
  · exact h' key mapping inside

namespace Mapping

variable {dispatchers : List Dispatcher} {key entry : Value}

/-- The mapping that the fields of an entry describe. -/
inductive ReadFrom (dispatchers : List Dispatcher) (fields : List (Value × Value)) :
    Mapping → Prop
  | excluded (given : Value.field? "exclude" fields = some (.bool true)) : ReadFrom
      dispatchers fields .excluded
  | direct {name : Value} {type : PeriodType}
      (counts : Value.field? "exclude" fields ≠ some (.bool true))
      (given : Value.field? "variable" fields = some name) (known : type ∈ PeriodType.named)
      (period : (Value.field? "period" fields).getD (.text "MONTH") = .text type.name) :
      ReadFrom dispatchers fields (.direct name type)
  | dispatch {dispatcher : Dispatcher} {type : PeriodType}
      (counts : Value.field? "exclude" fields ≠ some (.bool true))
      (unset : Value.field? "variable" fields = none) (listed : dispatcher ∈ dispatchers)
      (given : Value.field? "dispatch" fields = some (.text dispatcher.name))
      (known : type ∈ PeriodType.named)
      (period : (Value.field? "period" fields).getD (.text "MONTH") = .text type.name) :
      ReadFrom dispatchers fields (.dispatch dispatcher type)

theorem period_of_readPeriod {fields : List (Value × Value)} {type : PeriodType}
    (done : readPeriod key fields = .ok type) :
    type ∈ PeriodType.named ∧ (Value.field? "period" fields).getD (.text "MONTH") =
      .text type.name := by
  unfold readPeriod at done
  dsimp only at done
  split at done
  · rename_i read
    cases done
    exact PeriodType.read_eq_ok read
  · cases done

theorem readFrom_of_ofValue {mapping : Mapping}
    (done : ofValue dispatchers key entry = .ok mapping) :
    ∃ fields, entry = .map fields ∧ mapping.ReadFrom dispatchers fields := by
  unfold ofValue at done
  split at done
  · rename_i fields
    refine ⟨fields, rfl, ?_⟩
    split at done
    · cases done
      exact .excluded ‹_›
    · rename_i counts
      obtain ⟨type, read, done⟩ := bind_eq_ok_iff.mp done
      obtain ⟨known, period⟩ := period_of_readPeriod read
      split at done
      · rename_i given
        cases done
        exact .direct counts given known period
      · rename_i name unset given
        split at done
        · cases done
        · split at done
          · rename_i dispatcher found
            cases done
            have kept := List.find?_some found
            have same : name = .text dispatcher.name := (Value.same_text _ _).mp kept
            exact .dispatch counts unset (List.mem_of_find?_eq_some found) (same ▸ given)
              known period
          · cases done
      · cases done
  · cases done

theorem described_of_ofValue {mapping : Mapping}
    (done : ofValue dispatchers key entry = .ok mapping) :
    mapping.Described dispatchers := by
  obtain ⟨fields, rfl, read⟩ := readFrom_of_ofValue done
  cases read with
  | excluded => exact .excluded
  | direct _ _ known => exact .direct _ (PeriodType.resolves_of_named known)
  | dispatch _ _ listed _ known =>
    exact .dispatch listed (PeriodType.resolves_of_named known)

end Mapping

namespace Registry

variable {dispatchers : List Dispatcher} {document : Value}

theorem described_of_readPart {part : String} {content : Value} {table : MappingTable}
    (done : readPart dispatchers part content = .ok table) :
    table.Described dispatchers := by
  obtain ⟨entries, _, done⟩ := bind_eq_ok_iff.mp done
  intro key mapping inside
  obtain ⟨⟨name, entry⟩, _, done⟩ := exists_of_mem_mapM done inside
  obtain ⟨read, described, done⟩ := bind_eq_ok_iff.mp done
  cases done
  exact Mapping.described_of_ofValue described

theorem described_of_readKind {kind : EntityKind} {tables : MappingTable × MappingTable}
    (done : readKind dispatchers document kind = .ok tables) :
    tables.1.Described dispatchers ∧ tables.2.Described dispatchers := by
  unfold readKind at done
  split at done
  · obtain ⟨answers, first, done⟩ := bind_eq_ok_iff.mp done
    obtain ⟨probes, second, done⟩ := bind_eq_ok_iff.mp done
    cases done
    exact ⟨described_of_readPart first, described_of_readPart second⟩
  · cases done

theorem tables_of_ofParts {answers probes : PerKind MappingTable} {r : Registry}
    (done : ofParts answers probes = .ok r) (kind : EntityKind) :
    r.tables.get kind = answers.get kind ++ probes.get kind := by
  unfold ofParts at done
  dsimp only at done
  split at done
  · cases done
    exact PerKind.get_ofFunction _ kind
  · split at done <;> cases done

/-- A registry from a document has described mappings only. -/
theorem described_of_ofValue {r : Registry} (done : ofValue dispatchers document = .ok r)
    (kind : EntityKind) : (r.tables.get kind).Described dispatchers := by
  obtain ⟨keys, _, done⟩ := bind_eq_ok_iff.mp done
  obtain ⟨unknown, _, done⟩ := bind_eq_ok_iff.mp done
  split at done
  · cases done
  · obtain ⟨individual, first, done⟩ := bind_eq_ok_iff.mp done
    obtain ⟨household, second, done⟩ := bind_eq_ok_iff.mp done
    obtain ⟨tax, third, done⟩ := bind_eq_ok_iff.mp done
    obtain ⟨family, fourth, done⟩ := bind_eq_ok_iff.mp done
    rw [tables_of_ofParts done]
    cases kind with
    | individual =>
      exact (described_of_readKind first).1.append (described_of_readKind first).2
    | household =>
      exact (described_of_readKind second).1.append (described_of_readKind second).2
    | taxHousehold =>
      exact (described_of_readKind third).1.append (described_of_readKind third).2
    | family =>
      exact (described_of_readKind fourth).1.append (described_of_readKind fourth).2

theorem described_of_mapping? {r : Registry} (done : ofValue dispatchers document = .ok r)
    {key : Value} {mapping : Mapping} (found : r.mapping? key = some mapping) :
    mapping.Described dispatchers := by
  obtain ⟨kind, other, there, _⟩ := mem_of_mapping? found
  exact described_of_ofValue done kind other mapping there

end Registry

/-- What a described mapping gives for a value that a cell can hold are values that cells
can hold, and it fails at no period. -/
theorem Mapping.Described.expand {dispatchers : List Dispatcher}
    (tame : ∀ d ∈ dispatchers, d.Tame) {mapping : Mapping}
    (h : mapping.Described dispatchers) (counts : mapping ≠ .excluded) (periods : Periods)
    (key : String) {value : Value} (cell : value.isCell = true) :
    ∃ result, Builder.expand periods key value mapping = some result ∧
      (∀ v, result ≠ .error (.period v)) ∧
      ∀ expansion, result = .ok expansion → ∀ cell ∈ Builder.cells expansion,
        cell.value.isCell = true := by
  cases h with
  | excluded => exact absurd rfl counts
  | dispatch listed resolves =>
    exact ⟨_, rfl, (tame _ listed).periods resolves key value periods, fun _ done =>
      (tame _ listed).cells done⟩
  | direct name resolves =>
    obtain ⟨period, resolved⟩ := resolves periods
    refine ⟨_, rfl, ?_, ?_⟩
    · intro v done
      simp only [resolved, bind, Except.bind] at done
      split at done <;> cases done
    · intro expansion done written inside
      have expanded : Builder.expand periods key value (.direct name _) =
          some (.ok expansion) := congrArg some done
      obtain ⟨_, _, cells⟩ := Builder.expand_direct expanded
      rw [cells, List.mem_singleton] at inside
      rw [inside]
      exact cell

end Questionnaire
