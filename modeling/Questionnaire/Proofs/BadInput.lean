import Questionnaire.Proofs.Lawful
import Questionnaire.Proofs.Report

/-!
# No answer stops a compilation

Under a lawful registry a compilation has an outcome, whatever was answered. The errors are
those of the strict construction. Without any, the request is the strict one; with some, it
is the permissive one or none, as the options say.
-/

namespace Questionnaire

/-- What an outcome tells of a strict and a permissive builder. -/
structure Outcome.Tells (options : Options) (day : Date) (strict permissive : Builder)
    (o : Outcome) : Prop where
  errors : o.errors = strict.allErrors
  clean_iff : o.errors = [] ↔ o.request = some (options.delivered day strict) ∧
    o.usedFallback = false
  request_iff : o.errors ≠ [] → (o.request.isSome = true ↔ options.fallback.truthy = true)
  usedFallback_iff : o.usedFallback = true ↔ o.errors ≠ [] ∧ o.request.isSome = true
  request_of_usedFallback :
      o.usedFallback = true → o.request = some (options.delivered day permissive)

theorem Options.report_tells (options : Options) (day : Date)
    (strict permissive : Builder) :
    (options.report day strict permissive).Tells options day strict permissive := by
  unfold report
  by_cases clean : strict.allErrors = []
  · rw [if_pos clean]
    constructor <;> simp [clean]
  · rw [if_neg clean]
    by_cases allowed : options.fallback.truthy = true
    · rw [if_pos allowed]
      constructor <;> simp [clean, allowed]
    · rw [if_neg allowed]
      constructor <;> simp [clean, allowed]

/-- A compilation under a lawful registry, with options that do not throw, has an outcome;
so have both constructions, and the outcome tells of them. -/
theorem compile_of_lawful {registry : Registry} (lawful : registry.Lawful)
    (options : Options) (off : options.throwOnError.truthy = false) (today : Date)
    (answers : Answers) (probes : List String) :
    let day := options.day today
    let strict :=
      strictConstruction options (.ofRegistry registry) (.ofDate day) answers probes
    strict.halt = none ∧ ∃ o permissive,
      compile options registry today answers probes = .ok o ∧
      permissiveRequest options (.ofRegistry registry) (.ofDate day) answers probes =
        .ok (Builder.request permissive) ∧
      o.Tells options day strict.builder permissive := by
  intro day strict
  have on := lawful.filled_goes_on off (.ofDate day) answers probes
  have halt : strict.halt = none := (Builder.strictConstruction_made off on).halt
  obtain ⟨permissive, built, _⟩ := permissiveRequest_of_filled off on
  have compiled := compile_eq_report halt built
  exact ⟨halt, _, permissive, compiled, built,
    options.report_tells day strict.builder permissive⟩

/-- Refuses every answer. -/
def refusing : Dispatcher := ⟨"refus", fun key _ _ _ => .error (.dispatch key "refused")⟩

/-- Gives a list for every answer. -/
def listing : Dispatcher :=
  ⟨"liste", fun _ value _ periods => .ok [(.text "revenu",
    [(periods.month, .list [value])])]⟩

/-- A table made by hand: a period that no date resolves, a variable named like a list of
members, an entry that is no mapping and one without a mapping, and dispatchers of which
nothing comes. -/
def oddTable : MappingTable :=
  [(.text "semaine", some (.direct (.text "revenu") (.other (.text "WEEK")))),
    (.text "enfants", some (.direct (.text "enfants") .month)),
    (.text "autre", some .other), (.text "rien", none),
    (.text "refus", some (.dispatch refusing .month)),
    (.text "liste", some (.dispatch listing .month)),
    (.text "commentaire", some .excluded)]

def oddRegistry : Registry := ⟨⟨[], oddTable, [], []⟩⟩

theorem direct_of_odd {kind : EntityKind} {key name : Value} {type : PeriodType}
    (there : (key, some (.direct name type)) ∈ oddRegistry.tables.get kind) :
    name = .text "revenu" ∨ name = .text "enfants" := by
  cases kind <;> simp [oddRegistry, oddTable, PerKind.get] at there
  rcases there with ⟨_, rfl, _⟩ | ⟨_, rfl, _⟩
  · exact Or.inl rfl
  · exact Or.inr rfl

theorem dispatcher_of_odd {kind : EntityKind} {key : Value} {dispatcher : Dispatcher}
    {type : PeriodType}
    (there : (key, some (.dispatch dispatcher type)) ∈ oddRegistry.tables.get kind) :
    dispatcher = refusing ∨ dispatcher = listing := by
  cases kind <;> simp [oddRegistry, oddTable, PerKind.get] at there
  rcases there with ⟨_, rfl, _⟩ | ⟨_, rfl, _⟩
  · exact Or.inl rfl
  · exact Or.inr rfl

theorem lawful_oddRegistry : oddRegistry.Lawful := by
  constructor
  · intro kind key name type there
    rcases direct_of_odd there with rfl | rfl <;> rfl
  · intro kind key dispatcher type there answerKey value type' periods failure run
    rcases dispatcher_of_odd there with rfl | rfl
    · cases run
      rfl
    · cases run

/-- One answer for each entry of the table, a list, and a key that is not in it. -/
def oddAnswers : Answers :=
  [("semaine", .int 3), ("enfants", .int 2), ("autre", .bool true), ("rien", .text ""),
    ("refus", .text "oui"),
    ("liste", .int 1), ("commentaire", .list []), ("semaine", .list [.null]),
    ("inconnu", .map [])]

theorem compile_of_lawful_odd :
    let today : Date := ⟨2025, 10, 1, by decide⟩
    oddRegistry.Lawful ∧ ({} : Options).throwOnError.truthy = false ∧
      ∃ o, compile {} oddRegistry today oddAnswers ["semaine", "refus"] = .ok o ∧
        o.usedFallback = true ∧
        o.request.isSome = true ∧ o.errors.map BuildError.answerKey =
          ["semaine", "autre", "rien", "refus", "liste", "semaine", "inconnu", "semaine",
            "refus"] := by
  intro today
  refine ⟨lawful_oddRegistry, rfl, ?_⟩
  obtain ⟨_, o, permissive, compiled, _, tells⟩ :=
    compile_of_lawful lawful_oddRegistry {} rfl today oddAnswers ["semaine", "refus"]
  have keys : o.errors.map BuildError.answerKey =
      ["semaine", "autre", "rien", "refus", "liste", "semaine", "inconnu", "semaine",
        "refus"] := by
    rw [tells.errors]
    decide +kernel
  have errors : o.errors ≠ [] := by
    intro clean
    rw [clean] at keys
    cases keys
  have there : o.request.isSome = true := (tells.request_iff errors).mpr rfl
  exact ⟨o, compiled, tells.usedFallback_iff.mpr ⟨errors, there⟩, there, keys⟩

end Questionnaire
