import Mathlib.Data.List.Forall2
import Questionnaire.Proofs.Unanswered

/-!
# Selections stand for their values

An answer can be a selection in a list with labels: a combobox, or a map with its label and
its value. A builder takes the value of a selection and looks at nothing else. The
scholarship rule alone compares answers as they are given: a selection hides from it what
was selected. So values can be replaced by selections of them, unless the rule applies and
an answer that it compares is among them.
-/

namespace Questionnaire

namespace Value

/-- A scalar or a list: what an answer is if it is no selection. -/
def isOrdinary : Value → Bool
  | .list _ => true
  | v => v.isScalar

/-- The ways in which a value is given as an answer: by itself, or as a selection under some
label. -/
inductive StandsFor : Value → Value → Prop where
  | itself (v : Value) : StandsFor v v
  | combobox (label v : Value) : StandsFor (.combobox label v) v
  | entry (label v : Value) : StandsFor (.map [(.text "text", label), (.text "value", v)]) v

theorem StandsFor.unwrap {answer v : Value} (h : answer.StandsFor v)
    (ordinary : v.isOrdinary = true) : answer.unwrap = v := by
  cases h with
  | itself =>
    cases answer with
    | map entries => cases ordinary
    | combobox label value => cases ordinary
    | _ => rfl
  | combobox label => rfl
  | entry label => simp [Value.unwrap, field?, Table.get?, text_same]

theorem StandsFor.isUnanswered {answer v : Value} (h : answer.StandsFor v)
    (ordinary : v.isOrdinary = true) : answer.isUnanswered = false := by
  cases h with
  | itself =>
    cases answer with
    | null => cases ordinary
    | _ => rfl
  | combobox label => rfl
  | entry label => rfl

/-- A scalar that is given is no selection of another value. -/
theorem StandsFor.eq_of_isScalar {answer v : Value} (h : answer.StandsFor v)
    (scalar : answer.isScalar = true) : answer = v := by
  cases h with
  | itself => rfl
  | combobox label => cases scalar
  | entry label => cases scalar

end Value

namespace Answers

/-- The same answers in the same order, any of their values replaced by selections of them. -/
def Selection (selected answers : Answers) : Prop :=
  List.Forall₂ (fun entry other => entry.1 = other.1 ∧
    entry.2.StandsFor other.2) selected answers

variable {selected answers : Answers}

theorem Selection.get? (h : Selection selected answers) (key : String) :
    Option.Rel Value.StandsFor (Table.get? selected key) (Table.get? answers key) := by
  induction h with
  | nil => exact .none
  | @cons entry other _ _ same _ ih =>
    obtain ⟨named, stands⟩ := same
    simp only [Table.get?, named]
    split
    · exact .some stands
    · exact ih

theorem Selection.contains (h : Selection selected answers) (key : String) :
    Table.contains selected key = Table.contains answers key := by
  have related := h.get? key
  unfold Table.contains
  revert related
  generalize Table.get? selected key = first
  generalize Table.get? answers key = second
  rintro (_ | _) <;> rfl

/-- What is found among the selections and is a scalar was given like that. -/
theorem Selection.get?_of_isScalar (h : Selection selected answers) {key : String}
    {v : Value} (scalar : v.isScalar = true) (found : Table.get? selected key = some v) :
    Table.get? answers key = some v := by
  have related := h.get? key
  rw [found] at related
  cases hv : Table.get? answers key with
  | none =>
    rw [hv] at related
    cases related
  | some w =>
    rw [hv] at related
    cases related with
    | some stands => rw [stands.eq_of_isScalar scalar]

end Answers

namespace Scholarship

/-- The answers that the scholarship rule compares. -/
def comparedKeys : List String := ["boursier", "etudiant-mobilite"]

theorem isMissing_iff (answers : Answers) :
    isMissing answers = true ↔ Table.get? answers "boursier" = some (.bool true) ∧
      Table.get? answers "etudiant-mobilite" = some (.text "parcoursup-nouvelle-region") ∧
      Table.contains answers amountKey = false := by
  have moves :
      (Table.get? answers "etudiant-mobilite").any (· ==
        .text "parcoursup-nouvelle-region") = true ↔
      Table.get? answers "etudiant-mobilite" =
        some (.text "parcoursup-nouvelle-region") := by
    simp [Option.any_eq_true, Value.same_text]
  simp only [isMissing, Bool.and_eq_true, moves, Bool.not_eq_true', and_assoc]
  refine and_congr_left' ?_
  rcases Table.get? answers "boursier" with _ | v
  · simp
  · cases v with
    | bool holder => cases holder <;> simp
    | _ => simp

/-- The amount is missing among selections as among their values, unless a selection hides
an answer that the rule compares. -/
theorem isMissing_selection {selected answers : Answers}
    (h : Answers.Selection selected answers)
    (shown : isMissing answers = true → ∀ key ∈ comparedKeys, Table.get? selected key =
      Table.get? answers key) : isMissing selected = isMissing answers := by
  rw [Bool.eq_iff_iff]
  constructor
  · intro missing
    obtain ⟨holder, moves, absent⟩ := (isMissing_iff selected).mp missing
    rw [h.contains] at absent
    exact (isMissing_iff answers).mpr ⟨h.get?_of_isScalar rfl holder,
      h.get?_of_isScalar rfl moves, absent⟩
  · intro missing
    obtain ⟨holder, moves, absent⟩ := (isMissing_iff answers).mp missing
    have same := shown missing
    rw [isMissing_iff, same _ (by simp [comparedKeys]), same _ (by simp [comparedKeys]),
      h.contains]
    exact ⟨holder, moves, absent⟩

end Scholarship

namespace Setting

/-- A selection makes a builder do what its value does. -/
theorem answerPlan_of_standsFor (s : Setting) (key : String) {answer v : Value}
    (h : answer.StandsFor v) (ordinary : v.isOrdinary = true) :
    s.answerPlan key answer = s.answerPlan key v := by
  have itself := Value.StandsFor.itself v
  simp only [answerPlan, h.unwrap ordinary, h.isUnanswered ordinary, itself.unwrap ordinary,
    itself.isUnanswered ordinary]

theorem flatMap_answerPlan_selection (s : Setting) {selected answers : Answers}
    (h : Answers.Selection selected answers)
    (ordinary : ∀ entry ∈ answers, entry.2.isOrdinary = true) :
    (selected.flatMap fun entry => s.answerPlan entry.1 entry.2) =
      answers.flatMap fun entry => s.answerPlan entry.1 entry.2 := by
  induction h with
  | nil => rfl
  | @cons entry other _ _ same _ ih =>
    obtain ⟨named, stands⟩ := same
    rw [List.flatMap_cons, List.flatMap_cons, named,
      s.answerPlan_of_standsFor other.1 stands (ordinary other List.mem_cons_self),
      ih fun entry inside => ordinary entry (List.mem_cons_of_mem _ inside)]

theorem plan_selection (s : Setting) {selected answers : Answers}
    (h : Answers.Selection selected answers)
    (ordinary : ∀ entry ∈ answers, entry.2.isOrdinary = true)
    (shown : Scholarship.isMissing answers = true → ∀ key ∈ Scholarship.comparedKeys,
      Table.get? selected key = Table.get? answers key)
    (probes : List String) : s.plan selected probes = s.plan answers probes := by
  have added : Scholarship.added selected = Scholarship.added answers := by
    rw [Scholarship.added, Scholarship.added, Scholarship.isMissing_selection h shown]
  rw [plan, plan, added, List.flatMap_append, List.flatMap_append,
    s.flatMap_answerPlan_selection h ordinary]

end Setting

/-- Answers that make a builder do the same, under the options and under permissive ones,
compile alike. -/
theorem compile_congr {options : Options} {registry : Registry} {answers other : Answers}
    {probes : List String}
    (same : ∀ o ∈ [options, options.permissive], ∀ periods,
      (⟨o, .ofRegistry registry, periods⟩ : Setting).plan answers probes =
        (⟨o, .ofRegistry registry, periods⟩ : Setting).plan other probes)
    (today : Date) :
    compile options registry today answers probes =
      compile options registry today other probes := by
  have filled (o : Options) (inside : o ∈ [options, options.permissive]) (periods : Periods) :
      (Builder.fresh o (.ofRegistry registry) periods).filled answers probes =
        (Builder.fresh o (.ofRegistry registry) periods).filled other probes := by
    rw [Builder.filled_eq_perform, Builder.filled_eq_perform]
    exact congrArg (Builder.perform · _) (same o inside periods)
  have strict (periods : Periods) :
      strictConstruction options (.ofRegistry registry) periods answers probes =
      strictConstruction options (.ofRegistry registry) periods other probes := by
    rw [strictConstruction, strictConstruction, filled options (by simp)]
  have permissive (periods : Periods) :
      permissiveRequest options (.ofRegistry registry) periods answers probes =
        permissiveRequest options (.ofRegistry registry) periods other probes := by
    rw [permissiveRequest, permissiveRequest, filled options.permissive (by simp)]
  simp only [compile, outcome, strict, permissive]

/-- Scalars and lists can be replaced by selections of them, as comboboxes or as maps, under
any labels: the compilation is the same. If the scholarship rule applies, the answers that
it compares must be left as they are. -/
theorem compile_selection (options : Options) (registry : Registry) (today : Date)
    {selected answers : Answers} (h : Answers.Selection selected answers)
    (ordinary : ∀ entry ∈ answers, entry.2.isOrdinary = true)
    (shown : Scholarship.isMissing answers = true → ∀ key ∈ Scholarship.comparedKeys,
      Table.get? selected key = Table.get? answers key)
    (probes : List String) :
    compile options registry today selected probes =
      compile options registry today answers probes := by
  apply compile_congr
  intro o _ periods
  exact Setting.plan_selection _ h ordinary shown probes

/-- Someone with a scholarship who moves, the home chosen from a list, with a list that is
not for the engine and one that is out of place. -/
def chosenAnswers : Answers :=
  [("boursier", .bool true), ("commune-logement", .text "75056"),
    ("etudiant-mobilite", .text "parcoursup-nouvelle-region"),
    ("type-revenus", .list [.text "salaire"]),
    ("loyer-montant-mensuel", .list [.int 600])]

theorem compile_selection_home :
    let today : Date := ⟨2025, 10, 15, by decide⟩
    let selected : Answers :=
      [("boursier", .bool true), ("commune-logement",
        .combobox (.text "Paris") (.text "75056")),
        ("etudiant-mobilite", .text "parcoursup-nouvelle-region"),
        ("type-revenus", .map [(.text "text", .text "Salaire"),
          (.text "value", .list [.text "salaire"])]),
        ("loyer-montant-mensuel", .combobox (.text "600 euros") (.list [.int 600]))]
    Answers.Selection selected chosenAnswers ∧
      (∀ entry ∈ chosenAnswers, entry.2.isOrdinary = true) ∧
      Scholarship.isMissing chosenAnswers = true ∧
      (∀ key ∈ Scholarship.comparedKeys, Table.get? selected key =
        Table.get? chosenAnswers key) ∧
      selected ≠ chosenAnswers ∧
      compile {} .standard today selected ["locapass"] =
        compile {} .standard today chosenAnswers ["locapass"] := by
  intro today selected
  have selection : Answers.Selection selected chosenAnswers :=
    .cons ⟨rfl, .itself _⟩ (.cons ⟨rfl, .combobox _ _⟩ (.cons ⟨rfl, .itself _⟩
      (.cons ⟨rfl, .entry _ _⟩ (.cons ⟨rfl, .combobox _ _⟩ .nil))))
  have ordinary : ∀ entry ∈ chosenAnswers, entry.2.isOrdinary = true := by decide
  have shown : ∀ key ∈ Scholarship.comparedKeys, Table.get? selected key =
      Table.get? chosenAnswers key := by decide
  refine ⟨selection, ordinary, by decide, shown, by decide, ?_⟩
  exact compile_selection {} .standard today selection ordinary (fun _ =>
    shown) ["locapass"]

/-- The move as a map, the way a selection comes out of a document. -/
def chosenMove : Value :=
  .map [(.text "text", .text "Nouvelle région"),
    (.text "value", .text "parcoursup-nouvelle-region")]

/-- A selection of the move hides it from the scholarship rule. -/
theorem compile_selection_move :
    let today : Date := ⟨2025, 10, 15, by decide⟩
    let answers : Answers :=
      [("boursier", .bool true), ("etudiant-mobilite", .text "parcoursup-nouvelle-region")]
    let selected : Answers := [("boursier", .bool true), ("etudiant-mobilite", chosenMove)]
    Answers.Selection selected answers ∧ (∀ entry ∈ answers, entry.2.isOrdinary = true) ∧
      scholarshipOf (compile {} .standard today selected []) = none ∧
      scholarshipOf (compile {} .standard today answers []) =
        some (.map [(.text "2025-10", .int 1)]) ∧
      compile {} .standard today selected [] ≠ compile {} .standard today answers [] := by
  intro today answers selected
  have hidden : scholarshipOf (compile {} .standard today selected []) = none := by
    decide +kernel
  have added : scholarshipOf (compile {} .standard today answers []) =
      some (.map [(.text "2025-10", .int 1)]) := by
    decide +kernel
  refine ⟨.cons ⟨rfl, .itself _⟩ (.cons ⟨rfl, .entry _ _⟩ .nil), by decide, hidden, added, ?_⟩
  intro same
  rw [same, added] at hidden
  cases hidden

end Questionnaire
