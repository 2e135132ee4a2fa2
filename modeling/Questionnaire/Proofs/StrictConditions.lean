import Questionnaire.Proofs.ConditionFailures

/-!
# Conditions that stop a strict evaluator

Whether a part of a condition can be read depends on its text alone. Whether it is read
depends on the answers: the search for an alternative that holds ends at the first one, and
the search through the parts of an alternative at the first part that does not hold. So a
strict evaluator fails if and only if its search gets to a malformed part, and answers that
decide it before hide the part.
-/

namespace Questionnaire.Condition

section Search

variable {α : Type} {p : α → Except Failure Bool} {failure : Failure} {a : α}

/-- A search for a part that holds does not get past one that fails, unless it has ended
before. -/
theorem anyM_fails {before after : List α} (undecided : ∀ b ∈ before, p b ≠ .ok true)
    (fails : p a = .error failure) :
    ∃ failure, (before ++ a :: after).anyM p = .error failure := by
  induction before with
  | nil => exact ⟨failure, by rw [List.nil_append, List.anyM_cons, fails]; rfl⟩
  | cons first rest ih =>
    obtain ⟨here, later⟩ := List.forall_mem_cons.mp undecided
    rw [List.cons_append, List.anyM_cons]
    cases result : p first with
    | error earlier => exact ⟨earlier, rfl⟩
    | ok b =>
      cases b with
      | true => exact absurd result here
      | false => exact ih later

/-- A search for a part that does not hold does not get past one that fails, unless it has
ended before. -/
theorem allM_fails {before after : List α} (undecided : ∀ b ∈ before, p b ≠ .ok false)
    (fails : p a = .error failure) :
    ∃ failure, (before ++ a :: after).allM p = .error failure := by
  have reached : ∃ failure, (before ++ a :: after).anyM (fun b => (fun x => !x) <$> p b) =
      .error failure := by
    refine anyM_fails ?_ (not_map_eq_error.mpr fails)
    intro b inside decided
    exact undecided b inside (not_map_eq_ok.mp decided)
  obtain ⟨failure, stopped⟩ := reached
  exact ⟨failure, by rw [List.allM_eq_not_anyM_not, not_map_eq_error]; exact stopped⟩

end Search

/-- The part cannot be read: it has the mark of a membership test but is none, or no symbol
cuts it in two. -/
def Malformed (part : List Char) : Prop :=
  if Text.occursIn includesMark.toList part then readMembership? includesMark part = none
  else if Text.occursIn excludesMark.toList part then
    readMembership? excludesMark part = none
  else ∀ r ∈ Relation.all, (Text.splitOn r.symbol.toList part).length ≠ 2

instance (part : List Char) : Decidable (Malformed part) := by
  unfold Malformed
  infer_instance

/-- The evaluator that fails on what it cannot read, without operators of one's own. -/
def strictEvaluator : Evaluator := { strict := true }

/-- The strict evaluator fails, because it cannot read the condition. -/
def Raises (expression : String) (answers : Answers) : Prop :=
  ∃ fault, strictEvaluator.evaluate expression answers = .error (.condition fault)

/-- The search gets to the part: no alternative before its own holds, and each part before
it in its own does. -/
def Reaches (answers : Answers) (expression : String) (part : List Char) : Prop :=
  ∃ earlier alternative later before after,
    alternatives expression = earlier ++ alternative :: later ∧
      parts alternative = before ++ part :: after ∧
      (∀ other ∈ earlier, strictEvaluator.evaluateConjunction answers other ≠ .ok true) ∧
      ∀ other ∈ before, strictEvaluator.evaluateAtom answers other ≠ .ok false

/-- The part is the first one of the first alternative. -/
def Leads (expression : String) (part : List Char) : Prop :=
  ∃ first later after, alternatives expression = first :: later ∧
    parts first = part :: after

variable {answers : Answers} {expression : String}

theorem symbols_strict : strictEvaluator.symbols = Relation.all.map Relation.symbol := by
  have sorted := symbols_of_sorted strictEvaluator [] rfl (by decide)
  rwa [List.append_nil] at sorted

/-- The relation of a symbol is known, and answers are compared by it: only their size can
be in the way. -/
theorem compare_strict {text : List Char} {r : Relation} {left right : Value}
    {fault : ConditionFault} :
    strictEvaluator.compare text r.symbol left right ≠ .error (.condition fault) := by
  intro stopped
  have known : Relation.ofSymbol? r.symbol = some r := by
    cases r <;> decide
  have held : r.holds left right = .error (.condition fault) := by
    simpa only [Evaluator.compare, Evaluator.custom?, strictEvaluator, List.find?_nil,
      compareBy, known] using stopped
  obtain ⟨size, _⟩ := holds_eq_error held
  cases size

/-- A comparison cannot be read if and only if no symbol cuts it in two. -/
theorem evaluateComparison_unread (answers : Answers) (text : List Char) :
    (∃ fault, strictEvaluator.evaluateComparison answers text = .error (.condition fault)) ↔
      ∀ r ∈ Relation.all, (Text.splitOn r.symbol.toList text).length ≠ 2 := by
  unfold Evaluator.evaluateComparison
  rw [symbols_strict]
  have filled : ∀ symbol ∈ Relation.all.map Relation.symbol, symbol ≠ "" := by decide
  rcases cutComparison_cases text filled with
    ⟨uncut, passed⟩ | ⟨symbol, known, two, key, literal, cut⟩
  · refine iff_of_true ⟨.noOperator (String.ofList text), by rw [uncut]; rfl⟩ ?_
    intro r listed
    exact passed _ (List.mem_map_of_mem listed)
  · obtain ⟨r, listed, rfl⟩ := List.mem_map.mp known
    refine iff_of_false ?_ (fun passed => passed r listed two)
    rintro ⟨fault, stopped⟩
    simp only [cut, bind, Except.bind] at stopped
    split at stopped
    · cases stopped
    · cases stopped
    · exact compare_strict stopped

/-- A part is malformed if and only if it cannot be read, for whatever answers. -/
theorem malformed_iff (answers : Answers) (part : List Char) :
    Malformed part ↔ ∃ fault, strictEvaluator.evaluateAtom answers part =
      .error (.condition fault) := by
  unfold Malformed Evaluator.evaluateAtom
  split
  · cases readMembership? includesMark part <;> simp
  · split
    · cases readMembership? excludesMark part <;> simp
    · exact (evaluateComparison_unread answers part).symm

theorem settle_strict (result : Except Failure Bool) :
    strictEvaluator.settle result = result := by
  cases result with
  | ok b => rfl
  | error failure => cases failure <;> rfl

/-- The strict evaluator fails if and only if its search does. A blank condition has nothing
to search. -/
theorem raises_iff :
    Raises expression answers ↔
      ∃ fault, (alternatives expression).anyM (strictEvaluator.evaluateConjunction
        answers) = .error (.condition fault) := by
  simp only [Raises, evaluate_eq, settle_strict]
  split
  · rename_i blank
    rw [blank]
    simp [List.anyM, pure, Except.pure]
  · rfl

/-- The search gets to the first part of the first alternative, whatever the answers. -/
theorem reaches_of_leads (answers : Answers) {part : List Char}
    (leads : Leads expression part) : Reaches answers expression part := by
  obtain ⟨first, later, after, cut, cut'⟩ := leads
  exact ⟨[], first, later, [], after, cut, cut', List.forall_mem_nil _,
    List.forall_mem_nil _⟩

theorem mem_of_reaches {part : List Char} (reached : Reaches answers expression part) :
    ∃ alternative ∈ alternatives expression, part ∈ parts alternative := by
  obtain ⟨_, alternative, _, _, _, cut, cut', _⟩ := reached
  exact ⟨alternative, by simp [cut], by simp [cut']⟩

/-- A malformed part that the search gets to stops the strict evaluator. -/
theorem raises_of_reaches (fit : answers.Fit) {part : List Char}
    (malformed : Malformed part) (reached : Reaches answers expression part) :
    Raises expression answers := by
  obtain ⟨earlier, alternative, later, before, after, cut, cut', undecided,
      undecided'⟩ := reached
  obtain ⟨_, unread⟩ := (malformed_iff answers part).mp malformed
  have stopped : ∃ failure, strictEvaluator.evaluateConjunction answers alternative =
      .error failure := by
    rw [evaluateConjunction_eq, cut']
    exact allM_fails undecided' unread
  obtain ⟨_, fails⟩ := stopped
  have searched : ∃ failure,
      (alternatives expression).anyM (strictEvaluator.evaluateConjunction answers) =
      .error failure := by
    rw [cut]
    exact anyM_fails undecided fails
  -- An earlier part may have failed first, but not because of the size of an answer.
  obtain ⟨failure, searched⟩ := searched
  obtain ⟨_, first, _, _, _, fails⟩ := anyM_eq_error searched
  cases evaluateConjunction_stops (List.forall_mem_nil _) fails with
  | condition fault => exact raises_iff.mpr ⟨fault, searched⟩
  | size large => exact absurd fit large.not_fit

/-- The strict evaluator stops at a malformed part that the search gets to. -/
theorem reaches_of_raises (raised : Raises expression answers) :
    ∃ part, Malformed part ∧ Reaches answers expression part := by
  obtain ⟨fault, stopped⟩ := raises_iff.mp raised
  obtain ⟨earlier, alternative, later, cut, passed, fails⟩ := anyM_eq_error stopped
  obtain ⟨before, part, after, cut', passed', unread⟩ :=
    allM_eq_error (evaluateConjunction_eq _ _ _ ▸ fails)
  refine ⟨part, (malformed_iff answers part).mpr ⟨fault, unread⟩, earlier, alternative,
    later, before, after, cut, cut', ?_, ?_⟩
  · intro other inside
    simp [passed other inside]
  · intro other inside
    simp [passed' other inside]

/-- A strict evaluator fails if and only if its search gets to a malformed part. So it fails
on some answers as it does on others, as long as both let it get to the same malformed parts
of the condition; in particular, if the part that it reads first is malformed, or none is.
-/
theorem evaluate_strict (expression : String) {answers others : Answers} (fit : answers.Fit)
    (fit' : others.Fit) :
    (Raises expression answers ↔ ∃ part, Malformed part ∧ Reaches answers expression part) ∧
      ((∀ part, Malformed part →
          (Reaches answers expression part ↔ Reaches others expression part)) →
        (Raises expression answers ↔ Raises expression others)) ∧
      ((∃ part, Malformed part ∧ Leads expression part) ∨
          (∀ alternative ∈ alternatives expression, ∀ part ∈ parts alternative,
            ¬ Malformed part) →
        (Raises expression answers ↔ Raises expression others)) := by
  have raises {answers : Answers} (fit : answers.Fit) :
      Raises expression answers ↔ ∃ part, Malformed part ∧
        Reaches answers expression part := by
    constructor
    · exact reaches_of_raises
    · rintro ⟨part, malformed, reached⟩
      exact raises_of_reaches fit malformed reached
  refine ⟨raises fit, ?_, ?_⟩
  · intro alike
    rw [raises fit, raises fit']
    exact exists_congr fun part => and_congr_right (alike part)
  · rintro (⟨part, malformed, leads⟩ | readable)
    · exact iff_of_true (raises_of_reaches fit malformed (reaches_of_leads answers leads))
        (raises_of_reaches fit' malformed (reaches_of_leads others leads))
    · have quiet {answers : Answers} : ¬ Raises expression answers := by
        intro raised
        obtain ⟨part, malformed, reached⟩ := reaches_of_raises raised
        obtain ⟨alternative, listed, inside⟩ := mem_of_reaches reached
        exact readable alternative listed part inside malformed
      exact iff_of_false quiet quiet

/-- The first part of this condition is malformed, and no other is: both conditions of the
theorem are met. -/
theorem evaluate_strict_student :
    let adult : Answers := [("age", .int 20)]
    let child : Answers := [("age", .int 12)]
    let expression := "etudiant && age>=18 || age<16"
    adult.Fit ∧ child.Fit ∧ (∃ part, Malformed part ∧ Leads expression part) ∧
      (∀ part, Malformed part → (Reaches adult expression part ↔
        Reaches child expression part)) ∧
      (Raises expression adult ↔ Raises expression child) := by
  intro adult child expression
  have fit : adult.Fit := by decide
  have fit' : child.Fit := by decide
  have leads : Leads expression "etudiant".toList :=
    ⟨"etudiant && age>=18".toList, ["age<16".toList],
      ["age>=18".toList], by decide, by decide⟩
  have only : ∀ alternative ∈ alternatives expression, ∀ part ∈ parts alternative,
      Malformed part → part = "etudiant".toList := by
    decide
  have alike : ∀ part, Malformed part → (Reaches adult expression part ↔
      Reaches child expression part) := by
    have first {answers others : Answers} {part : List Char} (malformed : Malformed part)
        (reached : Reaches answers expression part) : Reaches others expression part := by
      obtain ⟨alternative, listed, inside⟩ := mem_of_reaches reached
      rw [only alternative listed part inside malformed]
      exact reaches_of_leads others leads
    exact fun part malformed => ⟨first malformed, first malformed⟩
  obtain ⟨_, same, _⟩ := evaluate_strict expression fit fit'
  exact ⟨fit, fit', ⟨_, by decide, leads⟩, alike, same alike⟩

/-- An answer that decides the condition hides the part that cannot be read. -/
theorem evaluate_strict_hidden :
    let adult : Answers := [("age", .int 20)]
    let expression := "age>=18||etudiant"
    adult.Fit ∧ Answers.Fit [] ∧ ¬ Raises expression adult ∧ Raises expression [] := by
  intro adult expression
  have cut : alternatives expression = ["age>=18".toList, "etudiant".toList] := by decide
  have cut' : parts "age>=18".toList = ["age>=18".toList] := by decide
  have read : cutComparison "age>=18".toList strictEvaluator.symbols =
      .ok (some (">=", "age".toList, "18".toList)) := by
    rw [symbols_strict]
    rfl
  have unmarked {answers : Answers} :
      strictEvaluator.evaluateConjunction answers "age>=18".toList =
      strictEvaluator.evaluateComparison answers "age>=18".toList := by
    rw [evaluateConjunction_eq, cut', List.allM_cons,
      evaluateAtom_unmarked (by decide) (by decide)]
    cases strictEvaluator.evaluateComparison answers "age>=18".toList with
    | error failure => rfl
    | ok b => cases b <;> rfl
  refine ⟨by decide, by decide, ?_, ?_⟩
  · have found : Table.get? adult "age" = some (.int 20) := by
      simp [adult, Table.get?]
    have holds : strictEvaluator.compare "age>=18".toList ">=" (.int 20)
        (readLiteral "18".toList) = .ok true := by
      rfl
    rw [raises_iff, cut, List.anyM_cons, unmarked,
      evaluateComparison_of_cut read found (by simp), holds]
    rintro ⟨_, stopped⟩
    cases stopped
  · have absent : strictEvaluator.evaluateComparison [] "age>=18".toList = .ok false := by
      simp only [Evaluator.evaluateComparison, read, bind, Except.bind, Table.get?_nil]
      rfl
    have malformed : Malformed "etudiant".toList := by decide
    refine raises_of_reaches (by decide) malformed
      ⟨["age>=18".toList], "etudiant".toList, [], [], [], cut, by decide, ?_,
        List.forall_mem_nil _⟩
    rw [List.forall_mem_singleton, unmarked, absent]
    simp

end Questionnaire.Condition
