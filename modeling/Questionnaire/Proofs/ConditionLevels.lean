import Questionnaire.Proofs.ConditionFailures

/-!
# How deep conditions are cut

Evaluation can be told without levels: a text with `||` is cut there, one with `&&` at that,
the trimmed pieces are evaluated in the same way, and a text without either sign is an atom.
The pieces are not smaller by their form, but a cut leaves no sign behind, however many of
its characters stand in a row, and trimming makes up none. So three levels are enough for
every text, and the evaluator can have one function for each of them.
-/

namespace Questionnaire.Condition

open Text

/-- The evaluation by levels of cutting. There is no result if it would go deeper, be it in
a piece that the search does not get to. -/
def Evaluator.evaluateWithin (ev : Evaluator) (answers : Answers) :
    Nat → List Char → Option (Except Failure Bool)
  | 0, _ => none
  | level + 1, text =>
      if occursIn orSign text then
        (((splitOn orSign text).map trim).mapM (ev.evaluateWithin answers level)).map
        fun results => results.anyM id
      else if occursIn andSign text then
        (((splitOn andSign text).map trim).mapM (ev.evaluateWithin answers level)).map
        fun results => results.allM id
      else some (ev.evaluateAtom answers text)

/-- Trimmed pieces are trimmed, and no separator is left in them. -/
theorem trimmed_of_mem_pieces {sep text piece : List Char} (filled : sep ≠ [])
    (listed : piece ∈ (splitOn sep text).map trim) :
    trim piece = piece ∧ ¬ sep <:+: piece := by
  obtain ⟨raw, cut, rfl⟩ := List.mem_map.mp listed
  refine ⟨trim_trim raw, ?_⟩
  intro occurs
  exact not_infix_of_mem_splitOn filled cut (occurs.trans (Text.trim_infix raw))

/-- No sign is left in the parts of an alternative. -/
theorem not_infix_of_mem_parts {alternative part : List Char}
    (free : ¬ orSign <:+: alternative) (listed : part ∈ parts alternative) :
    ¬ orSign <:+: part ∧ ¬ andSign <:+: part := by
  constructor
  · intro occurs
    exact free (occurs.trans (infix_of_mem_parts listed))
  · exact (trimmed_of_mem_pieces (by decide) listed).2

theorem mapM_of_each {α β : Type} {f : α → Option β} {g : α → β} {items : List α}
    (each : ∀ a ∈ items, f a = some (g a)) : items.mapM f = some (items.map g) := by
  induction items with
  | nil => rfl
  | cons a rest ih =>
    obtain ⟨here, later⟩ := List.forall_mem_cons.mp each
    rw [List.mapM_cons, here, ih later]
    rfl

theorem anyM_map_id {α : Type} (p : α → Except Failure Bool) (items : List α) :
    (items.map p).anyM id = items.anyM p := by
  induction items with
  | nil => rfl
  | cons a rest ih =>
    rw [List.map_cons, List.anyM_cons, List.anyM_cons, ih]
    rfl

theorem allM_map_id {α : Type} (p : α → Except Failure Bool) (items : List α) :
    (items.map p).allM id = items.allM p := by
  induction items with
  | nil => rfl
  | cons a rest ih =>
    rw [List.map_cons, List.allM_cons, List.allM_cons, ih]
    rfl

section Levels

variable {ev : Evaluator} {answers : Answers} {text : List Char} {level : Nat}
  {result : List Char → Except Failure Bool}

/-- A text with `||` needs one level more than its pieces. -/
theorem evaluateWithin_or (occurs : orSign <:+: text)
    (each : ∀ piece ∈ (splitOn orSign text).map trim,
      ev.evaluateWithin answers level piece = some (result piece)) :
    ev.evaluateWithin answers (level + 1) text =
      some (((splitOn orSign text).map trim).anyM result) := by
  rw [Evaluator.evaluateWithin, if_pos (occursIn_iff.mpr occurs), mapM_of_each each,
    Option.map_some, anyM_map_id]

/-- A text with `&&` and without `||` needs one level more than its parts. -/
theorem evaluateWithin_and (noOr : ¬ orSign <:+: text) (occurs : andSign <:+: text)
    (each : ∀ part ∈ parts text, ev.evaluateWithin answers level part = some (result part)) :
    ev.evaluateWithin answers (level + 1) text = some ((parts text).allM result) := by
  have noOr' : ¬ occursIn orSign text = true := by
    rw [occursIn_iff]
    exact noOr
  rw [parts] at each ⊢
  rw [Evaluator.evaluateWithin, if_neg noOr', if_pos (occursIn_iff.mpr occurs),
    mapM_of_each each, Option.map_some, allM_map_id]

/-- A text without signs needs one level. -/
theorem evaluateWithin_atom (noOr : ¬ orSign <:+: text) (noAnd : ¬ andSign <:+: text)
    (deeper : Nat) :
    ev.evaluateWithin answers (deeper + 1) text = some (ev.evaluateAtom answers text) := by
  rw [← occursIn_eq_false] at noOr noAnd
  simp only [Evaluator.evaluateWithin, noOr, noAnd, Bool.false_eq_true, if_false]

/-- A text with `&&` and without `||` needs two. -/
theorem evaluateWithin_conjunction (noOr : ¬ orSign <:+: text) (occurs : andSign <:+: text)
    (deeper : Nat) :
    ev.evaluateWithin answers (deeper + 2) text =
      some (ev.evaluateConjunction answers text) := by
  apply evaluateWithin_and noOr occurs
  intro part listed
  obtain ⟨noOr', noAnd'⟩ := not_infix_of_mem_parts noOr listed
  exact evaluateWithin_atom noOr' noAnd' deeper

/-- For a piece between `||` two levels are enough. -/
theorem evaluateWithin_alternative (trimmed : trim text = text) (noOr : ¬ orSign <:+: text)
    (deeper : Nat) :
    ev.evaluateWithin answers (deeper + 2) text =
      some (ev.evaluateConjunction answers text) := by
  by_cases occurs : andSign <:+: text
  · exact evaluateWithin_conjunction noOr occurs deeper
  · rw [evaluateWithin_atom noOr occurs (deeper + 1), evaluateConjunction_eq,
      parts_of_not_infix trimmed occurs, allM_singleton]

/-- For a text with `||` three levels are enough. -/
theorem evaluateWithin_alternatives (occurs : orSign <:+: text) (deeper : Nat) :
    ev.evaluateWithin answers (deeper + 3) text =
      some (ev.evaluateAlternatives answers text) := by
  apply evaluateWithin_or occurs
  intro piece listed
  obtain ⟨trimmed, noOr⟩ := trimmed_of_mem_pieces (by decide) listed
  exact evaluateWithin_alternative trimmed noOr deeper

/-- On a trimmed text the evaluation by levels is that of the evaluator. -/
theorem evaluateWithin_trimmed (trimmed : trim text = text) (deeper : Nat) :
    ev.evaluateWithin answers (deeper + 3) text =
      some (ev.evaluateAlternatives answers text) := by
  by_cases occurs : orSign <:+: text
  · exact evaluateWithin_alternatives occurs deeper
  · have one :
        ev.evaluateAlternatives answers text = ev.evaluateConjunction answers text := by
      change ((splitOn orSign text).map trim).anyM _ = _
      rw [Text.splitOn_of_not_infix occurs, List.map_singleton, trimmed, anyM_singleton]
    rw [evaluateWithin_alternative trimmed occurs (deeper + 1), one]

end Levels

/-- Three levels of cutting are enough for every text, and what they give is what the
evaluator gives: no `||` is left between the `||` of a text, and neither sign between the
`&&` of such a piece. Nothing is lost either, since joining gives back what was cut. -/
theorem evaluate_levels (ev : Evaluator) (answers : Answers) :
    (∀ text, ∃ result, ∀ deeper,
        ev.evaluateWithin answers (deeper + 3) text = some result) ∧
      (∀ expression : String, trim expression.toList ≠ [] →
        (ev.evaluateWithin answers 3 (trim expression.toList)).map ev.settle =
          some (ev.evaluate expression answers)) ∧
      (∀ text, ∀ alternative ∈ (splitOn orSign text).map trim,
        ¬ orSign <:+: alternative ∧
          ∀ part ∈ (splitOn andSign alternative).map trim,
            ¬ orSign <:+: part ∧ ¬ andSign <:+: part) ∧
      ∀ text, join orSign (splitOn orSign text) = text ∧
        join andSign (splitOn andSign text) = text := by
  refine ⟨?ends, ?evaluates, ?free, ?joins⟩
  case ends =>
    intro text
    by_cases or : orSign <:+: text
    · exact ⟨_, evaluateWithin_alternatives or⟩
    · by_cases and : andSign <:+: text
      · exact ⟨_, fun deeper => evaluateWithin_conjunction or and (deeper + 1)⟩
      · exact ⟨_, fun deeper => evaluateWithin_atom or and (deeper + 2)⟩
  case evaluates =>
    intro expression filled
    have blank : (trim expression.toList).isEmpty = false := by
      simpa using filled
    rw [evaluateWithin_trimmed (trim_trim expression.toList) 0, Option.map_some,
      Evaluator.evaluate]
    simp only [blank, Bool.false_eq_true, if_false]
  case free =>
    intro text alternative listed
    have noOr := (trimmed_of_mem_pieces (by decide) listed).2
    exact ⟨noOr, fun part there => not_infix_of_mem_parts noOr there⟩
  case joins =>
    intro text
    exact ⟨join_splitOn (by decide) text, join_splitOn (by decide) text⟩

/-- Two levels are not enough. -/
example :
    Evaluator.evaluateWithin {} [] 2 "age>18&&sexe=f||statut=actif".toList = none := by rfl

/-- Signs are cut from the left, so one half of them can be left over. -/
example :
    (splitOn orSign "a|||b||||c".toList).map String.ofList = ["a", "|b", "", "c"] := by
  decide

end Questionnaire.Condition
