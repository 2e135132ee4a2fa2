import Questionnaire.Proofs.ConditionGrammar
import Questionnaire.Proofs.HiddenAnswers
import Questionnaire.Proofs.Magnitudes
import Questionnaire.Proofs.Provenance

/-!
# What can stop a condition

A condition that cannot be read stops a strict evaluator, and so does an operator of one's
own that fails; a lenient one goes on with false. Nothing else stops either, as long as no
answer is a whole number that is too large to be turned into a floating-point number:
literals never are, whatever their digits.
-/

namespace Questionnaire

namespace Answers

/-- No answer is a whole number that is too large for a floating-point number. -/
def Fit (answers : Answers) : Prop := ∀ entry ∈ answers, entry.2.Fits

instance (answers : Answers) : Decidable answers.Fit :=
  inferInstanceAs (Decidable (∀ entry ∈ answers, _))

theorem Fit.get? {answers : Answers} (fit : answers.Fit) {key : String} {answer : Value}
    (found : Table.get? answers key = some answer) : answer.Fits := by
  obtain ⟨_, there, _⟩ := Table.mem_of_get? found
  exact fit _ there

end Answers

namespace Condition

section Search

variable {α : Type} {p : α → Except Failure Bool} {items : List α} {failure : Failure}

theorem not_map_eq_ok {result : Except Failure Bool} {b : Bool} :
    (fun x => !x) <$> result = .ok b ↔ result = .ok (!b) := by
  cases result <;> simp [Functor.map, Except.map, Bool.not_eq_eq_eq_not]

theorem not_map_eq_error {result : Except Failure Bool} :
    (fun x => !x) <$> result = .error failure ↔ result = .error failure := by
  cases result <;> simp [Functor.map, Except.map]

theorem anyM_singleton (p : α → Except Failure Bool) (a : α) : [a].anyM p = p a := by
  rw [List.anyM_cons]
  cases p a with
  | error failure => rfl
  | ok b => cases b <;> rfl

theorem allM_singleton (p : α → Except Failure Bool) (a : α) : [a].allM p = p a := by
  rw [List.allM_cons]
  cases p a with
  | error failure => rfl
  | ok b => cases b <;> rfl

/-- A search for a part that holds fails at a part, behind parts that do not hold. -/
theorem anyM_eq_error (stopped : items.anyM p = .error failure) :
    ∃ before a after, items = before ++ a :: after ∧ (∀ b ∈ before, p b = .ok false) ∧
      p a = .error failure := by
  induction items with
  | nil => cases stopped
  | cons first rest ih =>
    rw [List.anyM_cons] at stopped
    cases result : p first with
    | error failure' =>
      rw [result] at stopped
      cases stopped
      exact ⟨[], first, rest, rfl, by simp, result⟩
    | ok b =>
      rw [result] at stopped
      cases b with
      | true => cases stopped
      | false =>
        obtain ⟨before, a, after, rfl, passed, fails⟩ := ih stopped
        refine ⟨first :: before, a, after, rfl, ?_, fails⟩
        exact List.forall_mem_cons.mpr ⟨result, passed⟩

/-- A search for a part that does not hold fails at a part, behind parts that hold. -/
theorem allM_eq_error (stopped : items.allM p = .error failure) :
    ∃ before a after, items = before ++ a :: after ∧ (∀ b ∈ before, p b = .ok true) ∧
      p a = .error failure := by
  rw [List.allM_eq_not_anyM_not, not_map_eq_error] at stopped
  obtain ⟨before, a, after, same, passed, fails⟩ := anyM_eq_error stopped
  exact ⟨before, a, after, same, fun b inside => not_map_eq_ok.mp (passed b inside),
    not_map_eq_error.mp fails⟩

end Search

/-- The alternatives of a condition. A blank one has none. -/
def alternatives (expression : String) : List (List Char) :=
  let text := Text.trim expression.toList
  if text.isEmpty then [] else (Text.splitOn orSign text).map Text.trim

/-- The parts of an alternative, which have to hold together. -/
def parts (alternative : List Char) : List (List Char) :=
  (Text.splitOn andSign alternative).map Text.trim

theorem evaluateConjunction_eq (ev : Evaluator) (answers : Answers)
    (alternative : List Char) :
    ev.evaluateConjunction answers alternative =
      (parts alternative).allM (ev.evaluateAtom answers) := rfl

theorem evaluate_eq (ev : Evaluator) (answers : Answers) (expression : String) :
    ev.evaluate expression answers =
      if alternatives expression = [] then .ok true
      else ev.settle ((alternatives expression).anyM (ev.evaluateConjunction answers)) := by
  simp only [Evaluator.evaluate, alternatives]
  split
  · rfl
  · rw [if_neg (by simpa using Text.splitOn_ne_nil _ _)]
    rfl

/-- A condition without signs is evaluated as the one part that it has. -/
theorem evaluate_single (ev : Evaluator) (answers : Answers) {expression : String}
    {alternative part : List Char} (one : alternatives expression = [alternative])
    (sole : parts alternative = [part]) :
    ev.evaluate expression answers = ev.settle (ev.evaluateAtom answers part) := by
  rw [evaluate_eq, one, if_neg (by simp), anyM_singleton, evaluateConjunction_eq, sole,
    allM_singleton]

theorem alternatives_of_not_infix {expression : String} {text : List Char}
    (same : Text.trim expression.toList = text) (filled : text ≠ [])
    (free : ¬ orSign <:+: text) : alternatives expression = [text] := by
  have trimmed : Text.trim text = text := by rw [← same, Text.trim_trim]
  simp [alternatives, same, filled, Text.splitOn_of_not_infix free, trimmed]

theorem parts_of_not_infix {alternative : List Char}
    (trimmed : Text.trim alternative = alternative) (free : ¬ andSign <:+: alternative) :
    parts alternative = [alternative] := by
  rw [parts, Text.splitOn_of_not_infix free, List.map_singleton, trimmed]

theorem infix_of_mem_alternatives {expression : String} {alternative : List Char}
    (listed : alternative ∈ alternatives expression) :
    alternative <:+: expression.toList := by
  simp only [alternatives] at listed
  split at listed
  · cases listed
  · obtain ⟨piece, cut, rfl⟩ := List.mem_map.mp listed
    exact ((Text.trim_infix piece).trans (Text.infix_of_mem_splitOn cut)).trans
      (Text.trim_infix _)

theorem infix_of_mem_parts {alternative part : List Char}
    (listed : part ∈ parts alternative) : part <:+: alternative := by
  obtain ⟨piece, cut, rfl⟩ := List.mem_map.mp listed
  exact (Text.trim_infix piece).trans (Text.infix_of_mem_splitOn cut)

/-- The symbols of an evaluator keep their order if none is longer than one before it. -/
theorem symbols_of_sorted (ev : Evaluator) (added : List String)
    (own : (ev.custom.map (·.symbol)).filter (fun s =>
      !(Relation.all.map Relation.symbol).contains s) = added)
    (sorted : (Relation.all.map Relation.symbol ++ added).Pairwise fun s t =>
      t.length ≤ s.length) : ev.symbols = Relation.all.map Relation.symbol ++ added := by
  simp only [Evaluator.symbols, own]
  exact List.mergeSort_of_pairwise (sorted.imp fun longer => decide_eq_true longer)

/-- Numbers in literals are in range. -/
theorem inRange_readNumber (text : List Char) : (readNumber text).InRange := by
  have zero : Binary64.zero.InRange := ⟨twoTo_pos 53, by decide⟩
  simp only [readNumber]
  split
  · exact zero
  · split
    · rename_i x read
      exact Decimal.inRange_of_read? read
    · split
      · trivial
      · split <;> trivial

/-- A literal is never a whole number that is too large for a floating-point number. -/
theorem fits_readLiteral (text : List Char) : (readLiteral text).Fits := by
  have inRange := inRange_readNumber (unquote text)
  simp only [readLiteral]
  split
  · split
    · trivial
    · split <;> trivial
  · split
    · rename_i n whole
      obtain ⟨x, made⟩ := Binary64.exists_ofInt?_of_toInt? inRange whole
      simp [Value.Fits, made]
    · trivial

theorem toNumber_eq_error {v : Value} {failure : Failure}
    (stopped : toNumber v = .error failure) : failure = .misuse .size ∧ ¬ v.Fits := by
  cases v with
  | int n =>
    simp only [toNumber, primitive] at stopped
    split at stopped
    · cases stopped
    · rename_i large
      cases stopped
      simp [Value.Fits, large]
  | _ => cases stopped

/-- Is it a relation of order, which compares numbers? -/
def Relation.IsOrder (r : Relation) : Prop := r ≠ .equal ∧ r ≠ .unequal

theorem holds_eq_error {r : Relation} {left right : Value} {failure : Failure}
    (stopped : r.holds left right = .error failure) :
    failure = .misuse .size ∧ r.IsOrder ∧ (¬ left.Fits ∨ ¬ right.Fits) := by
  have numbers (compared : (do
      let x ← toNumber left
      let y ← toNumber right
      return r.ofNumbers x y : Except Failure Bool) = .error failure) :
      failure = .misuse .size ∧ (¬ left.Fits ∨ ¬ right.Fits) := by
    cases first : toNumber left with
    | error failure' =>
      rw [first] at compared
      cases compared
      obtain ⟨size, large⟩ := toNumber_eq_error first
      exact ⟨size, Or.inl large⟩
    | ok x =>
      cases second : toNumber right with
      | error failure' =>
        rw [first, second] at compared
        cases compared
        obtain ⟨size, large⟩ := toNumber_eq_error second
        exact ⟨size, Or.inr large⟩
      | ok y =>
        rw [first, second] at compared
        cases compared
  have order : r.IsOrder := by
    constructor <;> rintro rfl <;> cases stopped
  obtain ⟨size, large⟩ : failure = .misuse .size ∧ (¬ left.Fits ∨ ¬ right.Fits) := by
    cases r with
    | equal => cases stopped
    | unequal => cases stopped
    | _ => exact numbers stopped
  exact ⟨size, order, large⟩

/-- A relation of order occurs in the text, and so does the key of an answer that is too
large to be compared by it. -/
def Overflows (answers : Answers) (text : List Char) : Prop :=
  ∃ (r : Relation) (key : String) (answer : Value), r.IsOrder ∧ r.symbol.toList <:+: text ∧
    key.toList <:+: text ∧ Table.get? answers key = some answer ∧ ¬ answer.Fits

theorem Overflows.mono {answers : Answers} {part text : List Char}
    (large : Overflows answers part) (inside : part <:+: text) :
    Overflows answers text := by
  obtain ⟨r, key, answer, order, sign, named, found, size⟩ := large
  exact ⟨r, key, answer, order, sign.trans inside, named.trans inside, found, size⟩

theorem Overflows.not_fit {answers : Answers} {text : List Char}
    (large : Overflows answers text) : ¬ answers.Fit := by
  obtain ⟨_, _, _, _, _, _, found, size⟩ := large
  exact fun fit => size (fit.get? found)

/-- What can stop an evaluation: a condition that cannot be read or an operator of one's
own, or an answer that is too large to be compared. -/
inductive Stops (answers : Answers) (text : List Char) : Failure → Prop
  | condition (fault : ConditionFault) : Stops answers text (.condition fault)
  | size (large : Overflows answers text) : Stops answers text (.misuse .size)

variable {ev : Evaluator} {answers : Answers} {failure : Failure}

theorem Stops.mono {part text : List Char} (stops : Stops answers part failure)
    (inside : part <:+: text) : Stops answers text failure := by
  cases stops with
  | condition fault => exact .condition fault
  | size large => exact .size (large.mono inside)

/-- A text is cut at one of the symbols, unless none of them cuts it in two. -/
theorem cutComparison_cases (text : List Char) {symbols : List String}
    (filled : ∀ symbol ∈ symbols, symbol ≠ "") :
    (cutComparison text symbols = .ok none ∧
      ∀ symbol ∈ symbols, (Text.splitOn symbol.toList text).length ≠ 2) ∨
    ∃ symbol ∈ symbols, (Text.splitOn symbol.toList text).length = 2 ∧
      ∃ key literal, cutComparison text symbols = .ok (some (symbol, key, literal)) := by
  induction symbols with
  | nil => exact Or.inl ⟨rfl, by simp⟩
  | cons symbol rest ih =>
    obtain ⟨here, later⟩ := List.forall_mem_cons.mp filled
    have named : symbol.isEmpty = false := by
      simpa using here
    unfold cutComparison
    simp only [named, Bool.false_eq_true, if_false]
    split
    · rename_i left right cut
      exact Or.inr ⟨symbol, List.mem_cons_self, by rw [cut]; rfl, _, _, rfl⟩
    · rename_i uncut
      have passed : (Text.splitOn symbol.toList text).length ≠ 2 := by
        intro two
        obtain ⟨left, right, cut⟩ := List.length_eq_two.mp two
        exact uncut left right cut
      rcases ih later with ⟨none, others⟩ | ⟨other, inside, cut⟩
      · exact Or.inl ⟨none, List.forall_mem_cons.mpr ⟨passed, others⟩⟩
      · exact Or.inr ⟨other, List.mem_cons_of_mem _ inside, cut⟩

/-- A text that a symbol cuts in two has the symbol in it. -/
theorem infix_of_cut {sep text : List Char} (two : (Text.splitOn sep text).length = 2) :
    sep <:+: text := by
  by_contra free
  rw [Text.splitOn_of_not_infix free] at two
  cases two

theorem compare_stops {text literal : List Char} {symbol key : String} {answer : Value}
    (sign : symbol.toList <:+: text) (part : key.toList <:+: text)
    (found : Table.get? answers key = some answer)
    (stopped : ev.compare text symbol answer (readLiteral literal) = .error failure) :
    Stops answers text failure := by
  unfold Evaluator.compare at stopped
  split at stopped
  · split at stopped
    · cases stopped
    · cases stopped
      exact .condition _
  · unfold compareBy at stopped
    split at stopped
    · rename_i r known
      have same : r.symbol = symbol := by
        simpa using List.find?_some known
      obtain ⟨rfl, order, large | large⟩ := holds_eq_error stopped
      · exact .size ⟨r, key, answer, order, same ▸ sign, part, found, large⟩
      · exact absurd (fits_readLiteral literal) large
    · cases stopped
      exact .condition _

/-- A part without marks is a comparison. -/
theorem evaluateAtom_unmarked {text : List Char}
    (noIncludes : Text.occursIn includesMark.toList text = false)
    (noExcludes : Text.occursIn excludesMark.toList text = false) :
    ev.evaluateAtom answers text = ev.evaluateComparison answers text := by
  simp only [Evaluator.evaluateAtom, noIncludes, noExcludes, Bool.false_eq_true, if_false]

theorem evaluateComparison_of_cut {text key literal : List Char} {symbol : String}
    {answer : Value}
    (cut : cutComparison text ev.symbols = .ok (some (symbol, key, literal)))
    (found : Table.get? answers (String.ofList key) = some answer)
    (given : answer ≠ .null) :
    ev.evaluateComparison answers text =
      ev.compare text symbol answer (readLiteral literal) := by
  simp only [Evaluator.evaluateComparison, cut, found, bind, Except.bind]

variable (named : ∀ op ∈ ev.custom, op.symbol ≠ "")

include named in
theorem evaluateComparison_stops {text : List Char}
    (stopped : ev.evaluateComparison answers text = .error failure) :
    Stops answers text failure := by
  have filled : ∀ symbol ∈ ev.symbols, symbol ≠ "" :=
    fun _ known => symbols_filled named known
  rcases cutComparison_cases text filled with
    ⟨cut, _⟩ | ⟨symbol, known, two, key, literal, cut⟩
  · simp only [Evaluator.evaluateComparison, cut, bind, Except.bind] at stopped
    cases stopped
    exact .condition _
  · have sign : symbol.toList <:+: text := infix_of_cut two
    have part : (String.ofList key).toList <:+: text := by
      rw [String.toList_ofList]
      exact cutComparison_key cut
    simp only [Evaluator.evaluateComparison, cut, bind, Except.bind] at stopped
    split at stopped
    · cases stopped
    · cases stopped
    · rename_i answer found
      exact compare_stops sign part found stopped

include named in
theorem evaluateAtom_stops {text : List Char}
    (stopped : ev.evaluateAtom answers text = .error failure) :
    Stops answers text failure := by
  unfold Evaluator.evaluateAtom at stopped
  split at stopped
  · split at stopped <;> cases stopped
    exact .condition _
  · split at stopped
    · split at stopped <;> cases stopped
      exact .condition _
    · exact evaluateComparison_stops named stopped

include named in
theorem evaluateConjunction_stops {text : List Char}
    (stopped : ev.evaluateConjunction answers text = .error failure) :
    Stops answers text failure := by
  rw [evaluateConjunction_eq] at stopped
  obtain ⟨before, part, after, listed, _, fails⟩ := allM_eq_error stopped
  exact (evaluateAtom_stops named fails).mono (infix_of_mem_parts (by rw [listed]; simp))

include named in
/-- A lenient evaluator is stopped by the size of an answer alone. -/
theorem evaluate_stops (lenient : ev.strict = false) {expression : String}
    (stopped : ev.evaluate expression answers = .error failure) :
    failure = .misuse .size ∧ Overflows answers expression.toList := by
  rw [evaluate_eq] at stopped
  split at stopped
  · cases stopped
  · cases result : (alternatives expression).anyM (ev.evaluateConjunction answers) with
    | ok b =>
      rw [result] at stopped
      cases stopped
    | error failure' =>
      obtain ⟨before, alternative, after, listed, _, fails⟩ := anyM_eq_error result
      have inside : alternative <:+: expression.toList :=
        infix_of_mem_alternatives (by rw [listed]; simp)
      cases (evaluateConjunction_stops named fails).mono inside with
      | condition fault =>
        rw [result, Evaluator.settle, lenient] at stopped
        cases stopped
      | size large =>
        rw [result] at stopped
        cases stopped
        exact ⟨rfl, large⟩

end Condition

/-- Is the value a condition: a text, or nothing? -/
def Value.IsCondition (v : Value) : Prop := v = .null ∨ ∃ expression, v = .text expression

/-- The condition could compare an answer by order that is too large for it. -/
def Value.Overflows (answers : Answers) : Value → Prop
  | .text expression => Condition.Overflows answers expression.toList
  | _ => False

namespace Condition

theorem exists_ok {α : Type} {result : Except Failure α}
    (goesOn : ∀ failure, result ≠ .error failure) : ∃ a, result = .ok a := by
  cases result with
  | ok a => exact ⟨a, rfl⟩
  | error failure => exact absurd rfl (goesOn failure)

theorem exists_allM {α : Type} {p : α → Except Failure Bool} {items : List α}
    (each : ∀ a ∈ items, ∃ b, p a = .ok b) : ∃ b, items.allM p = .ok b := by
  apply exists_ok
  intro failure stopped
  obtain ⟨before, a, after, rfl, _, fails⟩ := allM_eq_error stopped
  obtain ⟨b, result⟩ := each a (by simp)
  rw [result] at fails
  cases fails

theorem exists_filterM {α : Type} {p : α → Except Failure Bool} {items : List α}
    (each : ∀ a ∈ items, ∃ b, p a = .ok b) : ∃ kept, items.filterM p = .ok kept := by
  have collected (kept : List α) : ∃ all, items.filterAuxM p kept = .ok all := by
    induction items generalizing kept with
    | nil => exact ⟨kept, rfl⟩
    | cons a rest ih =>
      obtain ⟨b, result⟩ := each a List.mem_cons_self
      simp only [List.filterAuxM, result, bind, Except.bind]
      exact ih (fun a inside => each a (List.mem_cons_of_mem _ inside)) _
  obtain ⟨all, done⟩ := collected []
  exact ⟨all.reverse, by simp only [List.filterM, done, bind, Except.bind, pure,
    Except.pure]⟩

end Condition

open Condition

/-- A lenient evaluator gives a truth value for every condition, whatever its text, its
operators and the answers, unless an answer is a whole number that is too large to be
compared by an order that the condition names; nothing else stops it. So conditions keep
neither the visible questions nor the visible answers from being found. -/
theorem Condition.evaluate_lenient (ev : Evaluator) (lenient : ev.strict = false)
    (named : ∀ op ∈ ev.custom, op.symbol ≠ "") (answers : Answers) :
    (∀ v : Value, v.IsCondition →
        (∃ b, ev.evaluateValue answers v = .ok b) ∨
          ev.evaluateValue answers v = .error (.misuse .size) ∧ v.Overflows answers) ∧
      ∀ questions : List Question,
        (∀ q ∈ questions, ∀ v ∈ q.visibility.toList,
          v.IsCondition ∧ ¬ v.Overflows answers) →
          (∀ q ∈ questions, ∃ b, q.isVisible ev answers = .ok b) ∧
          (∃ shown, Question.visible ev answers questions = .ok shown) ∧
          ((∀ q ∈ questions, q.id.isKey = true) →
            ∃ kept, answers.visible ev questions = .ok kept) := by
  have evaluated : ∀ v : Value, v.IsCondition →
      (∃ b, ev.evaluateValue answers v = .ok b) ∨
        ev.evaluateValue answers v = .error (.misuse .size) ∧ v.Overflows answers := by
    rintro v (rfl | ⟨expression, rfl⟩)
    · exact Or.inl ⟨true, rfl⟩
    · cases result : ev.evaluate expression answers with
      | ok b => exact Or.inl ⟨b, result⟩
      | error failure =>
        obtain ⟨rfl, large⟩ := evaluate_stops named lenient result
        exact Or.inr ⟨result, large⟩
  refine ⟨evaluated, ?_⟩
  intro questions conditions
  have visible : ∀ q ∈ questions, ∃ b, q.isVisible ev answers = .ok b := by
    intro q inside
    apply exists_allM
    intro v listed
    obtain ⟨condition, fits⟩ := conditions q inside v listed
    rcases evaluated v condition with settled | ⟨_, large⟩
    · exact settled
    · exact absurd large fits
  refine ⟨visible, exists_filterM visible, ?_⟩
  intro keyed
  obtain ⟨index, indexed⟩ := Question.exists_byId.mpr keyed
  rw [Answers.visible_eq, indexed]
  apply exists_filterM
  intro entry _
  unfold Answers.keeps
  split
  · exact ⟨true, rfl⟩
  · rename_i q found
    rw [Question.get?_byId indexed] at found
    exact visible q (Question.mem_of_ofKey? found)

/-- An evaluator with an operator that looks for a text in another one, and one that always
fails. -/
def searchingEvaluator : Evaluator where
  custom :=
    [⟨"~", fun answer literal =>
      .ok (Text.occursIn literal.display.toList answer.display.toList)⟩,
    ⟨"@", fun _ _ => .error "bad operands"⟩]

/-- Answers of many kinds; the number of a file is larger than any floating-point number. -/
def assortedAnswers : Answers :=
  [("age", .text "25"), ("dossier", .int (twoTo 1024)),
    ("aides", .list [.text "apl", .null, .map []]),
    ("commune", .combobox (.text "Rennes") (.text "35238")),
    ("naissance", .date ⟨2005, 6, 12, by decide⟩)]

/-- Questions with conditions that cannot be read, that fail, and that compare the number of
the file by equality. -/
def assortedQuestions : List Question :=
  [{ id := .text "logement", title := .text "Logement", type := .radio
     visibility := .conditions [.text "age>=18&&commune~Ren||aides.includes(", .null] },
    { id := .text "depart", title := .text "Départ", type := .date
      visibility := .condition "naissance@2000||dossier=1" }]

/-- The number of the file is the one answer that is too large. -/
theorem Answers.large_assorted {key : String} {answer : Value}
    (found : Table.get? assortedAnswers key = some answer) (large : ¬ answer.Fits) :
    key = "dossier" := by
  have only : ∀ entry ∈ assortedAnswers, ¬ entry.2.Fits → entry.1 = "dossier" := by
    decide +kernel
  obtain ⟨key', there, same⟩ := Table.mem_of_get? found
  rw [← beq_iff_eq.mp same]
  exact only _ there large

theorem Condition.evaluate_lenient_assorted :
    searchingEvaluator.strict = false ∧ (∀ op ∈ searchingEvaluator.custom, op.symbol ≠ "") ∧
      (∀ q ∈ assortedQuestions, ∀ v ∈ q.visibility.toList, v.IsCondition ∧
        ¬ v.Overflows assortedAnswers) ∧
      (∀ q ∈ assortedQuestions, q.id.isKey = true) ∧
      (∃ shown, Question.visible searchingEvaluator assortedAnswers assortedQuestions =
        .ok shown) ∧
      ∃ kept, assortedAnswers.visible searchingEvaluator assortedQuestions = .ok kept := by
  have named : ∀ op ∈ searchingEvaluator.custom, op.symbol ≠ "" := by decide
  have keyed : ∀ q ∈ assortedQuestions, q.id.isKey = true := by decide
  have housing :
      ¬ Overflows assortedAnswers "age>=18&&commune~Ren||aides.includes(".toList := by
    rintro ⟨r, key, answer, _, _, part, found, large⟩
    rw [Answers.large_assorted found large] at part
    exact absurd (Text.occursIn_iff.mpr part) (by decide)
  have departure : ¬ Overflows assortedAnswers "naissance@2000||dossier=1".toList := by
    rintro ⟨r, key, answer, order, sign, _⟩
    have absent : ∀ r ∈ Relation.all, r ≠ .equal →
        Text.occursIn r.symbol.toList "naissance@2000||dossier=1".toList = false := by decide
    have known : r ∈ Relation.all := by cases r <;> decide
    exact Text.occursIn_eq_false.mp (absent r known order.1) sign
  have conditions : ∀ q ∈ assortedQuestions, ∀ v ∈ q.visibility.toList,
      v.IsCondition ∧ ¬ v.Overflows assortedAnswers := by
    simp only [assortedQuestions, List.forall_mem_cons, Visibility.toList, List.not_mem_nil,
      false_implies, implies_true, and_true]
    exact ⟨⟨⟨Or.inr ⟨_, rfl⟩, housing⟩, Or.inl rfl, id⟩, Or.inr ⟨_, rfl⟩, departure⟩
  obtain ⟨_, visible⟩ := evaluate_lenient searchingEvaluator rfl named assortedAnswers
  obtain ⟨_, shown, kept⟩ := visible assortedQuestions conditions
  exact ⟨rfl, named, conditions, keyed, shown, kept keyed⟩

/-- The number of a file cannot be compared by order, and no text can be cut at an operator
without a symbol: a lenient evaluator fails on both. -/
theorem Condition.evaluate_oversized :
    let unnamed : Evaluator := { custom := [⟨"", fun answer _ => .ok answer.truthy⟩] }
    Evaluator.evaluate {} "dossier>=18" assortedAnswers = .error (.misuse .size) ∧
      unnamed.evaluate "age" assortedAnswers =
        .error (.misuse (.content "empty separator")) := by
  intro unnamed
  constructor
  · have symbols := symbols_of_sorted {} [] rfl (by decide)
    have cut : cutComparison "dossier>=18".toList (Evaluator.symbols {}) =
        .ok (some (">=", "dossier".toList, "18".toList)) := by
      rw [symbols]
      rfl
    have found : Table.get? assortedAnswers "dossier" = some (.int (twoTo 1024)) := rfl
    have large : Binary64.ofInt? (twoTo 1024) = none := by decide +kernel
    have one : alternatives "dossier>=18" = ["dossier>=18".toList] := by decide
    have sole : parts "dossier>=18".toList = ["dossier>=18".toList] := by decide
    rw [evaluate_single {} assortedAnswers one sole,
      evaluateAtom_unmarked (by decide) (by decide),
      evaluateComparison_of_cut cut found nofun]
    have order : Relation.ofSymbol? ">=" = some .atLeast := by decide
    simp only [Evaluator.compare, Evaluator.custom?, List.find?_nil, compareBy, order,
      Relation.holds, toNumber, primitive, large, bind, Except.bind, Evaluator.settle]
  · have symbols : unnamed.symbols = Relation.all.map Relation.symbol ++ [""] :=
      symbols_of_sorted _ _ (by decide) (by decide)
    have cut : cutComparison "age".toList unnamed.symbols =
        .error (.misuse (.content "empty separator")) := by
      rw [symbols]
      rfl
    have one : alternatives "age" = ["age".toList] := by decide
    have sole : parts "age".toList = ["age".toList] := by decide
    rw [evaluate_single unnamed assortedAnswers one sole,
      evaluateAtom_unmarked (by decide) (by decide)]
    simp only [Evaluator.evaluateComparison, cut, bind, Except.bind, Evaluator.settle]

end Questionnaire
