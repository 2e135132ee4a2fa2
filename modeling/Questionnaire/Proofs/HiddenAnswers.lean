import Mathlib.Data.List.Forall2
import Questionnaire.Compilation
import Questionnaire.Proofs.Cutting
import Questionnaire.Proofs.KeyEquality
import Questionnaire.Survey

/-!
# Hidden answers

Whatever a condition looks up is a part of its text: the evaluator cuts and trims the text
and makes up no key of its own. So a condition depends on the answers under such keys alone.
An answer to a hidden question that no condition mentions is dropped before anything has
looked at it, and a compilation cannot depend on it.
-/

namespace Questionnaire

namespace Answers

/-- The answers are the same under every key that is a part of the text: the same value, or
none for both. -/
def AgreeOn (text : List Char) (answers others : Answers) : Prop :=
  ∀ key : String, key.toList <:+: text → Table.get? answers key = Table.get? others key

variable {answers others : Answers}

theorem AgreeOn.mono {text part : List Char} (agree : AgreeOn text answers others)
    (inside : part <:+: text) : AgreeOn part answers others :=
  fun key there => agree key (there.trans inside)

theorem AgreeOn.get? {text key : List Char} (agree : AgreeOn text answers others)
    (inside : key <:+: text) :
    Table.get? answers (String.ofList key) = Table.get? others (String.ofList key) := by
  apply agree
  rw [String.toList_ofList]
  exact inside

end Answers

namespace Condition

/-- The key of a call starts the text. -/
theorem callParts?_splits {mark text key argument : List Char}
    (cut : callParts? mark text = some (key, argument)) : key <+: text := by
  induction text generalizing key with
  | nil => cases cut
  | cons c text ih =>
    cases later : callParts? mark text with
    | some parts =>
      obtain ⟨rest, argument'⟩ := parts
      simp only [callParts?, later, Option.some.injEq, Prod.mk.injEq] at cut
      obtain ⟨rfl, rfl⟩ := cut
      exact (List.prefix_cons_inj c).mpr (ih later)
    | none =>
      simp only [callParts?, later] at cut
      split at cut
      · obtain ⟨found, _, same⟩ := Option.map_eq_some_iff.mp cut
        obtain ⟨rfl, rfl⟩ := Prod.mk.inj same
        exact (List.prefix_cons_inj c).mpr List.nil_prefix
      · cases cut

/-- The key of a membership test is a part of its text. -/
theorem readMembership?_key {mark : String} {text : List Char} {key : String}
    {ids : List String} (read : readMembership? mark text = some (key, ids)) :
    key.toList <:+: text := by
  unfold readMembership? at read
  split at read
  · cases read
  · obtain ⟨⟨front, argument⟩, cut, same⟩ := Option.map_eq_some_iff.mp read
    obtain ⟨rfl, rfl⟩ := Prod.mk.inj same
    rw [String.toList_ofList]
    exact (Text.trim_infix front).trans (callParts?_splits cut).isInfix

/-- The key of a comparison is a part of its text. -/
theorem cutComparison_key {text key literal : List Char} {symbols : List String}
    {symbol : String}
    (cut : cutComparison text symbols = .ok (some (symbol, key, literal))) :
    key <:+: text := by
  induction symbols with
  | nil => cases cut
  | cons first rest ih =>
    unfold cutComparison at cut
    split at cut
    · cases cut
    · split at cut
      · rename_i left right pieces
        cases cut
        have inside : left ∈ Text.splitOn symbol.toList text := by
          rw [pieces]
          exact List.mem_cons_self
        exact (Text.trim_infix left).trans (Text.infix_of_mem_splitOn inside)
      · exact ih cut

theorem allM_congr {α : Type} {p q : α → Except Failure Bool} {items : List α}
    (same : ∀ a ∈ items, p a = q a) : items.allM p = items.allM q := by
  induction items with
  | nil => rfl
  | cons a rest ih =>
    rw [List.allM_cons, List.allM_cons, same a List.mem_cons_self,
      ih fun b inside => same b (List.mem_cons_of_mem a inside)]

theorem anyM_congr {α : Type} {p q : α → Except Failure Bool} {items : List α}
    (same : ∀ a ∈ items, p a = q a) : items.anyM p = items.anyM q := by
  induction items with
  | nil => rfl
  | cons a rest ih =>
    rw [List.anyM_cons, List.anyM_cons, same a List.mem_cons_self,
      ih fun b inside => same b (List.mem_cons_of_mem a inside)]

section Local

variable {answers others : Answers} (ev : Evaluator)

theorem evaluateComparison_local {text : List Char}
    (agree : Answers.AgreeOn text answers others) :
    ev.evaluateComparison answers text = ev.evaluateComparison others text := by
  cases cut : cutComparison text ev.symbols with
  | error failure => simp only [Evaluator.evaluateComparison, cut, bind, Except.bind]
  | ok parts =>
    cases parts with
    | none => simp only [Evaluator.evaluateComparison, cut, bind, Except.bind]
    | some parts =>
      obtain ⟨symbol, key, literal⟩ := parts
      have same := agree.get? (cutComparison_key cut)
      simp only [Evaluator.evaluateComparison, cut, bind, Except.bind, same]

theorem evaluateAtom_local {text : List Char}
    (agree : Answers.AgreeOn text answers others) :
    ev.evaluateAtom answers text = ev.evaluateAtom others text := by
  have membership (mark : String) (key : String) (ids : List String)
      (read : readMembership? mark text = some (key, ids)) :
          Table.get? answers key = Table.get? others key :=
    agree key (readMembership?_key read)
  unfold Evaluator.evaluateAtom
  split
  · split
    · rename_i key ids read
      rw [membership _ key ids read]
    · rfl
  · split
    · split
      · rename_i key ids read
        rw [membership _ key ids read]
      · rfl
    · exact evaluateComparison_local ev agree

/-- The parts that a text is cut into agree where the text does. -/
theorem agreeOn_part {sep text part : List Char}
    (agree : Answers.AgreeOn text answers others)
    (inside : part ∈ (Text.splitOn sep text).map Text.trim) :
    Answers.AgreeOn part answers others := by
  obtain ⟨piece, cut, rfl⟩ := List.mem_map.mp inside
  exact agree.mono ((Text.trim_infix piece).trans (Text.infix_of_mem_splitOn cut))

theorem evaluateConjunction_local {text : List Char}
    (agree : Answers.AgreeOn text answers others) :
    ev.evaluateConjunction answers text = ev.evaluateConjunction others text :=
  allM_congr fun _ inside => evaluateAtom_local ev (agreeOn_part agree inside)

theorem evaluateAlternatives_local {text : List Char}
    (agree : Answers.AgreeOn text answers others) :
    ev.evaluateAlternatives answers text = ev.evaluateAlternatives others text :=
  anyM_congr fun _ inside => evaluateConjunction_local ev (agreeOn_part agree inside)

/-- A condition depends on the answers under the parts of its text alone. -/
theorem evaluate_local {expression : String}
    (agree : Answers.AgreeOn expression.toList answers others) :
    ev.evaluate expression answers = ev.evaluate expression others := by
  have same :=
    evaluateAlternatives_local ev (agree.mono (Text.trim_infix expression.toList))
  simp only [Evaluator.evaluate, same]

end Local

end Condition

open Condition (Evaluator)

namespace Question

/-- The question that the answer under a key is for: the last one with that id. -/
def ofKey? (questions : List Question) (key : String) : Option Question :=
  (questions.filter fun q => q.id == .text key).getLast?

/-- No condition of the questions has the key as a part. -/
def Unmentioned (questions : List Question) (key : String) : Prop :=
  ∀ q ∈ questions, ∀ expression, .text expression ∈ q.visibility.toList →
    ¬ key.toList <:+: expression.toList

end Question

/-- Questions have an index if and only if their ids can be keys. -/
theorem Question.exists_byId {questions : List Question} :
    (∃ index, byId questions = .ok index) ↔ ∀ q ∈ questions, q.id.isKey = true := by
  rw [byId, ← List.all_eq_true]
  split <;> simp_all

/-- The index of the questions leads from a key to its question. -/
theorem Question.get?_byId {questions : List Question} {index : Table Value Question}
    (indexed : byId questions = .ok index) (key : String) :
    Table.get? index (.text key) = ofKey? questions key := by
  unfold byId at indexed
  split at indexed
  · cases indexed
    rw [Table.ofEntries, Table.get?_putAll (Table.get?_put_key · · · rfl), List.filter_map,
      List.getLast?_map, Option.map_map]
    simp only [Table.get?_nil, Option.or_none, ofKey?, Function.comp_def]
    exact Option.map_id'
  · cases indexed

/-- The question of a key is one of the questions. -/
theorem Question.mem_of_ofKey? {questions : List Question} {key : String} {q : Question}
    (found : ofKey? questions key = some q) : q ∈ questions :=
  List.mem_of_mem_filter (List.mem_of_getLast? found)

namespace Answers

/-- The key belongs to a question, and that is not asked. -/
def Hidden (ev : Evaluator) (questions : List Question) (answers : Answers) (key : String) :
    Prop :=
  ∃ q, Question.ofKey? questions key = some q ∧ q.isVisible ev answers = .ok false

/-- The same keys in the same order, with other values only where the property holds of the
key. -/
def DifferAt (p : String → Prop) (answers others : Answers) : Prop :=
  List.Forall₂ (fun entry other => entry.1 = other.1 ∧
    (entry.2 = other.2 ∨ p entry.1)) answers others

variable {answers others : Answers}

theorem DifferAt.get? {p : String → Prop} (differ : DifferAt p answers others)
    {key : String} (same : ¬p key) : Table.get? answers key = Table.get? others key := by
  induction differ with
  | nil => rfl
  | @cons entry other _ _ alike _ ih =>
    obtain ⟨named, value⟩ := alike
    simp only [Table.get?, ← named, ih]
    by_cases here : (entry.1 == key) = true
    · rcases value with value | different
      · rw [value]
      · rw [beq_iff_eq.mp here] at different
        exact absurd different same
    · simp only [here, Bool.false_eq_true, if_false]

/-- Answers that differ under unmentioned keys alone make the same questions visible. -/
theorem isVisible_of_unmentioned (ev : Evaluator) {questions : List Question}
    (differ : DifferAt (Question.Unmentioned questions) answers others) {q : Question}
    (inside : q ∈ questions) : q.isVisible ev answers = q.isVisible ev others := by
  apply Condition.allM_congr
  intro condition listed
  cases condition with
  | text expression =>
    apply Condition.evaluate_local
    intro key part
    apply differ.get?
    intro unmentioned
    exact unmentioned q inside expression listed part
  | _ => rfl

/-- Is an answer kept, given the questions by id? -/
def keeps (ev : Evaluator) (index : Table Value Question) (answers : Answers)
    (entry : String × Value) : Except Failure Bool :=
  match Table.get? index (.text entry.1) with
  | none => .ok true
  | some q => q.isVisible ev answers

theorem visible_eq (ev : Evaluator) (questions : List Question) (answers : Answers) :
    answers.visible ev questions =
      (Question.byId questions).bind fun index =>
        List.filterM (keeps ev index answers) answers := rfl

/-- What is dropped from both lists need not be the same in them. -/
theorem filterM_of_dropped {p : String × Value → Except Failure Bool}
    {first second : Answers}
    (alike : List.Forall₂ (fun entry other => entry = other ∨ p entry = .ok false ∧
      p other = .ok false) first second) :
    List.filterM p first = List.filterM p second := by
  have collected (kept : Answers) :
      List.filterAuxM p first kept = List.filterAuxM p second kept := by
    induction alike generalizing kept with
    | nil => rfl
    | cons same _ ih =>
      rcases same with rfl | ⟨dropped, dropped'⟩
      · simp only [List.filterAuxM, ih]
      · simp only [List.filterAuxM, dropped, dropped', bind, Except.bind, cond_false, ih]
  simp only [List.filterM, collected]

/-- Answers that differ only under keys that are hidden and unmentioned leave the same
answers visible. -/
theorem visible_of_differAt (ev : Evaluator) (questions : List Question)
    (differ : DifferAt (fun key => Hidden ev questions answers key ∧
      Question.Unmentioned questions key) answers others) :
    answers.visible ev questions = others.visible ev questions := by
  have unmentioned : DifferAt (Question.Unmentioned questions) answers others :=
    differ.imp fun _ _ alike => ⟨alike.1, alike.2.imp_right And.right⟩
  rw [visible_eq, visible_eq]
  cases indexed : Question.byId questions with
  | error failure => simp only [Except.bind]
  | ok index =>
    have kept : keeps ev index others = keeps ev index answers := by
      funext entry
      unfold keeps
      cases found : Table.get? index (.text entry.1) with
      | none => rfl
      | some q =>
        rw [Question.get?_byId indexed] at found
        exact (isVisible_of_unmentioned ev unmentioned (Question.mem_of_ofKey? found)).symm
    simp only [Except.bind, kept]
    apply filterM_of_dropped
    refine differ.imp ?_
    rintro ⟨key, value⟩ ⟨key', other⟩ ⟨rfl, same | ⟨⟨q, asked, hidden⟩, _⟩⟩
    · exact Or.inl (Prod.ext rfl same)
    · right
      rw [← Question.get?_byId indexed] at asked
      simp only [keeps, asked, hidden, and_self]

end Answers

/-- Answers to hidden questions do not leak, if no condition mentions their keys: whatever
they are, the same answers stay visible, or the same failure is met, and so a compilation of
them is the same. A condition has the same value, or fails alike, for any answers that agree
on the parts of its text. -/
theorem Answers.visible_of_hidden (ev : Evaluator) (questions : List Question)
    {answers others : Answers}
    (differ : DifferAt (fun key => Hidden ev questions answers key ∧
      Question.Unmentioned questions key) answers others) :
    answers.visible ev questions = others.visible ev questions ∧
      (∀ options registry today probes,
        ((Survey.mk questions answers probes).preparedAnswers ev registry).bind
            (compile options registry today · probes) =
          ((Survey.mk questions others probes).preparedAnswers ev registry).bind
            (compile options registry today · probes)) ∧
      ∀ expression first second, AgreeOn expression.toList first second →
        ev.evaluate expression first = ev.evaluate expression second := by
  have same := visible_of_differAt ev questions differ
  refine ⟨same, ?_, ?_⟩
  · intro options registry today probes
    simp only [Survey.preparedAnswers, Survey.visibleAnswers, same]
  · intro expression first second agree
    exact Condition.evaluate_local ev agree

theorem eq_ok_of_toOption {α : Type} {result : Except Failure α} {a : α}
    (h : result.toOption = some a) : result = .ok a := by
  cases result with
  | error failure => cases h
  | ok b => exact congrArg Except.ok (Option.some.inj h)

/-- Questions about someone's status, about an internship, which is asked of students, and
about wages. -/
def internshipQuestions : List Question :=
  [{ id := .text "statut-professionnel", title := .text "Statut", type := .radio },
    { id := .text "situation-professionnelle", title := .text "Situation", type := .radio
      visibility := .condition "statut-professionnel.includes(\"etudiant\")" },
    { id := .text "salaire-net-mensuel", title := .text "Salaire", type := .number
      visibility :=
        .conditions [.text "statut-professionnel.excludes('retraite', 'sans-emploi')",
          .text " "] }]

/-- Someone who works, with what was answered about an internship before. -/
def employeeAnswers (situation : Value) : Answers :=
  [("statut-professionnel", .text "salarie"), ("situation-professionnelle", situation),
    ("salaire-net-mensuel", .int 1500), ("age", .int 25)]

theorem Question.unmentioned_internship :
    Unmentioned internshipQuestions "situation-professionnelle" := by
  intro q inside expression listed part
  have occurs := Text.occursIn_iff.mpr part
  simp only [internshipQuestions, List.mem_cons, List.not_mem_nil, or_false] at inside
  rcases inside with rfl | rfl | rfl <;>
    simp only [Visibility.toList, List.mem_cons, List.not_mem_nil, or_false,
      Value.text.injEq] at listed
  · subst listed
    revert occurs
    decide
  · rcases listed with rfl | rfl <;> revert occurs <;> decide

theorem Answers.visible_of_hidden_internship :
    let answers := employeeAnswers (.text "stage")
    let others := employeeAnswers (.list [.text "alternance", .null])
    DifferAt (fun key => Hidden {} internshipQuestions answers key ∧
      Question.Unmentioned internshipQuestions key)
        answers others ∧
      answers ≠ others ∧
      answers.visible {} internshipQuestions =
        .ok [("statut-professionnel", .text "salarie"), ("salaire-net-mensuel", .int 1500),
          ("age", .int 25)] ∧
      others.visible {} internshipQuestions = answers.visible {} internshipQuestions ∧
      AgreeOn "age<30 && age".toList [("age", .int 25)] [("nom", .text "Ada"),
        ("age", .int 25)] ∧
      Evaluator.evaluate { strict := true } "age<30 && age" [("age", .int 25)] =
        Evaluator.evaluate { strict := true } "age<30 && age" [("nom", .text "Ada"),
          ("age", .int 25)] := by
  intro answers others
  have hidden : Hidden {} internshipQuestions answers "situation-professionnelle" := by
    refine ⟨_, rfl, ?_⟩
    exact eq_ok_of_toOption (by decide +kernel)
  have differ : DifferAt
      (fun key => Hidden {} internshipQuestions answers key ∧
        Question.Unmentioned internshipQuestions key)
      answers others :=
    .cons ⟨rfl, .inl rfl⟩ (.cons ⟨rfl, .inr ⟨hidden, Question.unmentioned_internship⟩⟩
      (.cons ⟨rfl, .inl rfl⟩ (.cons ⟨rfl, .inl rfl⟩ .nil)))
  have agree : AgreeOn "age<30 && age".toList [("age", .int 25)] [("nom", .text "Ada"),
      ("age", .int 25)] := by
    intro key part
    by_cases unmentioned : key = "nom"
    · subst unmentioned
      exact absurd (Text.occursIn_iff.mpr part) (by decide)
    · simp [Table.get?, Ne.symm unmentioned]
  obtain ⟨same, _, evaluated⟩ := visible_of_hidden {} internshipQuestions differ
  refine ⟨differ, by decide, eq_ok_of_toOption (by decide +kernel), same.symm, agree, ?_⟩
  exact (visible_of_hidden { strict := true } [] .nil).2.2 _ _ _ agree

end Questionnaire
