import Mathlib.Data.List.Induction
import Questionnaire.Proofs.HiddenAnswers

/-!
# One answer per choice

Going through the answers, an expansion writes each one under its own key, or, for a
selection of a checkbox, a truth value under the id of each choice. Both kinds of keys are
in one table: what is written under a key stays unless a later answer is written under the
same key.
-/

namespace Questionnaire

/-- What is found under a key behind entries that agree on it: what they say, or else what
was there before. -/
theorem Table.get?_putAll_iff {α : Type} {t : Table String α} {entries : List (String × α)}
    {key : String} {value : α}
    (agree : ∀ a b, (key, a) ∈ entries → (key, b) ∈ entries → a = b) :
    get? (putAll t entries) key = some value ↔
      (key, value) ∈ entries ∨ (∀ other, (key, other) ∉ entries) ∧
        get? t key = some value := by
  induction entries generalizing t with
  | nil => simp [putAll]
  | cons entry rest ih =>
    obtain ⟨here, a⟩ := entry
    have agree' : ∀ a b, (key, a) ∈ rest → (key, b) ∈ rest → a = b :=
      fun a b first second =>
      agree a b (List.mem_cons_of_mem _ first) (List.mem_cons_of_mem _ second)
    have step : get? (putAll t ((here, a) :: rest)) key =
        get? (putAll (put t here a) rest) key := rfl
    rw [step, ih agree', get?_put_string]
    by_cases same : here = key
    · subst same
      rw [if_pos rfl, Option.some.injEq]
      constructor
      · rintro (later | ⟨_, rfl⟩)
        · exact Or.inl (List.mem_cons_of_mem _ later)
        · exact Or.inl List.mem_cons_self
      · rintro (inside | ⟨absent, _⟩)
        · by_cases later : ∃ b, (here, b) ∈ rest
          · obtain ⟨b, there⟩ := later
            rw [agree value b inside (List.mem_cons_of_mem _ there)]
            exact Or.inl there
          · exact Or.inr ⟨fun b there => later ⟨b, there⟩,
              agree a value List.mem_cons_self inside⟩
        · exact absurd List.mem_cons_self (absent a)
    · have elsewhere (b : α) : (key, b) ∈ (here, a) :: rest ↔ (key, b) ∈ rest := by
        simp [Ne.symm same]
      simp only [if_neg same, elsewhere]

namespace Answers

/-- The answer is a selection of the checkbox, and its key is not one to keep. -/
def Expands (questions : List Question) (keep : List String) (entry : String × Value)
    (q : Question) (items : List Value) : Prop :=
  entry.2 = .list items ∧ Question.ofKey? questions entry.1 = some q ∧ q.type = .checkbox ∧
    entry.1 ∉ keep

/-- What an answer is written as: itself under its own key, or under the id of each choice
whether that is selected. -/
inductive Writes (questions : List Question) (keep : List String) :
    String × Value → String → Value → Prop
  | whole {entry : String × Value}
      (kept : ∀ q items, ¬ Expands questions keep entry q items) :
      Writes questions keep entry entry.1 entry.2
  | choice {entry : String × Value} {q : Question} {items : List Value} {id : String}
      {selected : Bool}
      (expands : Expands questions keep entry q items) (listed : id ∈ q.choiceIds)
      (element : selected = true ↔ Value.text id ∈ items) :
          Writes questions keep entry id (.bool selected)

variable {questions : List Question} {keep : List String} {index : Table Value Question}

theorem Expands.unique {entry : String × Value} {q q' : Question}
    {items items' : List Value} (expands : Expands questions keep entry q items)
    (expands' : Expands questions keep entry q' items') : q = q' ∧ items = items' := by
  obtain ⟨list, found, _⟩ := expands
  obtain ⟨list', found', _⟩ := expands'
  exact ⟨Option.some.inj (found.symm.trans found'), Value.list.inj (list.symm.trans list')⟩

theorem any_text {items : List Value} {id : String} :
    items.any (· == .text id) = true ↔ Value.text id ∈ items := by
  simp only [List.any_eq_true, Value.same_text, exists_eq_right]

/-- A selection becomes one truth value per choice. -/
theorem expandOne_of_expands (indexed : Question.byId questions = .ok index)
    {entry : String × Value} {q : Question} {items : List Value}
    (expands : Expands questions keep entry q items) :
    expandOne index keep entry.1 entry.2 = q.choiceIds.map fun id =>
      (id, .bool (items.any (· == .text id))) := by
  obtain ⟨list, found, box, unkept⟩ := expands
  rw [← Question.get?_byId indexed] at found
  simp [expandOne, found, list, box, unkept]

/-- Every other answer stays what it is. -/
theorem expandOne_of_kept (indexed : Question.byId questions = .ok index)
    {entry : String × Value} (kept : ∀ q items, ¬ Expands questions keep entry q items) :
    expandOne index keep entry.1 entry.2 = [entry] := by
  unfold expandOne
  split
  · rename_i q items found list
    rw [Question.get?_byId indexed] at found
    split
    · rename_i condition
      simp only [Bool.and_eq_true, decide_eq_true_iff, Bool.not_eq_true',
        List.contains_eq_mem, decide_eq_false_iff_not] at condition
      exact absurd ⟨list, found, condition⟩ (kept q items)
    · rfl
  · rfl

/-- An answer is written as its expansion says. -/
theorem mem_expandOne (indexed : Question.byId questions = .ok index)
    (entry : String × Value) (key : String) (value : Value) :
    (key, value) ∈ expandOne index keep entry.1 entry.2 ↔
      Writes questions keep entry key value := by
  by_cases expanded : ∃ q items, Expands questions keep entry q items
  · obtain ⟨q, items, expands⟩ := expanded
    rw [expandOne_of_expands indexed expands]
    constructor
    · intro inside
      obtain ⟨id, listed, same⟩ := List.mem_map.mp inside
      cases same
      exact .choice expands listed any_text
    · intro writes
      cases writes with
      | whole kept => exact absurd expands (kept q items)
      | choice expands' listed element =>
        obtain ⟨rfl, rfl⟩ := expands.unique expands'
        rw [← any_text, ← Bool.eq_iff_iff] at element
        rw [element]
        exact List.mem_map_of_mem (f := fun id =>
          (id, Value.bool (items.any (· == .text id)))) listed
  · have kept : ∀ q items, ¬ Expands questions keep entry q items :=
      fun q items expands => expanded ⟨q, items, expands⟩
    rw [expandOne_of_kept indexed kept, List.mem_singleton]
    constructor
    · rintro rfl
      exact .whole kept
    · intro writes
      cases writes with
      | whole _ => rfl
      | choice expands _ _ => exact absurd expands (kept _ _)

theorem Writes.unique {entry : String × Value} {key : String} {value value' : Value}
    (writes : Writes questions keep entry key value)
    (writes' : Writes questions keep entry key value') : value = value' := by
  cases writes with
  | whole kept =>
    cases writes' with
    | whole _ => rfl
    | choice expands _ _ => exact absurd expands (kept _ _)
  | choice expands _ element =>
    cases writes' with
    | whole kept => exact absurd expands (kept _ _)
    | choice expands' _ element' =>
      obtain ⟨_, rfl⟩ := expands.unique expands'
      rw [Bool.eq_iff_iff.mpr (element.trans element'.symm)]

/-- The value is written under the key by an answer, and no later one writes there. -/
def Settles (questions : List Question) (keep : List String) (answers : Answers)
    (key : String) (value : Value) : Prop :=
  ∃ earlier entry later, answers = earlier ++ entry :: later ∧
    Writes questions keep entry key value ∧
    ∀ other ∈ later, ∀ v, ¬ Writes questions keep other key v

/-- One more answer settles what it writes and leaves the rest. -/
theorem settles_concat {answers : Answers} {entry : String × Value} {key : String}
    {value : Value} :
    Settles questions keep (answers ++ [entry]) key value ↔
      Writes questions keep entry key value ∨
        (∀ v, ¬ Writes questions keep entry key v) ∧
          Settles questions keep answers key value := by
  constructor
  · rintro ⟨earlier, writer, later, same, writes, silent⟩
    rcases List.eq_nil_or_concat' later with rfl | ⟨later, last, rfl⟩
    · obtain ⟨_, last⟩ := List.append_inj' same rfl
      cases last
      exact Or.inl writes
    · rw [← List.cons_append, ← List.append_assoc] at same
      obtain ⟨rfl, here⟩ := List.append_inj' same rfl
      cases here
      refine Or.inr ⟨silent entry (by simp), earlier, writer, later, rfl, writes, ?_⟩
      intro other inside
      exact silent other (List.mem_append_left _ inside)
  · rintro (writes | ⟨silent, earlier, writer, later, rfl, writes, silent'⟩)
    · exact ⟨answers, entry, [], rfl, writes, List.forall_mem_nil _⟩
    · refine ⟨earlier, writer, later ++ [entry], by simp, writes, ?_⟩
      intro other inside
      rcases List.mem_append.mp inside with there | last
      · exact silent' other there
      · rw [List.mem_singleton.mp last]
        exact silent

/-- Going through the answers, write each one. -/
theorem expandCheckboxes_eq (keep : List String)
    (indexed : Question.byId questions = .ok index) (answers : Answers) :
    answers.expandCheckboxes questions keep =
      .ok (answers.foldl (fun t entry =>
        Table.putAll t (expandOne index keep entry.1 entry.2)) []) := by
  simp only [expandCheckboxes, indexed, bind, Except.bind, pure, Except.pure,
    Table.ofEntries, Table.putAll, List.foldl_flatMap]

/-- What is found in the end is what was settled. -/
theorem get?_expanded (indexed : Question.byId questions = .ok index) (answers : Answers)
    (key : String) (value : Value) :
    Table.get? (answers.foldl (fun t entry =>
      Table.putAll t (expandOne index keep entry.1 entry.2)) []) key =
      some value ↔ Settles questions keep answers key value := by
  induction answers using List.reverseRecOn with
  | nil => simp [Settles]
  | append_singleton answers entry ih =>
    have agree : ∀ a b, (key, a) ∈ expandOne index keep entry.1 entry.2 →
        (key, b) ∈ expandOne index keep entry.1 entry.2 → a = b := by
      simp only [mem_expandOne indexed]
      exact fun a b first second => first.unique second
    rw [List.foldl_concat, Table.get?_putAll_iff agree, settles_concat, ← ih]
    simp only [mem_expandOne indexed]

/-- No two answers are written under the key. -/
def Apart (questions : List Question) (keep : List String) (answers : Answers)
    (key : String) : Prop :=
  answers.Pairwise fun first second => ∀ v w, Writes questions keep first key v →
    ¬ Writes questions keep second key w

theorem settles_of_apart {answers : Answers} {key : String}
    (apart : Apart questions keep answers key) (value : Value) :
    Settles questions keep answers key value ↔ ∃ entry ∈ answers,
      Writes questions keep entry key value := by
  constructor
  · rintro ⟨earlier, entry, later, rfl, writes, _⟩
    exact ⟨entry, by simp, writes⟩
  · rintro ⟨entry, inside, writes⟩
    obtain ⟨earlier, later, rfl⟩ := List.append_of_mem inside
    obtain ⟨_, behind, _⟩ := List.pairwise_append.mp apart
    refine ⟨earlier, entry, later, rfl, writes, ?_⟩
    intro other there v
    exact (List.pairwise_cons.mp behind).1 other there value v writes

/-- An expansion gives a result if and only if the ids of the questions can be keys. It has
each key once: a key has what the last answer to write there has written, and no other keys
are in it. So under a key where no two answers are written, nothing is lost: it has the
answer itself, or whether the choice is selected. -/
theorem expandCheckboxes_exact (questions : List Question) (keep : List String)
    (answers : Answers) :
    ((∃ result, answers.expandCheckboxes questions keep = .ok result) ↔
        ∀ q ∈ questions, q.id.isKey = true) ∧
      ∀ result, answers.expandCheckboxes questions keep = .ok result →
        (Table.keys result).Nodup ∧
        (∀ key value, Table.get? result key = some value ↔
          Settles questions keep answers key value) ∧
        ∀ key, Apart questions keep answers key → ∀ value,
          (Table.get? result key = some value ↔
            ∃ entry ∈ answers, Writes questions keep entry key value) := by
  rw [← Question.exists_byId]
  cases indexed : Question.byId questions with
  | error failure =>
    have failed : answers.expandCheckboxes questions keep = .error failure := by
      simp only [expandCheckboxes, indexed, bind, Except.bind]
    simp [failed]
  | ok index =>
    have done := expandCheckboxes_eq keep indexed answers
    refine ⟨iff_of_true ⟨_, done⟩ ⟨index, rfl⟩, ?_⟩
    intro result same
    have distinct : (Table.keys result).Nodup := by
      simp only [expandCheckboxes, indexed, bind, Except.bind] at same
      cases same
      exact Table.nodup_keys_ofEntries _
    rw [done] at same
    cases same
    refine ⟨distinct, get?_expanded indexed answers, ?_⟩
    intro key apart value
    rw [get?_expanded indexed, settles_of_apart apart]

/-- Kinds of help that can be asked for. -/
def helpQuestion : Question :=
  { id := .text "aides", title := .text "Aides", type := .checkbox,
    choices := [{ id := "apl" }, { id := "visale" }] }

/-- The answers about housing are kept as they are, and the rent is no selection. -/
theorem expandCheckboxes_exact_rent :
    let questions := [{ helpQuestion with id := .text "logement" }, helpQuestion]
    let keep := ["logement"]
    let answers : Answers :=
      [("aides", .list [.text "visale", .null]), ("logement", .list [.text "apl"]),
        ("loyer", .int 500)]
    (∀ q ∈ questions, q.id.isKey = true) ∧ Apart questions keep answers "apl" ∧
    Apart questions keep answers "visale" ∧
      ∃ result, answers.expandCheckboxes questions keep = .ok result ∧
        Table.get? result "apl" = some (.bool false) ∧
          Table.get? result "visale" = some (.bool true) := by
  intro questions keep answers
  have keyed : ∀ q ∈ questions, q.id.isKey = true := by decide
  have expands :
      Expands questions keep ("aides", .list [.text "visale", .null]) helpQuestion
      [.text "visale", .null] :=
    ⟨rfl, by decide, rfl, by decide⟩
  have housing {key : String} {v : Value}
      (writes : Writes questions keep ("logement", .list [.text "apl"]) key v) :
      key = "logement" := by
    cases writes with
    | whole _ => rfl
    | choice expands _ _ => exact absurd List.mem_cons_self expands.2.2.2
  have rent {key : String} {v : Value} (writes : Writes questions keep ("loyer",
      .int 500) key v) : key = "loyer" := by
    cases writes with
    | whole _ => rfl
    | choice expands _ _ => cases expands.1
  have apart (key : String) (other : key ≠ "logement") (other' : key ≠ "loyer") :
      Apart questions keep answers key := by
    refine .cons ?_ (.cons ?_ (.cons (List.forall_mem_nil _) .nil))
    · intro entry inside v w _ writes
      rcases List.mem_pair.mp inside with rfl | rfl
      · exact other (housing writes)
      · exact other' (rent writes)
    · intro entry inside v w _ writes
      rw [List.mem_singleton.mp inside] at writes
      exact other' (rent writes)
  have first := apart "apl" (by decide) (by decide)
  have second := apart "visale" (by decide) (by decide)
  obtain ⟨settled, exact⟩ := expandCheckboxes_exact questions keep answers
  obtain ⟨result, done⟩ := settled.mpr keyed
  obtain ⟨_, _, written⟩ := exact result done
  refine ⟨keyed, first, second, result, done, (written _ first _).mpr ?_,
    (written _ second _).mpr ?_⟩
  · exact ⟨_, List.mem_cons_self, .choice expands (by decide) (by simp)⟩
  · exact ⟨_, List.mem_cons_self, .choice expands (by decide) (by simp)⟩

/-- A choice with the name of another answer takes its place, even if that is a key to keep;
a choice of two checkboxes is not selected, if it was selected in the first one alone. -/
theorem expandCheckboxes_overlap :
    let housing := { helpQuestion with id := .text "logement" }
    (Writes [helpQuestion] ["apl"] ("apl", .int 250) "apl" (.int 250) ∧
      expandCheckboxes [helpQuestion] ["apl"] [("apl", .int 250),
        ("aides", .list [.text "visale"])] =
        .ok [("apl", .bool false), ("visale", .bool true)]) ∧
    (Writes [helpQuestion, housing] [] ("aides", .list [.text "apl"]) "apl" (.bool true) ∧
      expandCheckboxes [helpQuestion, housing] []
          [("aides", .list [.text "apl"]), ("logement", .list [.text "visale"])] =
        .ok [("apl", .bool false), ("visale", .bool true)]) := by
  intro housing
  have amount : ∀ q items, ¬ Expands [helpQuestion] ["apl"] ("apl", .int 250) q items := by
    rintro q items ⟨list, _⟩
    cases list
  have expands : Expands [helpQuestion, housing] [] ("aides", .list [.text "apl"])
      helpQuestion [.text "apl"] :=
    ⟨rfl, by decide, rfl, by simp⟩
  exact ⟨⟨.whole amount, rfl⟩, .choice expands (by decide) (by simp), rfl⟩

end Answers

end Questionnaire
