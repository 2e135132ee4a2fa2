import Mathlib.Data.List.Forall2
import Questionnaire.Proofs.KeyOrder
import Questionnaire.Proofs.Reading
import Questionnaire.Question.Document

/-!
# Questions written and read again

Questions that have been read can be written: the document says nothing unknown and is read
as the same questions. It does not matter whether a document holds its questions by
themselves, under one name, or cut into steps.
-/

namespace Questionnaire

theorem bind_eq_ok_iff {α β ε : Type} {x : Except ε α} {f : α → Except ε β} {b : β} :
    x >>= f = .ok b ↔ ∃ a, x = .ok a ∧ f a = .ok b := by
  cases x <;> simp [bind, Except.bind]

theorem bind_eq_error_iff {α β ε : Type} {x : Except ε α} {f : α → Except ε β} {e : ε} :
    x >>= f = .error e ↔ x = .error e ∨ ∃ a, x = .ok a ∧ f a = .error e := by
  cases x <;> simp [bind, Except.bind]

/-- All elements of a list can be read, and are read one by one. -/
theorem mapM_eq_ok_iff {α β ε : Type} (f : α → Except ε β) (elements : List α)
    (results : List β) :
    elements.mapM f = .ok results ↔ List.Forall₂ (fun a b => f a = .ok b) elements
      results := by
  induction elements generalizing results with
  | nil => cases results <;> simp [pure, Except.pure]
  | cons a rest ih =>
    rw [List.mapM_cons]
    cases first : f a with
    | error failure => cases results <;> simp [bind, Except.bind, first]
    | ok b =>
      cases later : rest.mapM f with
      | error failure => cases results <;> simp [bind, Except.bind, ← ih, first, later]
      | ok others =>
        cases results <;> simp [bind, Except.bind, pure, Except.pure, ← ih, first, later]

/-- Each result comes from an element. -/
theorem exists_of_mem_mapM {α β ε : Type} {f : α → Except ε β} {elements : List α}
    {results : List β} (done : elements.mapM f = .ok results) {b : β}
    (inside : b ∈ results) : ∃ a ∈ elements, f a = .ok b := by
  obtain ⟨i, small, rfl⟩ := List.mem_iff_getElem.mp inside
  obtain ⟨length, each⟩ :=
    List.forall₂_iff_get.mp ((mapM_eq_ok_iff f elements results).mp done)
  exact ⟨_, List.get_mem _ ⟨i, length ▸ small⟩, each i _ small⟩

/-- A failure comes from an element. -/
theorem exists_of_mapM_eq_error {α β ε : Type} {f : α → Except ε β} {elements : List α}
    {e : ε} (stopped : elements.mapM f = .error e) : ∃ a ∈ elements, f a = .error e := by
  induction elements with
  | nil => cases stopped
  | cons a rest ih =>
    rw [List.mapM_cons] at stopped
    rcases bind_eq_error_iff.mp stopped with here | ⟨b, _, stopped⟩
    · exact ⟨a, List.mem_cons_self, here⟩
    · rcases bind_eq_error_iff.mp stopped with later | ⟨_, _, done⟩
      · obtain ⟨other, inside, fails⟩ := ih later
        exact ⟨other, List.mem_cons_of_mem _ inside, fails⟩
      · cases done

/-- If every element has a result of the kind asked for, the list has such results. -/
theorem exists_mapM_forall₂ {α β ε : Type} {f : α → Except ε β} {P : α → β → Prop}
    {elements : List α} (each : ∀ a ∈ elements, ∃ b, f a = .ok b ∧ P a b) :
    ∃ results, elements.mapM f = .ok results ∧ List.Forall₂ P elements results := by
  induction elements with
  | nil => exact ⟨[], rfl, .nil⟩
  | cons a rest ih =>
    obtain ⟨⟨b, here, related⟩, later⟩ := List.forall_mem_cons.mp each
    obtain ⟨results, done, all⟩ := ih later
    exact ⟨b :: results, (mapM_eq_ok_iff f _ _).mpr
      (.cons here ((mapM_eq_ok_iff f _ _).mp done)), .cons related all⟩

/-- What holds of everything that an element is related to holds of all of the second list. -/
theorem forall_mem_of_forall₂ {α β : Type} {R : α → β → Prop} {P : β → Prop}
    {first : List α} {second : List β} (related : List.Forall₂ R first second)
    (h : ∀ a b, R a b → P b) : ∀ b ∈ second, P b := by
  induction related with
  | nil => simp
  | cons here _ ih => exact List.forall_mem_cons.mpr ⟨h _ _ here, ih⟩

theorem mapM_map_eq_ok {α β γ ε : Type} (f : β → Except ε γ) (g : α → β) (result : α → γ)
    {elements : List α} (each : ∀ a ∈ elements, f (g a) = .ok (result a)) :
    (elements.map g).mapM f = .ok (elements.map result) := by
  rw [mapM_eq_ok_iff, List.forall₂_map_left_iff, List.forall₂_map_right_iff,
    List.forall₂_same]
  exact each

/-- No key is unknown if all of them are known. -/
theorem Options.unknownKeys_of_known {known : List String} {keys : List Value}
    (h : ∀ key ∈ keys, ∃ name ∈ known, key = .text name) :
    unknownKeys known keys = .ok [] := by
  have none : (keys.filter fun key => !known.any fun name => key == .text name) = [] := by
    rw [List.filter_eq_nil_iff]
    intro key inside
    obtain ⟨name, listed, rfl⟩ := h key inside
    have found : known.any (fun other => Value.text name == .text other) = true :=
      List.any_eq_true.mpr ⟨name, listed, (Value.same_text _ _).mpr rfl⟩
    simp [found]
  simp only [unknownKeys, none]
  rfl

/-- The key is none of the names. -/
def Options.Unknown (known : List String) (key : Value) : Prop :=
  ∀ name ∈ known, key ≠ .text name

/-- Two of the keys are none of the names, and have no order. -/
def Options.Unordered (known : List String) (keys : List Value) : Prop :=
  ∃ v w, [v, w].Sublist keys ∧ Unknown known v ∧ Unknown known w ∧ ¬ Value.Compares v w

/-- The keys that are none of the names are told, if they have an order. -/
theorem Options.unknownKeys_cases (known : List String) (keys : List Value) :
    (∃ unknown, unknownKeys known keys = .ok unknown ∧ ¬ Unordered known keys ∧
      ∀ key, key ∈ unknown ↔ key ∈ keys ∧ Unknown known key) ∨
    unknownKeys known keys = .error (.misuse .kind) ∧ Unordered known keys := by
  have kept (key : Value) : (!known.any fun name => key == .text name) = true ↔
      Unknown known key := by
    simp [Unknown, BEq.beq, ← Value.same_text]
  unfold unknownKeys
  dsimp only
  cases result : Value.sortOn? id (keys.filter fun key => !known.any fun name =>
    key == .text name) with
  | none =>
    obtain ⟨v, w, listed, unordered⟩ := Value.exists_of_sortOn?_eq_none result
    have unknown (key : Value) (inside : key ∈ [v, w]) : Unknown known key :=
      (kept key).mp (List.mem_filter.mp (listed.subset inside)).2
    exact .inr ⟨rfl, v, w, listed.trans List.filter_sublist, unknown v (by simp),
      unknown w (by simp), unordered⟩
  | some sorted =>
    refine .inl ⟨sorted, rfl, ?_, ?_⟩
    · rintro ⟨v, w, listed, first, second, unordered⟩
      have both : ∀ key ∈ [v, w], (!known.any fun name => key == .text name) = true :=
        List.forall_mem_cons.mpr ⟨(kept v).mpr first,
          List.forall_mem_singleton.mpr ((kept w).mpr second)⟩
      have inside := listed.filter fun key => !known.any fun name => key == .text name
      rw [List.filter_eq_self.mpr both] at inside
      exact unordered (List.pairwise_iff_forall_sublist.mp (Value.exists_sortOn?.mp ⟨_,
        result⟩) inside)
    · intro key
      rw [(Value.perm_of_sortOn? result).mem_iff, List.mem_filter, kept]

theorem QuestionType.ofValue?_toValue {type : QuestionType}
    (named : type ∈ QuestionType.named) : ofValue? type.toValue = some type := by
  simp only [QuestionType.named, List.mem_cons, List.not_mem_nil, or_false] at named
  rcases named with rfl | rfl | rfl | rfl | rfl | rfl <;> rfl

namespace Value

@[simp] theorem field?_nil (key : String) : field? key [] = none := rfl

@[simp] theorem field?_cons (key name : String) (v : Value) (rest : List (Value × Value)) :
    field? key ((.text name, v) :: rest) =
      if name = key then some v else field? key rest := by
  have same : (Value.text name == .text key) = decide (name = key) := by
    rw [Bool.eq_iff_iff, same_text, Value.text.injEq, decide_eq_true_iff]
  simp [field?, Table.get?, same]

@[simp] theorem field?_append (key : String) (first rest : List (Value × Value)) :
    field? key (first ++ rest) = (field? key first).or (field? key rest) :=
  Table.get?_append first rest _

@[simp] theorem elementsOf_list (items : List Value) :
    elementsOf (some (.list items)) = .ok items := by
  cases items <;> rfl

/-- What is not given is as good as `null`. -/
@[simp] theorem getD_given (v : Value) :
    (if v.isNull = true then none else some v).getD .null = v := by
  cases v <;> rfl

end Value

theorem Choice.ofValue_toValue (c : Choice) : ofValue c.toValue = .ok c := by
  simp [toValue, ofValue, Value.holds?, Value.display, Value.truthy, bind, Except.bind,
    pure, Except.pure]

namespace Question

/-- What holds of every question that is read from a document. -/
structure Readable (q : Question) : Prop where
  type : q.type ∈ QuestionType.named
  choices : q.type.hasChoices = true → q.choices ≠ []

theorem readable_of_ofEntries {entries : List (Value × Value)} {reading : Reading}
    (read : ofEntries entries = .ok reading) : reading.question.Readable := by
  unfold ofEntries at read
  dsimp only at read
  split at read
  · cases read
  · rename_i type named
    obtain ⟨unknown, _, read⟩ := bind_eq_ok_iff.mp read
    obtain ⟨elements, _, read⟩ := bind_eq_ok_iff.mp read
    obtain ⟨choices, _, read⟩ := bind_eq_ok_iff.mp read
    split at read
    · cases read
    · rename_i enough
      have listed : type.hasChoices = true → choices ≠ [] := by
        intro chosen none
        rw [chosen, none] at enough
        exact enough rfl
      split at read
      · cases read
      · cases read
        exact ⟨List.mem_of_find?_eq_some named, listed⟩

theorem readable_of_ofValue {v : Value} {reading : Reading}
    (read : ofValue v = .ok reading) : reading.question.Readable := by
  obtain ⟨hasId, _, read⟩ := bind_eq_ok_iff.mp read
  split at read
  · split at read
    · exact readable_of_ofEntries read
    · cases read
  · cases read

/-- Every question of a document that is read is readable. -/
theorem readable_of_ofDocument {document : Value} {reading : ListReading}
    (read : ofDocument document = .ok reading) {q : Question}
    (inside : q ∈ reading.questions) : q.Readable := by
  obtain ⟨items, _, read⟩ := bind_eq_ok_iff.mp read
  obtain ⟨readings, each, read⟩ := bind_eq_ok_iff.mp read
  cases read
  obtain ⟨one, there, rfl⟩ := List.mem_map.mp inside
  obtain ⟨v, _, described⟩ := exists_of_mem_mapM each there
  exact readable_of_ofValue described

/-! ### The entries of a question -/

/-- The choices of a question as they are written. -/
def choicesValue (q : Question) : Value :=
  if q.choices.isEmpty then .null else .list (q.choices.map Choice.toValue)

/-- The entries that are written only if there is something to write. -/
def optionalEntries (q : Question) : List (Value × Value) :=
  optionalEntry "visibleWhen" q.visibility.toValue ++ optionalEntry "choices" q.choicesValue
    ++ optionalEntry "min" q.min ++ optionalEntry "max" q.max
    ++ optionalEntry "description" q.description ++ optionalEntry "default" q.default

/-- The entries of a question. -/
def entries (q : Question) : List (Value × Value) :=
  [(.text "id", q.id), (.text "title", q.title), (.text "type", q.type.toValue),
    (.text "required", q.required)]
    ++ q.optionalEntries

theorem toValue_eq (q : Question) : q.toValue = .map q.entries := by
  have choices : (if q.choices.isEmpty then []
      else [(.text "choices", .list (q.choices.map Choice.toValue))]) =
        optionalEntry "choices" q.choicesValue := by
    unfold choicesValue optionalEntry
    split <;> rfl
  rw [toValue, choices]
  simp [entries, optionalEntries]

@[simp] theorem field?_optionalEntry (key name : String) (v : Value) :
    Value.field? key (optionalEntry name v) =
      if name = key then (if v.isNull = true then none else some v) else none := by
  unfold optionalEntry
  split <;> simp [*]

/-- A question is written with known keys only. -/
theorem unknownKeys_entries (q : Question) :
    Options.unknownKeys knownKeys (q.entries.map Prod.fst) = .ok [] := by
  have optional {name : String} {v key : Value}
      (inside : key ∈ (optionalEntry name v).map Prod.fst) : key = .text name := by
    unfold optionalEntry at inside
    split at inside
    · cases inside
    · exact List.mem_singleton.mp inside
  apply Options.unknownKeys_of_known
  intro key inside
  simp only [entries, optionalEntries, List.map_append, List.mem_append, List.map_cons,
    List.map_nil, List.mem_cons, List.not_mem_nil, or_false] at inside
  rcases inside with (rfl | rfl | rfl | rfl) |
    (((((inside | inside) | inside) | inside) | inside) | inside)
  · exact ⟨"id", by simp [knownKeys], rfl⟩
  · exact ⟨"title", by simp [knownKeys], rfl⟩
  · exact ⟨"type", by simp [knownKeys], rfl⟩
  · exact ⟨"required", by simp [knownKeys], rfl⟩
  all_goals exact ⟨_, by simp [knownKeys], optional inside⟩

/-- A readable question is read from its entries. -/
theorem ofEntries_entries {q : Question} (h : q.Readable) :
    ofEntries q.entries = .ok ⟨q, []⟩ := by
  have id : Value.field? "id" q.entries = some q.id := by simp [entries]
  have title : Value.field? "title" q.entries = some q.title := by simp [entries]
  have type : Value.field? "type" q.entries = some q.type.toValue := by simp [entries]
  have required : Value.field? "required" q.entries = some q.required := by simp [entries]
  have min : (Value.field? "min" q.entries).getD .null = q.min := by
    simp [entries, optionalEntries]
  have max : (Value.field? "max" q.entries).getD .null = q.max := by
    simp [entries, optionalEntries]
  have description : (Value.field? "description" q.entries).getD .null = q.description := by
    simp [entries, optionalEntries]
  have default : (Value.field? "default" q.entries).getD .null = q.default := by
    simp [entries, optionalEntries]
  have visibility : (Value.field? "visibleWhen" q.entries).getD
      ((Value.field? "visible_when" q.entries).getD .null) = q.visibility.toValue := by
    simp [entries, optionalEntries]
  have choices : Value.elementsOf (Value.field? "choices" q.entries) =
      .ok (q.choices.map Choice.toValue) := by
    have written : Value.field? "choices" q.entries =
        if q.choicesValue.isNull = true then none else some q.choicesValue := by
      simp [entries, optionalEntries]
    rw [written, choicesValue]
    cases q.choices <;> rfl
  have each : (q.choices.map Choice.toValue).mapM Choice.ofValue = .ok q.choices := by
    rw [mapM_eq_ok_iff, List.forall₂_map_left_iff, List.forall₂_same]
    exact fun c _ => c.ofValue_toValue
  have enough : (q.type.hasChoices && q.choices.isEmpty) = false := by
    cases chosen : q.type.hasChoices with
    | false => rfl
    | true => simpa using h.choices chosen
  rw [ofEntries]
  simp only [id, title, type, required, min, max, description, default, visibility, choices,
    each, enough, q.unknownKeys_entries, QuestionType.ofValue?_toValue h.type,
    Visibility.ofValue?_toValue, bind, Except.bind, Option.getD_some, pure, Except.pure]
  rfl

/-- A readable question is read as it was written. -/
theorem ofValue_toValue {q : Question} (h : q.Readable) :
    ofValue q.toValue = .ok ⟨q, []⟩ := by
  have there : (Value.map q.entries).holds? "id" = .ok true := by
    simp [Value.holds?, entries]
  rw [toValue_eq, ofValue, there]
  exact ofEntries_entries h

/-- What is read from a document can be written and read again. -/
theorem ofDocument_toDocument {questions : List Question}
    (h : ∀ q ∈ questions, q.Readable) :
    ofDocument (toDocument questions) = .ok ⟨questions, []⟩ := by
  have read : (questions.map toValue).mapM ofValue = .ok (questions.map fun q => ⟨q, []⟩) :=
    mapM_map_eq_ok ofValue toValue _ fun q inside => ofValue_toValue (h q inside)
  have items : descriptions (toDocument questions) = .ok (questions.map toValue) := by
    simp [toDocument, descriptions]
  simp [ofDocument, items, read, bind, Except.bind, pure, Except.pure, Function.comp_def]

theorem ofDocument_questions (items : List Value) :
    ofDocument (.map [(.text "questions", .list items)]) = ofDocument (.list items) := by
  have same : descriptions (.map [(.text "questions", .list items)]) =
      descriptions (.list items) := by
    simp [descriptions]
  rw [ofDocument, ofDocument, same]

theorem ofDocument_steps (parts : List (List Value)) :
    ofDocument (.map [(.text "steps",
      .list (parts.map fun part => .map [(.text "questions", .list part)]))]) =
      ofDocument (.list parts.flatten) := by
  have each : (parts.map fun part => Value.map [(.text "questions", .list part)]).mapM
      ofStep = .ok parts := by
    have step : ∀ part ∈ parts, ofStep (.map [(.text "questions", .list part)]) =
        .ok part := by simp [ofStep]
    rw [mapM_map_eq_ok ofStep _ (fun part => part) step, List.map_id']
  have same : descriptions (.map [(.text "steps", .list (parts.map fun part =>
      .map [(.text "questions", .list part)]))]) = descriptions (.list parts.flatten) := by
    simp [descriptions, each, bind, Except.bind, pure, Except.pure]
  rw [ofDocument, ofDocument, same]

/-- The questions of any document can be written, and are read again as they are and without
a warning. A list of questions means the same by itself, under `questions` and cut into
steps anywhere. -/
theorem ofDocument_rewritten :
    (∀ document reading, ofDocument document = .ok reading →
      ofDocument (toDocument reading.questions) = .ok ⟨reading.questions, []⟩) ∧
    ∀ parts : List (List Value),
      ofDocument (.map [(.text "questions", .list parts.flatten)]) =
        ofDocument (.list parts.flatten) ∧
      ofDocument (.map [(.text "steps",
        .list (parts.map fun part => .map [(.text "questions", .list part)]))]) =
        ofDocument (.list parts.flatten) := by
  refine ⟨?_, ?_⟩
  · intro document reading read
    exact ofDocument_toDocument fun q inside => readable_of_ofDocument read inside
  · intro parts
    exact ⟨ofDocument_questions _, ofDocument_steps parts⟩

/-- An age from zero on with a colour that means nothing, no conditions and an empty default. -/
def ageEntries : Value :=
  .map [(.text "id", .text "age"), (.text "type", .text "number"), (.text "min", .int 0),
    (.text "visible_when", .list []), (.text "default", .text ""),
    (.text "colour", .text "red")]

/-- How someone lives, as a choice between a text and a number. -/
def housingEntries : Value :=
  .map [(.text "id", .text "logement"), (.text "title", .text "Logement"),
    (.text "type", .text "radio"), (.text "choices", .list [.text "locataire",
      .map [(.text "id", .int 2), (.text "exclusive", .int 1)]])]

theorem ofDocument_rewritten_survey :
    ∃ reading, ofDocument (.list [ageEntries, housingEntries]) = .ok reading ∧
      reading.warnings ≠ [] ∧
      ofDocument (toDocument reading.questions) = .ok ⟨reading.questions, []⟩ ∧
      ofDocument (.map [(.text "steps",
        .list [.map [(.text "questions", .list [ageEntries])],
        .map [(.text "questions", .list [housingEntries])]])]) = .ok reading := by
  obtain ⟨again, forms⟩ := ofDocument_rewritten
  have warned : (ofDocument (.list [ageEntries, housingEntries])).toOption.any
      (fun reading => !reading.warnings.isEmpty) = true := by decide +kernel
  cases read : ofDocument (.list [ageEntries, housingEntries]) with
  | error failure =>
    rw [read] at warned
    cases warned
  | ok reading =>
    rw [read] at warned
    refine ⟨reading, rfl, ?_, again _ _ read, ?_⟩
    · intro none
      simp [Except.toOption, none] at warned
    · exact (forms [[ageEntries], [housingEntries]]).2.trans read

end Question

end Questionnaire
