import Questionnaire.Proofs.QuestionDocuments

/-!
# What documents of questions are refused for

What is wrong with a document of questions is told as a fault of a question, but for a few
shapes that are not looked for: something that cannot be gone through where a list belongs,
something else than a map where a step, a question or a choice belongs, and unknown keys
without an order. No document with such a shape is accepted. The questions of an accepted
document are its descriptions one by one; what a list of conditions holds is not looked at.
-/

namespace Questionnaire

namespace Value

/-- What a document can have in the place of a list: what can be gone through, or something
that counts as false. -/
def isListed : Value → Bool
  | .list _ => true
  | .map _ => true
  | .text _ => true
  | v => !v.truthy

/-- What is found by going through a value, if it can be. -/
def items (v : Value) : List Value := v.elements.toOption.getD []

/-- What entries have under a name, one by one. -/
def itemsAt (name : String) (entries : List (Value × Value)) : List Value :=
  (field? name entries).elim [] items

/-- The value is no map, and has an id for all that can be seen or cannot be asked for one. -/
def Disguised (v : Value) : Prop :=
  (∀ entries, v ≠ .map entries) ∧ v.holds? "id" ≠ .ok false

theorem elementsOf_some (v : Value) :
    (elementsOf (some v) = .ok v.items ∧ v.isListed = true) ∨
    elementsOf (some v) = .error (.misuse .kind) ∧ v.isListed = false := by
  cases v with
  | list items => cases items <;> exact .inl ⟨rfl, rfl⟩
  | map entries => cases entries <;> exact .inl ⟨rfl, rfl⟩
  | text s =>
    refine .inl ⟨?_, rfl⟩
    by_cases empty : s = ""
    · subst empty
      rfl
    · simp [elementsOf, items, elements, truthy, empty, Except.toOption]
  | _ => simp [elementsOf, items, elements, isListed, Except.toOption]

theorem elementsOf_field? (name : String) (entries : List (Value × Value)) :
    (elementsOf (field? name entries) = .ok (itemsAt name entries) ∧
      ∀ v, field? name entries = some v → v.isListed = true) ∨
    elementsOf (field? name entries) = .error (.misuse .kind) ∧
      ∃ v, field? name entries = some v ∧ v.isListed = false := by
  unfold itemsAt
  cases field? name entries with
  | none => exact .inl ⟨rfl, nofun⟩
  | some v =>
    rcases elementsOf_some v with ⟨read, listed⟩ | ⟨read, odd⟩
    · refine .inl ⟨read, ?_⟩
      rintro _ ⟨⟩
      exact listed
    · exact .inr ⟨read, v, rfl, odd⟩

/-- A value is a map, is seen to have no id, or is disguised. -/
theorem disguised_cases (v : Value) :
    (∃ entries, v = .map entries) ∨
      ((∀ entries, v ≠ .map entries) ∧ v.holds? "id" = .ok false) ∨
      v.Disguised ∧ (v.holds? "id" = .ok true ∨
        v.holds? "id" = .error (.misuse .kind)) := by
  by_cases mapped : ∃ entries, v = .map entries
  · exact .inl mapped
  · have unmapped := not_exists.mp mapped
    have asked :
        (∃ held, v.holds? "id" = .ok held) ∨ v.holds? "id" = .error (.misuse .kind) := by
      cases v <;> simp [holds?]
    rcases asked with ⟨(_ | _), asked⟩ | asked
    · exact .inr (.inl ⟨unmapped, asked⟩)
    · exact .inr (.inr ⟨⟨unmapped, by simp [asked]⟩, .inl asked⟩)
    · exact .inr (.inr ⟨⟨unmapped, by simp [asked]⟩, .inr asked⟩)

end Value

namespace Choice

/-- What stands in the place of a choice cannot be read as one. -/
def Disguised (v : Value) : Prop := v.isText = false ∧ v.Disguised

/-- The choice that a value describes: its id is a text, or shown as one. -/
inductive ReadFrom : Value → Choice → Prop
  | text (s : String) : ReadFrom (.text s) { id := s, title := .text s }
  | map {fields : List (Value × Value)} {id : Value} {c : Choice}
      (given : Value.field? "id" fields = some id)
      (shown : c.id = id.display) : ReadFrom (.map fields) c

theorem ofValue_unmapped {v : Value} (other : v.isText = false)
    (unmapped : ∀ entries, v ≠ .map entries) :
    ofValue v = v.holds? "id" >>= fun held =>
      if held then .error (.misuse .kind) else .error (.question (.choiceWithoutId v)) := by
  cases v with
  | text s => cases other
  | map entries => exact absurd rfl (unmapped entries)
  | _ => rfl

/-- A choice is read, or what stands in its place has no id or is disguised. -/
theorem ofValue_cases (v : Value) :
    (∃ c, ofValue v = .ok c ∧ ReadFrom v c) ∨
      ofValue v = .error (.question (.choiceWithoutId v)) ∨
      ofValue v = .error (.misuse .kind) ∧ Disguised v := by
  cases text : v.isText with
  | true =>
    cases v with
    | text s => exact .inl ⟨_, rfl, .text s⟩
    | _ => cases text
  | false =>
    rcases v.disguised_cases with ⟨fields, rfl⟩ | ⟨unmapped, absent⟩ | ⟨disguised, asked⟩
    · cases given : Value.field? "id" fields with
      | none =>
        exact .inr (.inl (by simp [ofValue, Value.holds?, given, bind, Except.bind]))
      | some id =>
        refine .inl ⟨_, by simp only [ofValue, Value.holds?, given, bind, Except.bind]; rfl,
          .map given rfl⟩
    · rw [ofValue_unmapped text unmapped, absent]
      exact .inr (.inl rfl)
    · rw [ofValue_unmapped text disguised.1]
      rcases asked with asked | asked <;> rw [asked] <;>
        exact .inr (.inr ⟨rfl, text, disguised⟩)

theorem readFrom_of_ofValue {v : Value} {c : Choice} (done : ofValue v = .ok c) :
    ReadFrom v c := by
  rcases ofValue_cases v with ⟨_, read, readFrom⟩ | faulty | ⟨misused, _⟩
  · cases read.symm.trans done
    exact readFrom
  · cases faulty.symm.trans done
  · cases misused.symm.trans done

theorem ReadFrom.not_disguised {v : Value} {c : Choice} (read : ReadFrom v c) :
    ¬ Disguised v := by
  rintro ⟨other, unmapped, _⟩
  cases read with
  | text => cases other
  | map => exact unmapped _ rfl

end Choice

theorem QuestionType.toValue_of_ofValue? {v : Value} {type : QuestionType}
    (read : ofValue? v = some type) : v = type.toValue := by
  have listed := List.mem_of_find?_eq_some read
  have same := List.find?_some read
  simp only [named, List.mem_cons, List.not_mem_nil, or_false] at listed
  rcases listed with rfl | rfl | rfl | rfl | rfl | rfl <;>
    exact (Value.same_text _ _).mp same

theorem Visibility.toValue_of_ofValue? {v : Value} {visibility : Visibility}
    (read : ofValue? v = some visibility) : v = visibility.toValue := by
  cases v <;> cases read <;> rfl

namespace Question

/-- The shapes of a question that are not looked for. -/
inductive Misshapen (entries : List (Value × Value)) : Prop
  | keys (unordered : Options.Unordered knownKeys (entries.map Prod.fst))
  | choices {v : Value} (given : Value.field? "choices" entries = some v)
      (odd : v.isListed = false)
  | choice {v : Value} (listed : v ∈ Value.itemsAt "choices" entries)
      (odd : Choice.Disguised v)

/-- What the entries of a question say. -/
structure ReadFrom (entries : List (Value × Value)) (q : Question) : Prop where
  id : (Value.field? "id" entries).getD .null = q.id
  type : (Value.field? "type" entries).getD .null = q.type.toValue
  choices : List.Forall₂ Choice.ReadFrom (Value.itemsAt "choices" entries) q.choices
  visibility :
      (Value.field? "visibleWhen" entries).getD
      ((Value.field? "visible_when" entries).getD .null) =
    q.visibility.toValue
  readable : q.Readable

variable {entries : List (Value × Value)}

theorem elements_of_elementsOf {name : String} {items : List Value}
    (done : Value.elementsOf (Value.field? name entries) = .ok items) :
    items = Value.itemsAt name entries ∧ ∀ v, Value.field? name entries = some v →
      v.isListed = true := by
  rcases Value.elementsOf_field? name entries with ⟨read, listed⟩ | ⟨read, _⟩ <;>
    rw [read] at done <;> cases done
  exact ⟨rfl, listed⟩

theorem odd_of_elementsOf {name : String} {failure : Failure}
    (stopped : Value.elementsOf (Value.field? name entries) = .error failure) :
    (∃ misuse, failure = .misuse misuse) ∧ ∃ v, Value.field? name entries = some v ∧
      v.isListed = false := by
  rcases Value.elementsOf_field? name entries with ⟨read, _⟩ | ⟨read, odd⟩ <;>
    rw [read] at stopped <;> cases stopped
  exact ⟨⟨_, rfl⟩, odd⟩

theorem ofEntries_eq_error {failure : Failure}
    (stopped : ofEntries entries = .error failure) :
    (∃ fault, failure = .question fault) ∨ (∃ misuse, failure = .misuse misuse) ∧
      Misshapen entries := by
  unfold ofEntries at stopped
  dsimp only at stopped
  split at stopped
  · cases stopped
    exact .inl ⟨_, rfl⟩
  · rcases bind_eq_error_iff.mp stopped with untold | ⟨_, _, stopped⟩
    · rcases Options.unknownKeys_cases knownKeys (entries.map Prod.fst) with
        ⟨_, told, _⟩ | ⟨told, unordered⟩ <;>
        rw [told] at untold <;> cases untold
      exact .inr ⟨⟨_, rfl⟩, .keys unordered⟩
    · rcases bind_eq_error_iff.mp stopped with unlisted | ⟨_, listed, stopped⟩
      · obtain ⟨misuse, v, given, odd⟩ := odd_of_elementsOf unlisted
        exact .inr ⟨misuse, .choices given odd⟩
      · obtain ⟨rfl, _⟩ := elements_of_elementsOf listed
        rcases bind_eq_error_iff.mp stopped with unread | ⟨_, _, stopped⟩
        · obtain ⟨v, inside, fails⟩ := exists_of_mapM_eq_error unread
          rcases Choice.ofValue_cases v with ⟨_, read, _⟩ | faulty | ⟨misused, odd⟩
          · cases read.symm.trans fails
          · cases faulty.symm.trans fails
            exact .inl ⟨_, rfl⟩
          · cases misused.symm.trans fails
            exact .inr ⟨⟨_, rfl⟩, .choice inside odd⟩
        · split at stopped
          · cases stopped
            exact .inl ⟨_, rfl⟩
          · split at stopped <;> cases stopped
            exact .inl ⟨_, rfl⟩

theorem ofEntries_eq_ok {reading : Reading} (done : ofEntries entries = .ok reading) :
    ¬ Misshapen entries ∧ reading.question.ReadFrom entries := by
  have readable := readable_of_ofEntries done
  unfold ofEntries at done
  dsimp only at done
  split at done
  · cases done
  · rename_i type named
    obtain ⟨unknown, told, done⟩ := bind_eq_ok_iff.mp done
    obtain ⟨_, listed, done⟩ := bind_eq_ok_iff.mp done
    obtain ⟨rfl, collected⟩ := elements_of_elementsOf listed
    obtain ⟨choices, each, done⟩ := bind_eq_ok_iff.mp done
    have read : List.Forall₂ Choice.ReadFrom (Value.itemsAt "choices" entries) choices :=
      ((mapM_eq_ok_iff _ _ _).mp each).imp fun _ _ => Choice.readFrom_of_ofValue
    have shaped : ¬ Misshapen entries := by
      rintro (unordered | ⟨given, odd⟩ | ⟨inside, odd⟩)
      · rcases Options.unknownKeys_cases knownKeys (entries.map Prod.fst) with
          ⟨_, _, ordered, _⟩ | ⟨untold, _⟩
        · exact ordered unordered
        · cases untold.symm.trans told
      · rw [collected _ given] at odd
        cases odd
      · exact forall_mem_of_forall₂ read.flip (fun _ _ read => read.not_disguised) _ inside odd
    split at done
    · cases done
    · split at done
      · cases done
      · rename_i visibility seen
        cases done
        exact ⟨shaped, rfl, QuestionType.toValue_of_ofValue? named, read,
          Visibility.toValue_of_ofValue? seen, readable⟩

/-! ### Questions and documents -/

/-- The question that a value describes. -/
inductive Reads : Value → Question → Prop
  | map {fields : List (Value × Value)} {q : Question}
      (given : Value.field? "id" fields = some q.id)
      (read : q.ReadFrom fields) : Reads (.map fields) q

theorem ofValue_unmapped {v : Value} (unmapped : ∀ entries, v ≠ .map entries) :
    ofValue v = v.holds? "id" >>= fun held =>
      if held then .error (.misuse .kind) else .error (.question (.withoutId v)) := by
  cases v with
  | map entries => exact absurd rfl (unmapped entries)
  | _ => rfl

theorem ofValue_map (fields : List (Value × Value)) :
    ofValue (.map fields) = if (Value.field? "id" fields).isSome = true then
      ofEntries fields else
      .error (.question (.withoutId (.map fields))) := rfl

theorem ofValue_eq_error {v : Value} {failure : Failure}
    (stopped : ofValue v = .error failure) :
    (∃ fault, failure = .question fault) ∨
      (∃ misuse, failure = .misuse misuse) ∧ (v.Disguised ∨ ∃ fields, v = .map fields ∧
        Misshapen fields) := by
  rcases v.disguised_cases with ⟨fields, rfl⟩ | ⟨unmapped, absent⟩ | ⟨disguised, asked⟩
  · rw [ofValue_map] at stopped
    split at stopped
    · exact (ofEntries_eq_error stopped).imp_right fun ⟨misuse, odd⟩ =>
        ⟨misuse, .inr ⟨fields, rfl, odd⟩⟩
    · cases stopped
      exact .inl ⟨_, rfl⟩
  · rw [ofValue_unmapped unmapped, absent] at stopped
    cases stopped
    exact .inl ⟨_, rfl⟩
  · rw [ofValue_unmapped disguised.1] at stopped
    rcases asked with asked | asked <;> rw [asked] at stopped <;> cases stopped <;>
      exact .inr ⟨⟨_, rfl⟩, .inl disguised⟩

theorem ofValue_eq_ok {v : Value} {reading : Reading} (done : ofValue v = .ok reading) :
    ∃ fields, v = .map fields ∧ ¬ Misshapen fields ∧ Reads v reading.question := by
  rcases v.disguised_cases with ⟨fields, rfl⟩ | ⟨unmapped, absent⟩ | ⟨disguised, asked⟩
  · rw [ofValue_map] at done
    split at done
    · rename_i given
      obtain ⟨shaped, read⟩ := ofEntries_eq_ok done
      obtain ⟨id, given⟩ := Option.isSome_iff_exists.mp given
      refine ⟨fields, rfl, shaped, .map ?_ read⟩
      rw [given, ← read.id, given]
      rfl
    · cases done
  · rw [ofValue_unmapped unmapped, absent] at done
    cases done
  · rw [ofValue_unmapped disguised.1] at done
    rcases asked with asked | asked <;> rw [asked] at done <;> cases done

/-- The descriptions of a step of a document. -/
def describedIn : Value → List Value
  | .map fields => Value.itemsAt "questions" fields
  | _ => []

/-- The descriptions of the questions of a document. -/
def described : Value → List Value
  | .list items => items
  | .map entries =>
      match Value.field? "steps" entries with
      | some _ => (Value.itemsAt "steps" entries).flatMap describedIn
      | none => Value.itemsAt "questions" entries
  | _ => []

/-- A document has something else where the lists of its questions and its steps belong. -/
inductive Unlisted : Value → Prop
  | steps {entries : List (Value × Value)} {v : Value}
      (given : Value.field? "steps" entries = some v)
      (odd : v.isListed = false) : Unlisted (.map entries)
  | step {entries : List (Value × Value)} {v : Value}
      (listed : v ∈ Value.itemsAt "steps" entries)
      (odd : ∀ fields, v ≠ .map fields) : Unlisted (.map entries)
  | part {entries fields : List (Value × Value)} {v : Value}
      (listed : .map fields ∈ Value.itemsAt "steps" entries)
      (given : Value.field? "questions" fields = some v) (odd : v.isListed = false) :
          Unlisted (.map entries)
  | questions {entries : List (Value × Value)} {v : Value}
      (alone : Value.field? "steps" entries = none)
      (given : Value.field? "questions" entries = some v) (odd : v.isListed = false) :
          Unlisted (.map entries)

/-- The shapes of documents that are not looked for. -/
inductive MisshapenDocument (document : Value) : Prop
  | lists (odd : Unlisted document)
  | description {v : Value} (listed : v ∈ described document) (odd : v.Disguised)
  | question {fields : List (Value × Value)} (listed : .map fields ∈ described document)
      (odd : Misshapen fields)

theorem ofStep_cases (step : Value) :
    (ofStep step = .ok (describedIn step) ∧ ∃ fields, step = .map fields ∧
      ∀ v, Value.field? "questions" fields = some v → v.isListed = true) ∨
    (∃ misuse, ofStep step = .error (.misuse misuse)) ∧ ((∀ fields, step ≠ .map fields) ∨
      ∃ fields v, step = .map fields ∧ Value.field? "questions" fields = some v ∧
        v.isListed = false) := by
  cases step with
  | map fields =>
    rcases Value.elementsOf_field? "questions" fields with ⟨read, listed⟩ | ⟨read, v, given, odd⟩
    · exact .inl ⟨read, fields, rfl, listed⟩
    · exact .inr ⟨⟨_, read⟩, .inr ⟨fields, v, rfl, given, odd⟩⟩
  | _ => exact .inr ⟨⟨_, rfl⟩, .inl nofun⟩

/-- A document with steps is gone through step by step. -/
theorem descriptions_steps {entries : List (Value × Value)} {steps : Value}
    (given : Value.field? "steps" entries = some steps) :
    ((∃ misuse, descriptions (.map entries) = .error (.misuse misuse)) ∧
      Unlisted (.map entries)) ∨
    descriptions (.map entries) = .ok (described (.map entries)) ∧
      ¬ Unlisted (.map entries) := by
  have reads : descriptions (.map entries) =
      Value.elementsOf (Value.field? "steps" entries) >>= fun items =>
        items.mapM ofStep >>= fun lists =>
        .ok lists.flatten := by
    simp only [descriptions, given]
    rfl
  rw [reads]
  rcases Value.elementsOf_field? "steps" entries with ⟨read, listed⟩ | ⟨read, v, given', odd⟩
  · rw [read]
    cases each : (Value.itemsAt "steps" entries).mapM ofStep with
    | error failure =>
      obtain ⟨step, inside, fails⟩ := exists_of_mapM_eq_error each
      rcases ofStep_cases step with ⟨done, _⟩ | ⟨⟨misuse, stopped⟩, odd⟩
      · cases done.symm.trans fails
      · cases stopped.symm.trans fails
        refine .inl ⟨⟨misuse, by simp [each, bind, Except.bind]⟩, ?_⟩
        rcases odd with unmapped | ⟨fields, v, rfl, given', odd⟩
        · exact .step inside unmapped
        · exact .part inside given' odd
    | ok lists =>
      -- what each step gives is known from the step alone
      have done : List.Forall₂
          (fun step list => describedIn step = list ∧ ∃ fields, step = .map fields ∧
            ∀ v, Value.field? "questions" fields = some v → v.isListed = true)
          (Value.itemsAt "steps" entries) lists := by
        refine ((mapM_eq_ok_iff _ _ _).mp each).imp fun step list done => ?_
        rcases ofStep_cases step with ⟨read, mapped⟩ | ⟨⟨misuse, stopped⟩, _⟩
        · cases read.symm.trans done
          exact ⟨rfl, mapped⟩
        · cases stopped.symm.trans done
      have lists_eq : (Value.itemsAt "steps" entries).map describedIn = lists := by
        rw [← List.forall₂_eq_eq_eq, List.forall₂_map_left_iff]
        exact done.imp fun _ _ h => h.1
      have mapped := forall_mem_of_forall₂ done.flip fun _ _ h => h.2
      refine .inr ⟨?_, ?_⟩
      · simp [each, bind, Except.bind, described, given, ← lists_eq, List.flatMap]
      · rintro (⟨given', odd⟩ | ⟨inside, unmapped⟩ | ⟨inside, given', odd⟩ | ⟨alone, _, _⟩)
        · rw [listed _ given'] at odd
          cases odd
        · obtain ⟨fields, same, _⟩ := mapped _ inside
          exact unmapped fields same
        · obtain ⟨_, ⟨⟩, held⟩ := mapped _ inside
          rw [held _ given'] at odd
          cases odd
        · cases alone.symm.trans given
  · rw [read]
    exact .inl ⟨⟨_, rfl⟩, .steps given' odd⟩

theorem itemsAt_of_none {name : String} (absent : Value.field? name entries = none) :
    Value.itemsAt name entries = [] := by
  rw [Value.itemsAt, absent]
  rfl

/-- A document has one of three forms, and its questions are gone through if lists stand
where they belong. -/
theorem descriptions_cases (document : Value) :
    descriptions document = .error (.question .shape) ∨
    ((∃ misuse, descriptions document = .error (.misuse misuse)) ∧ Unlisted document) ∨
    descriptions document = .ok (described document) ∧ ¬ Unlisted document := by
  cases document with
  | list items => exact .inr (.inr ⟨rfl, nofun⟩)
  | map entries =>
    cases steps : Value.field? "steps" entries with
    | some v => exact .inr (descriptions_steps steps)
    | none =>
      have reads : descriptions (.map entries) =
          if (Value.field? "questions" entries).isSome = true then
            Value.elementsOf (Value.field? "questions" entries)
              else .error (.question .shape) := by
        simp only [descriptions, steps]
        cases Value.field? "questions" entries <;> rfl
      rw [reads]
      split
      · right
        have here : described (.map entries) = Value.itemsAt "questions" entries := by
          simp [described, steps]
        rcases Value.elementsOf_field? "questions" entries with
          ⟨read, listed⟩ | ⟨read, v, given, odd⟩
        · refine .inr ⟨here ▸ read, ?_⟩
          rintro (⟨given, _⟩ | ⟨inside, _⟩ | ⟨inside, _, _⟩ | ⟨_, given, odd⟩)
          · cases steps.symm.trans given
          · rw [itemsAt_of_none steps] at inside
            cases inside
          · rw [itemsAt_of_none steps] at inside
            cases inside
          · rw [listed _ given] at odd
            cases odd
        · exact .inl ⟨⟨_, read⟩, .questions steps given odd⟩
      · exact .inl rfl
  | _ => exact .inl rfl

theorem described_of_descriptions {document : Value} {items : List Value}
    (done : descriptions document = .ok items) :
    items = described document ∧ ¬ Unlisted document := by
  rcases descriptions_cases document with shape | ⟨⟨_, stopped⟩, _⟩ | ⟨read, listed⟩
  · cases shape.symm.trans done
  · cases stopped.symm.trans done
  · cases read.symm.trans done
    exact ⟨rfl, listed⟩

theorem unlisted_of_descriptions {document : Value} {failure : Failure}
    (stopped : descriptions document = .error failure) :
    (∃ fault, failure = .question fault) ∨ (∃ misuse, failure = .misuse misuse) ∧
      Unlisted document := by
  rcases descriptions_cases document with shape | ⟨⟨misuse, stops⟩, odd⟩ | ⟨read, _⟩
  · cases shape.symm.trans stopped
    exact .inl ⟨_, rfl⟩
  · cases stops.symm.trans stopped
    exact .inr ⟨⟨_, rfl⟩, odd⟩
  · cases read.symm.trans stopped

/-- A document is refused with a fault of a question, or with a misuse if its shape is not
looked for. One with such a shape is never accepted, and an accepted one is read question by
question. -/
theorem ofDocument_refused (document : Value) :
    (∀ failure, ofDocument document = .error failure →
      (∃ fault, failure = .question fault) ∨
        (∃ misuse, failure = .misuse misuse) ∧ MisshapenDocument document) ∧
    ∀ reading, ofDocument document = .ok reading →
      ¬ MisshapenDocument document ∧
        List.Forall₂ Reads (described document) reading.questions := by
  constructor
  · intro failure stopped
    rcases bind_eq_error_iff.mp stopped with undescribed | ⟨items, listed, stopped⟩
    · exact (unlisted_of_descriptions undescribed).imp_right fun ⟨misuse, odd⟩ =>
        ⟨misuse, .lists odd⟩
    · obtain ⟨rfl, _⟩ := described_of_descriptions listed
      rcases bind_eq_error_iff.mp stopped with unread | ⟨_, _, done⟩
      · obtain ⟨v, inside, fails⟩ := exists_of_mapM_eq_error unread
        rcases ofValue_eq_error fails with fault | ⟨misuse, disguised | ⟨fields, rfl, odd⟩⟩
        · exact .inl fault
        · exact .inr ⟨misuse, .description inside disguised⟩
        · exact .inr ⟨misuse, .question inside odd⟩
      · cases done
  · intro reading done
    obtain ⟨items, listed, done⟩ := bind_eq_ok_iff.mp done
    obtain ⟨rfl, unodd⟩ := described_of_descriptions listed
    obtain ⟨readings, each, done⟩ := bind_eq_ok_iff.mp done
    cases done
    have read :
        List.Forall₂ (fun v reading => ∃ fields, v = .map fields ∧ ¬ Misshapen fields ∧
        Reads v reading.question) (described document) readings :=
      ((mapM_eq_ok_iff _ _ _).mp each).imp fun _ _ => ofValue_eq_ok
    have shaped : ∀ v ∈ described document, ∃ fields, v = .map fields ∧
        ¬ Misshapen fields :=
      forall_mem_of_forall₂ read.flip fun _ _ ⟨fields, same, shaped, _⟩ =>
        ⟨fields, same, shaped⟩
    constructor
    · rintro (odd | ⟨inside, unmapped, _⟩ | ⟨inside, odd⟩)
      · exact unodd odd
      · obtain ⟨fields, same, _⟩ := shaped _ inside
        exact unmapped fields same
      · obtain ⟨_, ⟨⟩, shaped⟩ := shaped _ inside
        exact shaped odd
    · rw [List.forall₂_map_right_iff]
      exact read.imp fun _ _ ⟨_, _, _, h⟩ => h

/-- Faulty documents that are not told as such: a number in the place of a question, one in
the place of a step, and a list of numbers as conditions, which is accepted. -/
theorem ofDocument_unforeseen :
    ofDocument (.list [.int 5]) = .error (.misuse .kind) ∧
      ofDocument (.map [(.text "steps", .list [.int 5])]) = .error (.misuse .operation) ∧
      ∃ reading q,
        ofDocument (.list [.map [(.text "id", .text "age"), (.text "type", .text "number"),
          (.text "visibleWhen", .list [.int 1])]]) = .ok reading ∧
        reading.questions = [q] ∧ q.visibility = .conditions [.int 1] := by
  refine ⟨rfl, rfl, ?_⟩
  have accepted :
      ofDocument (.list [.map [(.text "id", .text "age"), (.text "type", .text "number"),
        (.text "visibleWhen", .list [.int 1])]]) =
        .ok ⟨[{ id := .text "age", title := .text "", type := .number
                visibility := .conditions [.int 1] }], []⟩ := by
    rfl
  exact ⟨_, _, accepted, rfl, rfl⟩

end Question

end Questionnaire
