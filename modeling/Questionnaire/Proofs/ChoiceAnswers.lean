import Questionnaire.Proofs.ValidationReports

/-!
# Answers that are chosen

A radio question takes one of its choices, a checkbox any of its choices, but an exclusive
choice only by itself. What is wrong with a selection depends on what is in it and on
whether that is more than one thing, and so not on its order. Being counted, an exclusive
choice that is selected twice is refused like two choices.
-/

namespace Questionnaire.Question

/-- The value is the id of a choice. -/
def IsChoice (q : Question) (v : Value) : Prop := ∃ id ∈ q.choiceIds, v = .text id

instance (q : Question) (v : Value) : Decidable (q.IsChoice v) :=
  inferInstanceAs (Decidable (∃ id ∈ q.choiceIds, _))

/-- The value is the id of an exclusive choice. -/
def IsExclusive (q : Question) (v : Value) : Prop :=
  ∃ c ∈ q.choices, c.exclusive = true ∧ v = .text c.id

instance (q : Question) (v : Value) : Decidable (q.IsExclusive v) :=
  inferInstanceAs (Decidable (∃ c ∈ q.choices, _))

/-- Nothing else is combined with an exclusive choice. -/
def Compatible (q : Question) (selected : List Value) : Prop :=
  (∀ v ∈ selected, ¬ q.IsExclusive v) ∨ ∃ v, q.IsExclusive v ∧ ∀ w ∈ selected, w = v

/-- One exclusive choice is selected by itself, but more than once. -/
def Repeats (q : Question) (selected : List Value) : Prop :=
  1 < selected.length ∧ ∃ v, q.IsExclusive v ∧ ∀ w ∈ selected, w = v

/-- The answers that a question with choices asks for. -/
inductive Suits (q : Question) : Value → Prop
  | absent {answer : Value} (none : answer = .null ∨ answer = .text "" ∨ answer = .list [])
      (optional : q.required.truthy = false) : Suits q answer
  | choice {id : String} (radio : q.type = .radio) (filled : id ≠ "")
      (listed : id ∈ q.choiceIds) :
      Suits q (.text id)
  | selection {selected : List Value} (checkbox : q.type = .checkbox)
      (filled : selected ≠ [])
      (listed : ∀ v ∈ selected, q.IsChoice v) (compatible : q.Compatible selected) :
          Suits q (.list selected)

/-- What is wrong with a selection, if anything. -/
def fault? (q : Question) (selected : List Value) : Option ValidationCode :=
  if ∃ v ∈ selected, ¬ q.IsChoice v then some .invalidChoice
  else if 1 < selected.length ∧ ∃ v ∈ selected, q.IsExclusive v then some .exclusiveChoice
  else none

/-- The kinds of errors that are reported on an answer. -/
def codes (q : Question) (answer : Value) : Except Failure (List ValidationCode) :=
  (q.check [] answer).map (List.map (·.code))

variable {q : Question} {answer : Value} {selected : List Value}

theorem isChoice_iff {v : Value} : q.isChoice v = true ↔ q.IsChoice v := by
  simp only [isChoice, List.any_eq_true, Value.same_text, IsChoice]

theorem exclusiveIn_ne_nil :
    (q.exclusiveIn selected).isEmpty = false ↔ ∃ v ∈ selected, q.IsExclusive v := by
  simp only [exclusiveIn, List.isEmpty_eq_false_iff, ne_eq, List.map_eq_nil_iff,
    List.filter_eq_nil_iff, not_forall, not_not, Bool.and_eq_true, List.any_eq_true,
    Value.same_text, exists_prop, IsExclusive]
  constructor
  · rintro ⟨c, listed, exclusive, v, inside, same⟩
    exact ⟨v, inside, c, listed, exclusive, same⟩
  · rintro ⟨v, inside, c, listed, exclusive, same⟩
    exact ⟨c, listed, exclusive, v, inside, same⟩

/-- A selection has one fault at most. -/
theorem codes_checkCheckbox (choices : q.choices ≠ []) (selected : List Value) :
    (q.checkCheckbox (.list selected)).map (·.code) = (q.fault? selected).toList := by
  have listed : q.choices.isEmpty = false := by simpa using choices
  have invalid : (!(selected.filter fun v => !q.isChoice v).isEmpty) = true ↔
      ∃ v ∈ selected, ¬ q.IsChoice v := by
    simp [← isChoice_iff]
  have exclusive :
      (!(q.exclusiveIn selected).isEmpty && decide (1 < selected.length)) = true ↔
      1 < selected.length ∧ ∃ v ∈ selected, q.IsExclusive v := by
    rw [Bool.and_eq_true, Bool.not_eq_true', exclusiveIn_ne_nil,
      decide_eq_true_iff, and_comm]
  simp only [checkCheckbox, listed, Bool.false_eq_true, if_false, fault?, invalid, exclusive]
  split
  · rfl
  · split <;> rfl

/-- Neither the order of a selection matters nor that of the choices. -/
theorem fault?_perm {choices : List Choice} (same : choices.Perm q.choices)
    {others : List Value} (same' : others.Perm selected) :
    fault? { q with choices := choices } others = q.fault? selected := by
  have ids : (choices.map (·.id)).Perm q.choiceIds := same.map _
  have listed (v : Value) : IsChoice { q with choices := choices } v ↔ q.IsChoice v := by
    simp only [IsChoice, choiceIds] at ids ⊢
    simp only [ids.mem_iff]
  have exclusive (v : Value) : IsExclusive { q with choices := choices } v ↔
      q.IsExclusive v := by
    simp only [IsExclusive, same.mem_iff]
  refine if_congr ?_ rfl (if_congr ?_ rfl rfl)
  · simp only [same'.mem_iff, listed]
  · simp only [same'.mem_iff, same'.length_eq, exclusive]

theorem fault?_eq_none : q.fault? selected = none ↔
    (∀ v ∈ selected, q.IsChoice v) ∧ (1 < selected.length → ∀ v ∈ selected,
      ¬ q.IsExclusive v) := by
  unfold fault?
  split
  · rename_i foreign
    obtain ⟨v, inside, foreign⟩ := foreign
    exact iff_of_false nofun fun ⟨listed, _⟩ => foreign (listed v inside)
  · rename_i listed
    rw [not_exists] at listed
    have listed' : ∀ v ∈ selected, q.IsChoice v := fun v inside => not_not.mp fun foreign =>
      listed v ⟨inside, foreign⟩
    split
    · rename_i both
      obtain ⟨long, v, inside, exclusive⟩ := both
      exact iff_of_false nofun fun ⟨_, free⟩ => free long v inside exclusive
    · rename_i apart
      exact iff_of_true rfl ⟨listed', fun long v inside exclusive =>
        apart ⟨long, v, inside, exclusive⟩⟩

/-- Counting what is selected tells whether it is compatible, unless an exclusive choice is
repeated. -/
theorem compatible_iff (filled : selected ≠ []) :
    q.Compatible selected ∧ ¬ q.Repeats selected ↔
      (1 < selected.length → ∀ v ∈ selected, ¬ q.IsExclusive v) := by
  constructor
  · rintro ⟨free | ⟨v, exclusive, same⟩, unrepeated⟩ long
    · exact free
    · exact absurd ⟨long, v, exclusive, same⟩ unrepeated
  · intro free
    refine ⟨?_, ?_⟩
    · by_cases long : 1 < selected.length
      · exact Or.inl (free long)
      · obtain ⟨v, rfl⟩ : ∃ v, selected = [v] := by
          have some := List.length_pos_iff.mpr filled
          exact List.length_eq_one_iff.mp (by omega)
        by_cases exclusive : q.IsExclusive v
        · exact Or.inr ⟨v, exclusive, List.forall_mem_singleton.mpr rfl⟩
        · exact Or.inl (List.forall_mem_singleton.mpr exclusive)
    · rintro ⟨long, v, exclusive, same⟩
      obtain ⟨w, rest, rfl⟩ := List.exists_cons_of_ne_nil filled
      rw [← same w List.mem_cons_self] at exclusive
      exact free long w List.mem_cons_self exclusive

theorem isAnswer_eq_false :
    answer.isAnswer = false ↔ answer = .null ∨ answer = .text "" ∨ answer = .list [] := by
  cases answer <;> simp [Value.isAnswer]

/-- No answer is right if none is required. -/
theorem suits_absent (none : answer.isAnswer = false) :
    q.Suits answer ↔ q.required.truthy = false := by
  constructor
  · rintro (⟨_, optional⟩ | ⟨_, filled, _⟩ | ⟨_, filled, _⟩)
    · exact optional
    · simp [Value.isAnswer, filled] at none
    · simp [Value.isAnswer, filled] at none
  · intro optional
    exact .absent (isAnswer_eq_false.mp none) optional

/-- A radio question takes the ids of its choices. -/
theorem checkRadio_eq_nil (radio : q.type = .radio) (choices : q.choices ≠ [])
    (given : answer.isAnswer = true) : q.checkRadio answer = [] ↔ q.Suits answer := by
  have listed : q.choices.isEmpty = false := by simpa using choices
  constructor
  · intro passed
    cases answer with
    | text s =>
      by_cases inside : s ∈ q.choiceIds
      · exact .choice radio (by simpa [Value.isAnswer] using given) inside
      · simp [checkRadio, listed, inside] at passed
    | _ => cases passed
  · rintro (⟨none, _⟩ | ⟨_, _, inside⟩ | ⟨checkbox, _, _, _⟩)
    · rw [isAnswer_eq_false.mpr none] at given
      cases given
    · simp [checkRadio, inside]
    · cases radio.symm.trans checkbox

/-- A checkbox takes selections without a fault. -/
theorem checkCheckbox_eq_nil (checkbox : q.type = .checkbox) (choices : q.choices ≠ [])
    (given : answer.isAnswer = true) :
    q.checkCheckbox answer = [] ↔ q.Suits answer ∧ ∀ selected, answer = .list selected →
      ¬ q.Repeats selected := by
  constructor
  · intro passed
    cases answer with
    | list selected =>
      have filled : selected ≠ [] := by simpa [Value.isAnswer] using given
      have faultless : q.fault? selected = none := by
        have none := codes_checkCheckbox choices selected
        rw [passed] at none
        exact Option.toList_eq_nil_iff.mp none.symm
      obtain ⟨listed, free⟩ := fault?_eq_none.mp faultless
      obtain ⟨compatible, unrepeated⟩ := (compatible_iff filled).mpr free
      refine ⟨.selection checkbox filled listed compatible, ?_⟩
      rintro _ ⟨⟩
      exact unrepeated
    | _ => cases passed
  · rintro ⟨suits, unrepeated⟩
    cases suits with
    | absent none _ =>
      rw [isAnswer_eq_false.mpr none] at given
      cases given
    | choice radio _ _ => cases radio.symm.trans checkbox
    | @selection selected _ filled listed compatible =>
      have free := (compatible_iff filled).mp ⟨compatible, unrepeated selected rfl⟩
      have none := codes_checkCheckbox choices selected
      rw [fault?_eq_none.mpr ⟨listed, free⟩] at none
      exact List.map_eq_nil_iff.mp none

/-- A choice is checked as one, a selection as one, and if there is neither, whether that
may be. -/
theorem check_chosen (keyed : q.id.isKey = true) (chosen : q.type.hasChoices = true) :
    q.check [] answer = .ok (
      if answer.isAnswer then (if q.type = .radio then q.checkRadio answer
        else q.checkCheckbox answer)
      else if q.required.truthy then [q.error .required "is required" []]
      else []) := by
  rw [check_plain keyed]
  split
  · cases type : q.type with
    | radio => simp [checkKind, type]
    | checkbox => simp [checkKind, type]
    | _ =>
      rw [type] at chosen
      cases chosen
  · rfl

theorem eq_checkbox (chosen : q.type.hasChoices = true) (other : q.type ≠ .radio) :
    q.type = .checkbox := by
  cases type : q.type with
  | radio => exact absurd type other
  | checkbox => rfl
  | _ =>
    rw [type] at chosen
    cases chosen

/-- Nothing is reported on the answers that suit, unless an exclusive choice is repeated. -/
theorem check_eq_nil (keyed : q.id.isKey = true) (chosen : q.type.hasChoices = true)
    (choices : q.choices ≠ []) :
    q.check [] answer = .ok [] ↔ q.Suits answer ∧ ∀ selected, answer = .list selected →
      ¬ q.Repeats selected := by
  rw [check_chosen keyed chosen, Except.ok.injEq]
  split
  · rename_i given
    split
    · rename_i radio
      rw [checkRadio_eq_nil radio choices given]
      refine ⟨fun suits => ⟨suits, ?_⟩, And.left⟩
      rintro selected rfl
      cases suits with
      | absent none _ =>
        rw [isAnswer_eq_false.mpr none] at given
        cases given
      | selection checkbox _ _ _ => cases radio.symm.trans checkbox
    · rename_i other
      exact checkCheckbox_eq_nil (eq_checkbox chosen other) choices given
  · rename_i absent
    have none : answer.isAnswer = false := by simpa using absent
    have unrepeated : ∀ selected, answer = .list selected → ¬ q.Repeats selected := by
      rintro selected rfl ⟨long, _⟩
      have empty : selected = [] := by simpa [Value.isAnswer] using none
      simp [empty] at long
    rw [suits_absent none, and_iff_left unrepeated]
    cases q.required.truthy <;> simp

/-- On a selection its fault is reported, or that there is none. -/
theorem codes_selection (keyed : q.id.isKey = true) (checkbox : q.type = .checkbox)
    (choices : q.choices ≠ []) (selected : List Value) :
    q.codes (.list selected) = .ok (
      if selected.isEmpty then (if q.required.truthy then [.required] else [])
      else (q.fault? selected).toList) := by
  have chosen : q.type.hasChoices = true := by rw [checkbox]; rfl
  rw [codes, check_chosen keyed chosen, ← codes_checkCheckbox choices selected, Except.map,
    Except.ok.injEq]
  cases empty : selected.isEmpty with
  | true =>
    simp only [Value.isAnswer, empty, Bool.not_true, Bool.false_eq_true, if_false, if_true]
    split <;> rfl
  | false => simp [Value.isAnswer, empty, checkbox]

/-- What is reported on a selection does not depend on its order or on that of the choices. -/
theorem codes_perm (checkbox : q.type = .checkbox) (given : q.choices ≠ [])
    {others : List Value} {choices : List Choice} (same : others.Perm selected)
    (same' : choices.Perm q.choices) :
    codes { q with choices := choices } (.list others) = q.codes (.list selected) := by
  by_cases keyed : q.id.isKey = true
  · have given' : choices ≠ [] := by
      rintro rfl
      exact given same'.nil_eq.symm
    have empty : others.isEmpty = selected.isEmpty := by
      rw [Bool.eq_iff_iff, List.isEmpty_iff_length_eq_zero, List.isEmpty_iff_length_eq_zero,
        same.length_eq]
    rw [codes_selection keyed checkbox given,
      codes_selection (q := { q with choices := choices }) keyed checkbox given',
      fault?_perm same' same, empty]
  · have unread (q : Question) (unkeyed : ¬ q.id.isKey = true) (answer : Value) :
        q.codes answer = .error (.misuse .kind) := by
      rw [codes, check, if_pos (by simpa using unkeyed)]
      rfl
    rw [unread q keyed, unread _ (by exact keyed)]

/-- The answer to a question with choices that has been read is reported on if the id of the
question can be a key. Nothing is reported if the answer suits the question and is no
exclusive choice selected more than once, and one error otherwise. What is reported on a
selection does not depend on its order or on that of the choices. -/
theorem check_choices {v : Value} {reading : Reading} (read : ofValue v = .ok reading)
    (chosen : reading.question.type.hasChoices = true) (answer : Value) :
    let q := reading.question
    ((∃ errors, q.check [] answer = .ok errors) ↔ q.id.isKey = true) ∧
      (∀ errors, q.check [] answer = .ok errors →
        (errors = [] ↔ q.Suits answer ∧
          ∀ selected, answer = .list selected → ¬ q.Repeats selected) ∧
        (errors = [] ∨ ∃ e : ValidationError, errors = [e] ∧ e.field = q.id)) ∧
      (q.type = .checkbox → ∀ (selected others : List Value) (choices : List Choice),
        others.Perm selected → choices.Perm q.choices →
          codes { q with choices := choices } (.list others) =
            q.codes (.list selected)) := by
  intro q
  have given : q.choices ≠ [] := (readable_of_ofValue read).choices chosen
  have keyed : (∃ errors, q.check [] answer = .ok errors) ↔ q.id.isKey = true := by
    constructor
    · rintro ⟨errors, done⟩
      by_contra unkeyed
      rw [check, if_pos (by simpa using unkeyed)] at done
      cases done
    · intro keyed
      exact ⟨_, check_chosen keyed chosen⟩
  refine ⟨keyed, ?_, ?_⟩
  · intro errors done
    have suits : q.check [] answer = .ok [] ↔ _ :=
      check_eq_nil (keyed.mp ⟨errors, done⟩) chosen given
    rw [done, Except.ok.injEq] at suits
    refine ⟨suits, ?_⟩
    cases reportOn_check done with
    | nothing => exact Or.inl rfl
    | one about => exact Or.inr ⟨_, rfl, about⟩
    | both number _ _ _ _ _ =>
      rw [number] at chosen
      cases chosen
  · intro checkbox selected others choices same same'
    exact codes_perm checkbox given same same'

/-- A question for kinds of aid, or none of them, under any id. -/
def aidQuestion (id : Value) : Question :=
  { id := id, title := .text "", type := .checkbox
    choices :=
      [{ id := "apl", title := .text "apl" }, { id := "visale", title := .text "visale" },
      { id := "aucune", exclusive := true }] }

def aidDocument (id : Value) : Value :=
  .map [(.text "id", id), (.text "type", .text "checkbox"),
    (.text "choices", .list [.text "apl", .text "visale",
    .map [(.text "id", .text "aucune"), (.text "exclusive", .bool true)]])]

theorem ofValue_aid (id : Value) : ofValue (aidDocument id) = .ok ⟨aidQuestion id, []⟩ :=
  rfl

/-- Choices that are not exclusive can be selected together, and more than once. -/
theorem check_choices_aid :
    let q := aidQuestion (.text "aides")
    let selected : List Value := [.text "visale", .text "apl", .text "visale"]
    ofValue (aidDocument (.text "aides")) = .ok ⟨q, []⟩ ∧ q.type.hasChoices = true ∧
      q.check [] (.list selected) = .ok [] ∧
      codes { q with choices := q.choices.reverse } (.list selected.reverse) = .ok [] := by
  intro q selected
  have read := ofValue_aid (.text "aides")
  obtain ⟨settled, reports, ordered⟩ := check_choices read rfl (.list selected)
  obtain ⟨errors, done⟩ := settled.mpr rfl
  have free : ∀ v ∈ selected, ¬ q.IsExclusive v := by decide
  have suits : q.Suits (.list selected) :=
    .selection rfl (by simp [selected]) (by decide) (Or.inl free)
  have unrepeated : ∀ others, Value.list selected = .list others → ¬ q.Repeats others := by
    rintro _ ⟨⟩ ⟨_, v, exclusive, same⟩
    rw [← same _ List.mem_cons_self] at exclusive
    exact free _ List.mem_cons_self exclusive
  have none : errors = [] := (reports errors done).1.mpr ⟨suits, unrepeated⟩
  rw [none] at done
  have quiet : q.codes (.list selected) = .ok [] := by rw [codes, done]; rfl
  refine ⟨read, rfl, done, ?_⟩
  rw [← quiet]
  exact ordered rfl selected selected.reverse q.choices.reverse selected.reverse_perm
    q.choices.reverse_perm

/-- An exclusive choice that is selected twice is combined with no other one, but refused;
and nothing is said of an answer to a question whose id is a list. -/
theorem check_repeated :
    let repeated : Value := .list [.text "aucune", .text "aucune"]
    ((aidQuestion (.text "aides")).Suits repeated ∧
      (aidQuestion (.text "aides")).codes repeated = .ok [.exclusiveChoice]) ∧
    (aidQuestion (.list [])).Suits (.list [.text "apl"]) ∧
      (aidQuestion (.list [])).check [] (.list [.text "apl"]) = .error (.misuse .kind) := by
  intro repeated
  have alone : (aidQuestion (.text "aides")).Compatible [.text "aucune", .text "aucune"] :=
    Or.inr ⟨.text "aucune", by decide, by simp⟩
  have free : ∀ v ∈ [Value.text "apl"], ¬ (aidQuestion (.list [])).IsExclusive v := by decide
  exact ⟨⟨.selection rfl nofun (by decide) alone, rfl⟩,
    .selection rfl nofun (by decide) (Or.inl free), rfl⟩

end Questionnaire.Question
