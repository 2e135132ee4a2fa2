import Questionnaire.Proofs.Magnitudes
import Questionnaire.Proofs.QuestionDocuments
import Questionnaire.Validation

/-!
# Reports on answers

A validation reports on every question in its turn: nothing, one error, or one error for
each of two bounds that exclude each other. It fails on a question that no answer can be
looked up for and on a whole number, entered for a number, that is too large for a
floating-point number; it does not fail on any other answer.
-/

namespace Questionnaire

/-- A list can be gone through if and only if each of its elements can be. -/
theorem exists_mapM {α β ε : Type} {f : α → Except ε β} {elements : List α} :
    (∃ results, elements.mapM f = .ok results) ↔ ∀ a ∈ elements, ∃ b, f a = .ok b := by
  simp only [mapM_eq_ok_iff]
  constructor
  · rintro ⟨results, each⟩ a inside
    obtain ⟨i, small, rfl⟩ := List.mem_iff_getElem.mp inside
    obtain ⟨length, pairs⟩ := List.forall₂_iff_get.mp each
    exact ⟨_, pairs i small (length ▸ small)⟩
  · intro each
    induction elements with
    | nil => exact ⟨[], .nil⟩
    | cons a rest ih =>
      obtain ⟨here, later⟩ := List.forall_mem_cons.mp each
      obtain ⟨b, result⟩ := here
      obtain ⟨results, others⟩ := ih later
      exact ⟨b :: results, .cons result others⟩

namespace Question

/-- The bounds of the question are numbers, where they are given. -/
def HasBounds (q : Question) : Prop :=
  ∀ bound ∈ [q.min, q.max], bound.isNull = true ∨ bound.quantity?.isSome = true

instance (q : Question) : Decidable q.HasBounds :=
  inferInstanceAs (Decidable (∀ bound ∈ [q.min, q.max], _))

/-- The lower bound of the question is above its upper bound. -/
def Crossed (q : Question) : Prop :=
  ∃ low high, q.min.quantity? = some low ∧ q.max.quantity? = some high ∧
    high.less low = true

/-- What a validation reports on one question. -/
inductive ReportOn (q : Question) : List ValidationError → Prop
  | nothing : ReportOn q []
  | one {e : ValidationError} (about : e.field = q.id) : ReportOn q [e]
  | both {low high : ValidationError} (number : q.type = .number) (crossed : q.Crossed)
      (about : low.field = q.id) (about' : high.field = q.id)
      (code : low.code = .belowMin) (code' : high.code = .aboveMax) : ReportOn q [low, high]

variable {q : Question} {answer : Value} {errors : List ValidationError}

/-- At most one error is reported under a condition. -/
theorem reportOn_if {p : Prop} [Decidable p] (code : ValidationCode) (text : String)
    (context : Table String Value) :
    ReportOn q (if p then [q.error code text context] else []) := by
  split
  · exact .one rfl
  · exact .nothing

theorem reportOn_checkRadio : ReportOn q (q.checkRadio answer) := by
  unfold checkRadio
  split
  · split
    · exact .nothing
    · exact .one rfl
  · exact .one rfl

theorem reportOn_checkCheckbox : ReportOn q (q.checkCheckbox answer) := by
  unfold checkCheckbox
  split
  · extract_lets invalid exclusive
    split
    · exact .one rfl
    · exact reportOn_if _ _ _
  · exact .one rfl

theorem reportOn_checkDate : ReportOn q (q.checkDate answer) := by
  unfold checkDate
  split
  · exact .nothing
  · exact .nothing
  · split
    · exact .nothing
    · exact .one rfl
  · exact .one rfl

theorem reportOn_checkCombobox : ReportOn q (q.checkCombobox answer) := by
  unfold checkCombobox
  extract_lets fits
  split
  · exact .nothing
  · exact .one rfl

theorem reportOn_checkBoolean : ReportOn q (q.checkBoolean answer) := by
  unfold checkBoolean
  split
  · exact .nothing
  · exact .one rfl

/-- A number can be compared with a bound that is a number, and with none. -/
theorem exists_exceeds (beyond : Quantity → Quantity → Bool) (x : Binary64) {bound : Value}
    (number : bound.isNull = true ∨ bound.quantity?.isSome = true) :
    ∃ b, exceeds beyond x bound = .ok b := by
  unfold exceeds
  rcases number with none | some
  · exact ⟨false, if_pos none⟩
  · obtain ⟨n, same⟩ := Option.isSome_iff_exists.mp some
    rw [same]
    split <;> exact ⟨_, rfl⟩

/-- What is beyond a bound is beyond a number. -/
theorem quantity_of_exceeds {beyond : Quantity → Quantity → Bool} {x : Binary64}
    {bound : Value} (done : exceeds beyond x bound = .ok true) :
    ∃ n, bound.quantity? = some n ∧ beyond x.quantity n = true := by
  unfold exceeds at done
  split at done
  · cases done
  · split at done
    · rename_i n same
      exact ⟨n, same, Except.ok.inj done⟩
    · cases done

/-- The number of an answer can be found, unless the answer does not fit. -/
theorem exists_entered? : (∃ number, answer.entered? = .ok number) ↔ answer.Fits := by
  cases answer with
  | int n => cases made : Binary64.ofInt? n <;> simp [Value.entered?, Value.Fits, made]
  | _ => exact iff_of_true ⟨_, rfl⟩ trivial

/-- A number question reports one error for each bound that the answer is beyond. -/
theorem checkNumber_eq_ok_iff :
    q.checkNumber answer = .ok errors ↔
      (answer.entered? = .ok none ∧ errors = [q.error .invalidType "must be a number" []]) ∨
      ∃ x low high, answer.entered? = .ok (some x) ∧
        exceeds (fun a b => a.less b) x q.min = .ok low ∧
          exceeds (fun a b => b.less a) x q.max = .ok high ∧
        errors = (if low then [q.error .belowMin ("must be at least " ++ q.min.display)
            [("min", q.min), ("provided", .float x)]] else [])
          ++ (if high then [q.error .aboveMax ("must be at most " ++ q.max.display)
            [("max", q.max), ("provided", .float x)]] else []) := by
  unfold checkNumber
  rw [bind_eq_ok_iff]
  constructor
  · rintro ⟨number, found, done⟩
    cases number with
    | none => exact Or.inl ⟨found, (Except.ok.inj done).symm⟩
    | some x =>
      obtain ⟨low, below, done⟩ := bind_eq_ok_iff.mp done
      obtain ⟨high, above, done⟩ := bind_eq_ok_iff.mp done
      exact Or.inr ⟨x, low, high, found, below, above, (Except.ok.inj done).symm⟩
  · rintro (⟨found, rfl⟩ | ⟨x, low, high, found, below, above, rfl⟩)
    · exact ⟨none, found, rfl⟩
    · exact ⟨some x, found, bind_eq_ok_iff.mpr ⟨low, below,
        bind_eq_ok_iff.mpr ⟨high, above, rfl⟩⟩⟩

theorem reportOn_checkNumber (number : q.type = .number)
    (done : q.checkNumber answer = .ok errors) : ReportOn q errors := by
  rcases checkNumber_eq_ok_iff.mp done with ⟨_, rfl⟩ | ⟨x, low, high, _, below, above, rfl⟩
  · exact .one rfl
  · cases low with
    | false => exact reportOn_if _ _ _
    | true =>
      cases high with
      | false => exact .one rfl
      | true =>
        -- an answer below the lower bound and above the upper one is between them
        obtain ⟨least, given, under⟩ := quantity_of_exceeds below
        obtain ⟨most, given', beyond⟩ := quantity_of_exceeds above
        exact .both number ⟨least, most, given, given', Quantity.less_trans beyond under⟩
          rfl rfl rfl rfl

theorem exists_checkNumber (bounds : q.HasBounds) :
    (∃ errors, q.checkNumber answer = .ok errors) ↔ answer.Fits := by
  rw [← exists_entered?]
  constructor
  · rintro ⟨errors, done⟩
    rcases checkNumber_eq_ok_iff.mp done with ⟨found, _⟩ | ⟨x, _, _, found, _⟩
    · exact ⟨none, found⟩
    · exact ⟨some x, found⟩
  · rintro ⟨number, found⟩
    cases number with
    | none => exact ⟨_, checkNumber_eq_ok_iff.mpr (Or.inl ⟨found, rfl⟩)⟩
    | some x =>
      obtain ⟨low, below⟩ := exists_exceeds (fun a b => a.less b) x (bounds q.min (by simp))
      obtain ⟨high, above⟩ :=
        exists_exceeds (fun a b => b.less a) x (bounds q.max (by simp))
      exact ⟨_, checkNumber_eq_ok_iff.mpr (Or.inr ⟨x, low, high, found, below, above, rfl⟩)⟩

theorem reportOn_checkKind (done : q.checkKind answer = .ok errors) :
    ReportOn q errors := by
  unfold checkKind at done
  split at done
  · cases done
    exact reportOn_checkRadio
  · cases done
    exact reportOn_checkCheckbox
  · rename_i number
    exact reportOn_checkNumber number done
  · cases done
    exact reportOn_checkDate
  · cases done
    exact reportOn_checkCombobox
  · cases done
    exact reportOn_checkBoolean
  · cases done
    exact .nothing

theorem exists_checkKind (bounds : q.HasBounds) :
    (∃ errors, q.checkKind answer = .ok errors) ↔ (q.type = .number → answer.Fits) := by
  cases type : q.type with
  | number => simp [checkKind, type, exists_checkNumber bounds]
  | _ => simp [checkKind, type]

/-- What is no answer fits. -/
theorem fits_of_not_isAnswer (absent : answer.isAnswer = false) : answer.Fits := by
  cases answer with
  | int n => cases absent
  | _ => trivial

/-- Without custom checks, an answer is checked by the kind of its question. -/
theorem check_plain (keyed : q.id.isKey = true) :
    q.check [] answer =
      if answer.isAnswer then q.checkKind answer
      else .ok (if q.required.truthy then [q.error .required "is required" []]
        else []) := by
  simp [check, keyed]

theorem reportOn_check (done : q.check [] answer = .ok errors) : ReportOn q errors := by
  by_cases keyed : q.id.isKey = true
  · rw [check_plain keyed] at done
    split at done
    · exact reportOn_checkKind done
    · cases done
      exact reportOn_if _ _ _
  · rw [check, if_pos (by simpa using keyed)] at done
    cases done

theorem exists_check (bounds : q.HasBounds) :
    (∃ errors, q.check [] answer = .ok errors) ↔ q.id.isKey = true ∧
      (q.type = .number → answer.Fits) := by
  by_cases keyed : q.id.isKey = true
  · rw [check_plain keyed]
    split
    · simp [exists_checkKind bounds, keyed]
    · rename_i absent
      have fits : answer.Fits := fits_of_not_isAnswer (by simpa using absent)
      exact iff_of_true ⟨_, rfl⟩ ⟨keyed, fun _ => fits⟩
  · refine iff_of_false ?_ (fun both => keyed both.1)
    rw [check, if_pos (by simpa using keyed)]
    simp

/-- A validation of questions with bounds that are numbers gives a result, unless a question
has an id that cannot be a key or a number question has an answer that is too large a whole
number. The result is made up of the reports on the questions, in their order. -/
theorem checkAll_reports (questions : List Question) (answers : Table String Value)
    (bounds : ∀ q ∈ questions, q.HasBounds) :
    ((∃ errors, checkAll [] questions answers = .ok errors) ↔
      ∀ q ∈ questions, q.id.isKey = true ∧ (q.type = .number → (q.answerIn answers).Fits)) ∧
    ∀ errors, checkAll [] questions answers = .ok errors →
      ∃ groups, errors = groups.flatten ∧ List.Forall₂ ReportOn questions groups := by
  have collected {errors : List ValidationError} :
      checkAll [] questions answers = .ok errors ↔
      ∃ groups, questions.mapM (fun q => q.check [] (q.answerIn answers)) = .ok groups ∧
        errors = groups.flatten := by
    simp only [checkAll, bind_eq_ok_iff, pure, Except.pure, Except.ok.injEq]
    exact exists_congr fun groups => and_congr_right fun _ => eq_comm
  constructor
  · calc (∃ errors, checkAll [] questions answers = .ok errors)
        ↔ ∃ groups, questions.mapM (fun q => q.check [] (q.answerIn answers)) =
          .ok groups := by
          simp [collected]
      _ ↔ ∀ q ∈ questions, ∃ group, q.check [] (q.answerIn answers) =
        .ok group := exists_mapM
      _ ↔ ∀ q ∈ questions, q.id.isKey = true ∧
        (q.type = .number → (q.answerIn answers).Fits) :=
          forall₂_congr fun q inside => exists_check (bounds q inside)
  · intro errors done
    obtain ⟨groups, each, rfl⟩ := collected.mp done
    refine ⟨groups, rfl, ?_⟩
    exact ((mapM_eq_ok_iff _ _ _).mp each).imp fun _ _ done => reportOn_check done

/-- The age of a student, whose bounds exclude each other, the kinds of help, and a question
that is named by a number and called by it. -/
def studentQuestions : List Question :=
  [{ id := .text "age", title := .text "Age", type := .number
     min := .int 26, max := .int 18 },
    { id := .text "aides", title := .text "Aides", type := .checkbox
      choices := [{ id := "apl" }, { id := "aucune", exclusive := true }] },
    { id := .int 3, title := .text "", type := .date }]

theorem checkAll_reports_student :
    let answers : Answers :=
      [("age", .text " 21 "), ("aides", .list [.text "aucune", .map [], .text "apl"])]
    (∀ q ∈ studentQuestions, q.HasBounds) ∧
      (∀ q ∈ studentQuestions, q.id.isKey = true ∧
        (q.type = .number → (q.answerIn answers).Fits)) ∧
      ∃ groups, checkAll [] studentQuestions answers = .ok groups.flatten ∧
        List.Forall₂ ReportOn studentQuestions groups := by
  intro answers
  have bounds : ∀ q ∈ studentQuestions, q.HasBounds := by decide
  have proper : ∀ q ∈ studentQuestions, q.id.isKey = true ∧
      (q.type = .number → (q.answerIn answers).Fits) := by
    decide
  obtain ⟨settled, reports⟩ := checkAll_reports studentQuestions answers bounds
  obtain ⟨errors, done⟩ := settled.mpr proper
  obtain ⟨groups, rfl, each⟩ := reports errors done
  exact ⟨bounds, proper, groups, done, each⟩

/-- A whole number that is too large stops the validation, and so does an id that cannot be
looked up. -/
theorem checkAll_oversized :
    let income : Question :=
      { id := .text "revenu", title := .text "Revenu", type := .number }
    let listed : Question := { income with id := .list [.text "revenu"] }
    income.HasBounds ∧ listed.HasBounds ∧
      checkAll [] [income] [("revenu", .int (twoTo 1024))] = .error (.misuse .size) ∧
      checkAll [] [listed] [] = .error (.misuse .kind) := by
  intro income listed
  refine ⟨by decide, by decide, ?_, rfl⟩
  have large : Binary64.ofInt? (twoTo 1024) = none := by decide +kernel
  have entered : (Value.int (twoTo 1024)).entered? = .error (.misuse .size) := by
    rw [Value.entered?, large]
    rfl
  have found : income.answerIn [("revenu", .int (twoTo 1024))] = .int (twoTo 1024) := rfl
  have stopped : income.check [] (.int (twoTo 1024)) = .error (.misuse .size) := by
    rw [check_plain rfl]
    simp only [Value.isAnswer, if_true, checkKind, income, checkNumber, entered, bind,
      Except.bind]
  simp only [checkAll, List.mapM_cons, found, stopped, bind, Except.bind]

end Question

end Questionnaire
