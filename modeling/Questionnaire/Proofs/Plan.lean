import Questionnaire.Compilation
import Questionnaire.Proofs.WriteOnce

/-!
# What a builder does is planned ahead

What an answer or a probe makes a builder do does not depend on what the builder holds: it
is a list of actions that its options, its resolver and its periods determine. Taking
answers and probes is performing their actions. Only the defaults look at the entities.

Under options that do not throw, the entities follow from the writes among the actions
alone, each entity from its own.
-/

namespace Questionnaire

namespace Stepped

@[simp] theorem andThen_of_halt_none {s : Stepped} (h : s.halt = none)
    (next : Builder → Stepped) :
    s.andThen next = { next s.builder with recorded := s.recorded ++
      (next s.builder).recorded } := by
  simp [andThen, h]

theorem andThen_of_halt {s : Stepped} {failure : Failure} (h : s.halt = some failure)
    (next : Builder → Stepped) : s.andThen next = s := by
  simp [andThen, h]

theorem andThen_quiet_right (s : Stepped) : s.andThen quiet = s := by
  cases h : s.halt with
  | some failure => exact andThen_of_halt h _
  | none =>
    rw [andThen_of_halt_none h]
    simp [quiet, ← h]

theorem andThen_assoc (s : Stepped) (f g : Builder → Stepped) :
    (s.andThen f).andThen g = s.andThen fun b => (f b).andThen g := by
  cases h : s.halt with
  | some failure => simp only [andThen_of_halt h]
  | none =>
    cases hf : (f s.builder).halt with
    | some failure => simp [andThen, h, hf]
    | none => simp [andThen, h, hf, List.append_assoc]

theorem forEach_append {α : Type} (step : Builder → α → Stepped) (first rest : List α)
    (b : Builder) :
    forEach step (first ++ rest) b =
      (forEach step first b).andThen (forEach step rest) := by
  induction first generalizing b with
  | nil => simp [forEach]
  | cons a tail ih =>
    simp only [List.cons_append, forEach]
    rw [andThen_assoc]
    congr 1
    funext c
    exact ih c

theorem forEach_singleton {α : Type} (step : Builder → α → Stepped) (a : α) (b : Builder) :
    forEach step [a] b = step b a := by
  simp only [forEach]
  exact andThen_quiet_right _

theorem forEach_map {α β : Type} (step : Builder → β → Stepped) (f : α → β) (items : List α)
    (b : Builder) :
    forEach step (items.map f) b = forEach (fun b a => step b (f a)) items b := by
  induction items generalizing b with
  | nil => rfl
  | cons a tail ih =>
    simp only [List.map_cons, forEach]
    congr 1
    funext c
    exact ih c

end Stepped

/-- What the actions of a builder depend on. -/
structure Setting where
  options : Options
  resolver : Resolver
  periods : Periods

/-- One thing that a builder does. -/
inductive Action where
  | report (error : BuildError)
  | write (kind : EntityKind) (answerKey : String) (cell : Builder.Cell)
  | fail (failure : Failure)

namespace Action

/-- A value other than a scalar is reported and not written. -/
def ofCell (kind : EntityKind) (answerKey : String) (cell : Builder.Cell) : Action :=
  if !cell.value.isNull && !cell.value.isScalar then
    .report ⟨.mappingError, answerKey, "Mapping produced a non-scalar value for '" ++
      cell.name.display ++ "'"⟩
  else .write kind answerKey cell

/-- The call that an action makes to the entity of a kind. -/
def callTo (kind : EntityKind) : Action → Option Entity.Call
  | .write owner answerKey cell =>
      if owner = kind then some (.write cell.name cell.value cell.period answerKey) else none
  | _ => none

/-- The error that an action records. -/
def reported : Action → Option BuildError
  | .report error => some error
  | _ => none

def isReport (a : Action) : Bool := a.reported.isSome

end Action

namespace Setting

/-- What an expansion makes a builder do. -/
def route (answerKey : String) (expansion : Expansion) : Owner → List Action
  | .kind kind => (Builder.cells expansion).map (Action.ofCell kind answerKey)
  | .unknown name =>
      [.report ⟨.unknownEntity, answerKey, "No entity manager found for entity: " ++ name⟩]

def settle (owner : Owner) (answerKey : String) :
    Option (Except Failure Expansion) → List Action
  | none =>
    [.report ⟨.mappingError, answerKey, "Invalid mapping for answer key: " ++ answerKey⟩]
  | some (.ok expansion) => route answerKey expansion owner
  | some (.error (.period value)) =>
    [.report ⟨.mappingError, answerKey, periodMessage value⟩]
  | some (.error (.dispatch k message)) =>
      [.report ⟨.unexpectedValue, answerKey, (Failure.dispatch k message).message?.getD ""⟩]
  | some (.error (.unexpectedValue k value)) =>
      [.report ⟨.unexpectedValue, answerKey,
        (Failure.unexpectedValue k value).message?.getD ""⟩]
  | some (.error failure) => [.fail failure]

/-- What a scalar answer makes a builder do. -/
def scalarPlan (s : Setting) (key : String) (value : Value) : List Action :=
  match s.resolver.mapping? key with
  | none => [.report ⟨.unknownVariable, key, "No mapping found for answer key: " ++ key⟩]
  | some .excluded => []
  | some mapping =>
      match s.resolver.owner? key with
      | none => [.report ⟨.unknownEntity, key, "No entity found for answer key: " ++ key⟩]
      | some owner => settle owner key (Builder.expand s.periods key value mapping)

/-- What an answer makes a builder do. -/
def answerPlan (s : Setting) (key : String) (answer : Value) : List Action :=
  if answer.isUnanswered then
    if s.options.allowUndefined.truthy then []
    else [.report ⟨.undefinedValue, key, "Undefined value for answer key: " ++ key⟩]
  else if answer.unwrap.isScalar then s.scalarPlan key answer.unwrap
  else if (s.resolver.mapping? key).any Mapping.isExcluded then []
  else
    [.report ⟨.unexpectedValue, key,
      "Unexpected value type for answer key: " ++ key ++ " (" ++
        answer.unwrap.kindName ++ ")"⟩]

/-- What a probe makes a builder do. -/
def probePlan (s : Setting) (key : String) : List Action :=
  match s.resolver.mapping? key with
  | none => [.report ⟨.unknownVariable, key, "No mapping found for question key: " ++ key⟩]
  | some (.direct name type) =>
      match s.resolver.owner? key with
      | none => [.report ⟨.unknownEntity, key, "No entity found for question key: " ++ key⟩]
      | some owner =>
        settle owner key (Builder.expand s.periods key .null (.direct name type))
  | some _ =>
    [.report ⟨.mappingError, key, "Question key must have direct mapping: " ++ key⟩]

/-- What the plan of an answer can be: nothing, a report on the answer or on its key, or
what is settled by the mapping of the key. -/
inductive AnswerCase (s : Setting) (key : String) (answer : Value) :
    List Action → Prop where
  | idle : AnswerCase s key answer []
  | told (kind : BuildErrorKind)
      (own : kind ∈ [.undefinedValue, .unexpectedValue, .unknownVariable])
      (message : String) : AnswerCase s key answer [.report ⟨kind, key, message⟩]
  | unowned (mapping : Mapping) (found : s.resolver.mapping? key = some mapping)
      (unowned : s.resolver.owner? key = none) (message : String) :
      AnswerCase s key answer [.report ⟨.unknownEntity, key, message⟩]
  | settled (mapping : Mapping) (owner : Owner) (given : answer.isUnanswered = false)
      (scalar : answer.unwrap.isScalar = true)
      (found : s.resolver.mapping? key = some mapping)
      (counts : mapping ≠ .excluded) (owned : s.resolver.owner? key = some owner) :
      AnswerCase s key answer (settle owner key
        (Builder.expand s.periods key answer.unwrap mapping))

theorem answerCase (s : Setting) (key : String) (answer : Value) :
    AnswerCase s key answer (s.answerPlan key answer) := by
  unfold answerPlan
  split
  · split
    · exact .idle
    · exact .told _ (by simp) _
  · rename_i given
    split
    · rename_i scalar
      unfold scalarPlan
      split
      · exact .told _ (by simp) _
      · exact .idle
      · rename_i mapping counts found
        split
        · rename_i unowned
          exact .unowned mapping found unowned _
        · rename_i owner owned
          exact .settled mapping owner (by simpa using given) scalar found counts owned
    · split
      · exact .idle
      · exact .told _ (by simp) _

/-- What the plan of a probe can be: a report on its key, or what is settled for the
variable of the key. -/
inductive ProbeCase (s : Setting) (key : String) : List Action → Prop where
  | unknown (message : String) : ProbeCase s key [.report ⟨.unknownVariable, key, message⟩]
  | unowned (mapping : Mapping) (found : s.resolver.mapping? key = some mapping)
      (unowned : s.resolver.owner? key = none) (message : String) :
      ProbeCase s key [.report ⟨.unknownEntity, key, message⟩]
  | settled (name : Value) (type : PeriodType) (owner : Owner)
      (found : s.resolver.mapping? key = some (.direct name type))
      (owned : s.resolver.owner? key = some owner) :
      ProbeCase s key (settle owner key (Builder.expand s.periods key .null
        (.direct name type)))
  | indirect (mapping : Mapping) (found : s.resolver.mapping? key = some mapping)
      (indirect : ∀ name type, mapping ≠ .direct name type) :
      ProbeCase s key [.report ⟨.mappingError, key,
        "Question key must have direct mapping: " ++ key⟩]

theorem probeCase (s : Setting) (key : String) : ProbeCase s key (s.probePlan key) := by
  unfold probePlan
  split
  · exact .unknown _
  · rename_i name type found
    split
    · rename_i unowned
      exact .unowned _ found unowned _
    · rename_i owner owned
      exact .settled name type owner found owned
  · rename_i mapping indirect found
    exact .indirect mapping found indirect

end Setting

/-- The answer that the scholarship rule adds. -/
def Scholarship.added (answers : Answers) : Answers :=
  if isMissing answers then [(amountKey, .int 1)] else []

namespace Setting

/-- What answers, the scholarship rule and probes make a builder do. -/
def plan (s : Setting) (answers : Answers) (probes : List String) : List Action :=
  (answers ++ Scholarship.added answers).flatMap (fun entry => s.answerPlan entry.1 entry.2)
    ++ probes.flatMap s.probePlan

end Setting

namespace Builder

def setting (b : Builder) : Setting := ⟨b.options, b.resolver, b.periods⟩

/-- Do one thing. -/
def act (b : Builder) : Action → Stepped
  | .report error => ⟨{ b with errors := b.errors ++ [error] }, [error], b.haltOn error⟩
  | .fail failure => ⟨b, [], some failure⟩
  | .write kind answerKey cell =>
      match (b.entities.get kind).call (.write cell.name cell.value cell.period
        answerKey) with
      | (_, .error failure) => ⟨b, [], some failure⟩
      | (entity, .ok refused) =>
          ⟨{ b with entities := b.entities.set kind entity }, refused.toList,
            refused.bind b.haltOn⟩

/-- Do one thing after the other. -/
def perform (plan : List Action) (b : Builder) : Stepped := Stepped.forEach act plan b

theorem perform_singleton (a : Action) (b : Builder) : perform [a] b = b.act a :=
  Stepped.forEach_singleton act a b

theorem perform_cons_of_halt {a : Action} {b : Builder} {failure : Failure}
    (h : (b.act a).halt = some failure) (rest : List Action) :
    perform (a :: rest) b = b.act a := by
  simp only [perform, Stepped.forEach, Stepped.andThen_of_halt h]

theorem perform_cons_of_halt_none {a : Action} {b : Builder} (h : (b.act a).halt = none)
    (rest : List Action) :
    perform (a :: rest) b =
      { perform rest (b.act a).builder with
        recorded := (b.act a).recorded ++ (perform rest (b.act a).builder).recorded } := by
  simp only [perform, Stepped.forEach, Stepped.andThen_of_halt_none h]

theorem perform_append (first rest : List Action) (b : Builder) :
    perform (first ++ rest) b = (perform first b).andThen (perform rest) :=
  Stepped.forEach_append act first rest b

theorem record_eq_perform (b : Builder) (kind : BuildErrorKind) (key message : String) :
    b.record kind key message = perform [.report ⟨kind, key, message⟩] b := by
  rw [perform_singleton]
  rfl

theorem act_setting (b : Builder) (a : Action) : (b.act a).builder.setting = b.setting := by
  cases a with
  | report error => rfl
  | fail failure => rfl
  | write kind answerKey cell =>
    simp only [act]
    split <;> rfl

theorem perform_setting (plan : List Action) (b : Builder) :
    (perform plan b).builder.setting = b.setting := by
  induction plan generalizing b with
  | nil => rfl
  | cons a rest ih =>
    cases h : (b.act a).halt with
    | some failure =>
      rw [perform_cons_of_halt h]
      exact act_setting b a
    | none =>
      rw [perform_cons_of_halt_none h]
      exact (ih (b.act a).builder).trans (act_setting b a)

theorem writeCell_eq_act (kind : EntityKind) (key : String) (b : Builder) (cell : Cell) :
    writeCell kind key b cell = b.act (.ofCell kind key cell) := by
  unfold writeCell Action.ofCell
  split
  · rfl
  · cases h : (b.entities.get kind).write cell.name cell.value cell.period key with
    | error failure => simp [act, Entity.call, h]
    | ok result =>
      obtain ⟨entity, refused⟩ := result
      cases refused with
      | none =>
        simp only [act, Entity.call, h]
        rfl
      | some error =>
        simp only [act, Entity.call, h]
        rfl

theorem route_eq_perform (b : Builder) (owner : Owner) (key : String)
    (expansion : Expansion) :
    b.route owner key expansion = perform (Setting.route key expansion owner) b := by
  cases owner with
  | kind kind =>
    simp only [route, Setting.route, perform, Stepped.forEach_map]
    congr 1
    funext b cell
    exact writeCell_eq_act kind key b cell
  | unknown name => exact record_eq_perform b _ _ _

theorem settle_eq_perform (b : Builder) (owner : Owner) (key : String)
    (expanded : Option (Except Failure Expansion)) :
    b.settle owner key expanded = perform (Setting.settle owner key expanded) b := by
  cases expanded with
  | none => exact record_eq_perform b _ _ _
  | some result =>
    cases result with
    | ok expansion => exact route_eq_perform b owner key expansion
    | error failure =>
      cases failure with
      | period value => exact record_eq_perform b _ _ _
      | dispatch k message => exact record_eq_perform b _ _ _
      | unexpectedValue k value => exact record_eq_perform b _ _ _
      | _ =>
        simp only [Setting.settle, perform_singleton]
        rfl

theorem addScalar_eq_perform (b : Builder) (key : String) (value : Value) :
    b.addScalar key value = perform (b.setting.scalarPlan key value) b := by
  simp only [addScalar, Setting.scalarPlan, setting]
  cases b.resolver.mapping? key with
  | none => exact record_eq_perform b _ _ _
  | some mapping =>
    cases b.resolver.owner? key with
    | none =>
      cases mapping with
      | excluded => rfl
      | _ => exact record_eq_perform b _ _ _
    | some owner =>
      cases mapping with
      | excluded => rfl
      | _ => exact settle_eq_perform b owner key _

/-- Taking an answer is performing its actions. -/
theorem addAnswer_eq_perform (b : Builder) (key : String) (answer : Value) :
    b.addAnswer key answer = perform (b.setting.answerPlan key answer) b := by
  unfold addAnswer Setting.answerPlan
  by_cases unanswered : answer.isUnanswered = true
  · by_cases allowed : b.options.allowUndefined.truthy = true
    · simp only [unanswered, if_true, setting, allowed]
      rfl
    · simp only [unanswered, if_true, setting, allowed, Bool.false_eq_true, if_false]
      exact record_eq_perform b _ _ _
  · simp only [unanswered, Bool.false_eq_true, if_false]
    by_cases scalar : answer.unwrap.isScalar = true
    · simp only [scalar, if_true]
      exact addScalar_eq_perform b key _
    · by_cases excluded : (b.resolver.mapping? key).any Mapping.isExcluded = true
      · simp only [scalar, Bool.false_eq_true, if_false, setting, excluded, if_true]
        rfl
      · simp only [scalar, Bool.false_eq_true, if_false, setting, excluded]
        exact record_eq_perform b _ _ _

/-- Taking a probe is performing its actions. -/
theorem addProbe_eq_perform (b : Builder) (key : String) :
    b.addProbe key = perform (b.setting.probePlan key) b := by
  simp only [addProbe, Setting.probePlan, setting]
  cases b.resolver.mapping? key with
  | none => exact record_eq_perform b _ _ _
  | some mapping =>
    cases mapping with
    | direct name type =>
      cases b.resolver.owner? key with
      | none => exact record_eq_perform b _ _ _
      | some owner => exact settle_eq_perform b owner key _
    | _ => exact record_eq_perform b _ _ _

/-- Steps that are planned by the setting can be planned together. -/
theorem forEach_eq_perform {α : Type} (step : Builder → α → Stepped)
    (plan : Setting → α → List Action)
    (planned : ∀ b a, step b a = perform (plan b.setting a) b) (items : List α)
    (b : Builder) :
    Stepped.forEach step items b = perform (items.flatMap (plan b.setting)) b := by
  induction items generalizing b with
  | nil => rfl
  | cons a rest ih =>
    rw [List.flatMap_cons, perform_append, Stepped.forEach, planned b a]
    cases h : (perform (plan b.setting a) b).halt with
    | some failure => simp only [Stepped.andThen_of_halt h]
    | none =>
      simp only [Stepped.andThen_of_halt_none h]
      rw [ih, perform_setting]

theorem addAnswers_eq_perform (b : Builder) (answers : Answers) :
    b.addAnswers answers = perform (answers.flatMap fun entry =>
      b.setting.answerPlan entry.1 entry.2) b :=
  forEach_eq_perform (fun b (entry : String × Value) => b.addAnswer entry.1 entry.2)
    (fun s entry => s.answerPlan entry.1 entry.2)
    (fun b entry => addAnswer_eq_perform b entry.1 entry.2) answers b

theorem scholarship_eq_perform (answers : Answers) (b : Builder) :
    Scholarship.apply answers b =
      perform ((Scholarship.added answers).flatMap fun entry =>
        b.setting.answerPlan entry.1 entry.2) b := by
  unfold Scholarship.apply Scholarship.added
  split
  · simp only [List.flatMap_cons, List.flatMap_nil, List.append_nil]
    exact addAnswer_eq_perform b _ _
  · rfl

theorem addProbes_eq_perform (b : Builder) (keys : List String) :
    b.addProbes keys = perform (keys.flatMap b.setting.probePlan) b :=
  forEach_eq_perform addProbe Setting.probePlan addProbe_eq_perform keys b

/-- A planned step after others is planned with them. -/
theorem perform_andThen {first : List Action} {step : Builder → Stepped}
    (next : Setting → List Action) (planned : ∀ c, step c = perform (next c.setting) c)
    (b : Builder) :
    (perform first b).andThen step = perform (first ++ next b.setting) b := by
  rw [perform_append]
  cases h : (perform first b).halt with
  | some failure => simp only [Stepped.andThen_of_halt h]
  | none => simp only [Stepped.andThen_of_halt_none h, planned, perform_setting]

/-- Filling a builder is performing the plan of its answers and probes. -/
theorem filled_eq_perform (b : Builder) (answers : Answers) (probes : List String) :
    b.filled answers probes = perform (b.setting.plan answers probes) b := by
  unfold filled Setting.plan
  rw [addAnswers_eq_perform,
    perform_andThen (fun s => (Scholarship.added answers).flatMap fun entry =>
      s.answerPlan entry.1 entry.2)
      (scholarship_eq_perform answers),
    perform_andThen (fun s => probes.flatMap s.probePlan) fun c =>
      addProbes_eq_perform c probes,
    List.flatMap_append]

end Builder

end Questionnaire
