import Questionnaire.Proofs.Histories
import Questionnaire.Proofs.StandardCells

/-!
# Answers that fail

An answer to the survey that records an error leaves the entities as they were. Most answers
come to one write at most, and a write is refused or not. Only the professional situation
comes to two: whether someone is an intern and whether an apprentice. Both are written
together from an empty entity on, so in every period both cells hold a value or neither
does, and the two writes are taken or refused together.
-/

namespace Questionnaire

namespace Builder

/-- The entities of the second builder are those of the first, with other errors at most. -/
def SameContents (b c : Builder) : Prop :=
  ∀ kind, c.entities.get kind =
    { b.entities.get kind with errors := (c.entities.get kind).errors }

namespace SameContents

variable {b c d : Builder}

theorem refl (b : Builder) : SameContents b b := fun _ => rfl

theorem trans (h : SameContents b c) (h' : SameContents c d) : SameContents b d := by
  intro kind
  rw [h' kind, h kind]

theorem members (h : SameContents b c) (kind : EntityKind) :
    (c.entities.get kind).members = (b.entities.get kind).members := by rw [h kind]

theorem values (h : SameContents b c) (kind : EntityKind) :
    (c.entities.get kind).values = (b.entities.get kind).values := by rw [h kind]

/-- The request tells nothing of the errors. -/
theorem request (h : SameContents b c) : c.request = b.request := by
  have told (kind : EntityKind) :
      (c.entities.get kind).layout = (b.entities.get kind).layout ∧
      (c.entities.get kind).toValue = (b.entities.get kind).toValue := by
    rw [h kind]
    exact ⟨rfl, rfl⟩
  simp only [Builder.request, PerKind.toList, List.map_map, Function.comp_def, told]

end SameContents

/-- An action that records an error changes no value. -/
theorem act_sameContents {b : Builder} {a : Action} (failed : (b.act a).recorded ≠ []) :
    SameContents b (b.act a).builder := by
  cases a with
  | report error => exact .refl b
  | fail failure => exact .refl b
  | write kind answerKey cell =>
    obtain ⟨error, recorded⟩ := List.exists_mem_of_ne_nil _ failed
    obtain ⟨next, written⟩ := recorded_write recorded
    obtain ⟨_, _, _, rfl⟩ := Entity.of_write_refused written
    intro other
    simp only [act, Entity.call, written, PerKind.get_set]
    split
    · rename_i same
      subst same
      rfl
    · rfl

end Builder

/-! ### Interns and apprentices -/

/-- The variables that the professional situation sets. -/
def situationNames : List String := ["stagiaire", "alternant"]

/-- In every period both variables of the professional situation hold a value, or neither does. -/
structure Entity.Together (e : Entity) : Prop where
  rules : e.refinements = .standard
  free : ∀ name ∈ situationNames, e.isMemberList (.text name) = false
  together : ∀ first ∈ situationNames, ∀ second ∈ situationNames, ∀ period,
    (e.value (.text first) period).isNull = (e.value (.text second) period).isNull

namespace Entity

/-- A value is taken where none is held. -/
theorem write_of_empty {e : Entity} {name : Value} {period : String}
    (free : e.isMemberList name = false) (empty : (e.value name period).isNull = true)
    (v : Value) (answerKey : String) :
    e.write name v period answerKey = .ok (e.put name period v, none) := by
  simp [write, free, empty]

theorem value_put_text (e : Entity) (s at' : String) (v : Value) (t period : String) :
    (e.put (.text s) at' v).value (.text t) period =
      if s = t ∧ at' = period then v else e.value (.text t) period := by
  rw [value_put _ _ _ _ rfl]
  simp only [Value.text_same, Value.text.injEq, @eq_comm _ t s]

end Entity

namespace Entity.Together

variable {e next : Entity}

theorem ofKind (kind : EntityKind) : (Entity.ofKind kind).Together := by
  refine ⟨rfl, ?_, fun _ _ _ _ _ => rfl⟩
  cases kind <;> decide

/-- Other variables do not matter, nor do errors. -/
theorem sameBut {names : List String} (h : e.Together) (same : Entity.SameBut names e next)
    (apart : ∀ name ∈ situationNames, name ∉ names) : next.Together := by
  have value (name : String) (listed : name ∈ situationNames) (period : String) :
      next.value (.text name) period = e.value (.text name) period := by
    apply same.value
    rintro s inside ⟨⟩
    exact apart name listed inside
  refine ⟨same.refinements.trans h.rules, ?_, ?_⟩
  · intro name listed
    have held := h.free name listed
    simpa only [Entity.isMemberList, same.members] using held
  · intro first listed second listed' period
    rw [value first listed, value second listed']
    exact h.together first listed second listed' period

/-- A value is refused where one is held already. -/
theorem write_of_held (h : e.Together) {name : String} (listed : name ∈ situationNames)
    {v : Value} (given : v.isNull = false) {period : String}
    (held : (e.value (.text name) period).isNull = false) (answerKey : String) :
    ∃ next error, e.write (.text name) v period answerKey = .ok (next, some error) := by
  have strict :
      e.refinements.allows (.text name) (e.value (.text name) period) v = .ok false := by
    rw [h.rules]
    simp only [situationNames, List.mem_cons, List.not_mem_nil, or_false] at listed
    rcases listed with rfl | rfl <;> rfl
  let error := refusal (.text name) (e.value (.text name) period) v period answerKey
  exact ⟨{ e with errors := e.errors ++ [error] }, error,
    by simp [Entity.write, h.free name listed, held, given, strict, error]⟩

/-- Values of both variables in one period. -/
theorem put_both (h : e.Together) {first second : String} (listed : first ∈ situationNames)
    (listed' : second ∈ situationNames) (apart : first ≠ second) (period : String)
    {v w : Value} (given : v.isNull = false) (given' : w.isNull = false) :
    ((e.put (.text first) period v).put (.text second) period w).Together := by
  have value (name : String) (inside : name ∈ situationNames) (at' : String) :
      (((e.put (.text first) period v).put (.text second) period w).value (.text name)
        at').isNull =
        if period = at' then false else (e.value (.text name) at').isNull := by
    have one : name = first ∨ name = second := by
      simp only [situationNames, List.mem_cons, List.not_mem_nil,
        or_false] at listed listed' inside
      grind
    rw [value_put_text, value_put_text]
    by_cases here : period = at'
    · rcases one with rfl | rfl <;> simp [here, given, given', apart.symm]
    · simp [here]
  refine ⟨h.rules, h.free, ?_⟩
  intro one inside other inside' at'
  rw [value one inside, value other inside', h.together one inside other inside' at']

end Entity.Together

namespace Builder

/-- The entities of the builder are such. -/
def Together (b : Builder) : Prop := ∀ kind, (b.entities.get kind).Together

theorem SameContents.together {b c : Builder} (h : SameContents b c)
    (together : b.Together) : c.Together := by
  intro kind
  obtain ⟨rules, free, held⟩ := together kind
  rw [h kind]
  exact ⟨rules, free, held⟩

theorem SameContents.value {b c : Builder} (h : SameContents b c) (kind : EntityKind)
    (name : Value) (period : String) :
    (c.entities.get kind).value name period = (b.entities.get kind).value name period := by
  rw [Entity.value, Entity.value, h.values]

variable {b : Builder} {kind : EntityKind} {answerKey : String} {cell : Cell}

theorem act_of_taken {next : Entity}
    (written : (b.entities.get kind).write cell.name cell.value cell.period answerKey =
      .ok (next, none)) :
    b.act (.write kind answerKey cell) =
      .quiet { b with entities := b.entities.set kind next } := by
  simp only [act, Entity.call, written]
  rfl

theorem recorded_of_refused {next : Entity} {error : BuildError}
    (written : (b.entities.get kind).write cell.name cell.value cell.period answerKey =
      .ok (next, some error)) : (b.act (.write kind answerKey cell)).recorded ≠ [] := by
  simp [act, Entity.call, written]

end Builder

/-- The action writes no variable of the professional situation. -/
def Action.LeavesSituation (a : Action) : Prop :=
  ∀ kind answerKey cell, a = .write kind answerKey cell → ∃ name, cell.name = .text name ∧
    name ∉ situationNames

/-- What an answer to the survey or a probe comes to: nothing, one action, or the two writes
of the professional situation. -/
inductive SurveyPlan : List Action → Prop where
  | idle : SurveyPlan []
  | one {a : Action} (leaves : a.LeavesSituation) : SurveyPlan [a]
  | situation (kind : EntityKind) (answerKey period : String) {first second : String}
      {v w : Value}
      (listed : first ∈ situationNames) (listed' : second ∈ situationNames)
      (apart : first ≠ second)
      (given : v.isNull = false) (given' : w.isNull = false) :
      SurveyPlan [.write kind answerKey ⟨.text first, period, v⟩,
        .write kind answerKey ⟨.text second, period, w⟩]

namespace Builder

variable {b : Builder}

theorem Together.act (h : b.Together) {a : Action} (leaves : a.LeavesSituation) :
    (b.act a).builder.Together := by
  cases a with
  | report error => exact h
  | fail failure => exact h
  | write kind answerKey cell =>
    obtain ⟨name, period, v⟩ := cell
    obtain ⟨s, rfl, free⟩ := leaves kind answerKey _ rfl
    intro other
    apply (h other).sameBut (act_sameBut b kind answerKey s period v other)
    intro name listed inside
    split at inside
    · exact free (List.mem_singleton.mp inside ▸ listed)
    · cases inside

/-- The two writes of the professional situation are taken together or refused together. -/
theorem Together.perform_situation (h : b.Together) (kind : EntityKind)
    (answerKey period : String) {first second : String} {v w : Value}
    (listed : first ∈ situationNames) (listed' : second ∈ situationNames)
    (apart : first ≠ second) (given : v.isNull = false) (given' : w.isNull = false) :
    let done := perform [.write kind answerKey ⟨.text first, period, v⟩,
      .write kind answerKey ⟨.text second, period, w⟩] b
    done.builder.Together ∧ (done.recorded ≠ [] → SameContents b done.builder) := by
  let one : Action := .write kind answerKey ⟨.text first, period, v⟩
  let other : Action := .write kind answerKey ⟨.text second, period, w⟩
  have alike := (h kind).together first listed second listed' period
  cases empty : ((b.entities.get kind).value (.text first) period).isNull with
  | true =>
    let e := (b.entities.get kind).put (.text first) period v
    let next : Builder := { b with entities := b.entities.set kind e }
    have taken : b.act one = .quiet next :=
      act_of_taken (Entity.write_of_empty ((h kind).free first listed) empty v _)
    have still : (e.value (.text second) period).isNull = true := by
      rw [Entity.value_put_text, if_neg (fun same => apart same.1), ← alike, empty]
    have free : e.isMemberList (.text second) = false := (h kind).free second listed'
    have taken' : next.act other =
        .quiet { next with
          entities := next.entities.set kind (e.put (.text second) period w) } := by
      apply act_of_taken
      simp only [next, PerKind.get_set_self]
      exact Entity.write_of_empty free still w _
    have done : perform [one, other] b =
        .quiet { next with
          entities := next.entities.set kind (e.put (.text second) period w) } := by
      rw [perform, Stepped.forEach, taken, Stepped.andThen_quiet,
        Stepped.forEach_singleton, taken']
    change (perform [one, other] b).builder.Together ∧
      ((perform [one, other] b).recorded ≠ [] → _)
    rw [done]
    refine ⟨?_, fun failed => absurd rfl failed⟩
    intro owner
    simp only [Stepped.quiet, next, PerKind.get_set]
    split
    · exact (h kind).put_both listed listed' apart period given given'
    · exact h owner
  | false =>
    obtain ⟨next, error, written⟩ := (h kind).write_of_held listed given empty answerKey
    have same : SameContents b (b.act one).builder :=
      act_sameContents (recorded_of_refused written)
    cases on : (b.act one).halt with
    | some failure =>
      have stopped : perform [one, other] b = b.act one := perform_cons_of_halt on _
      exact stopped ▸ ⟨same.together h, fun _ => same⟩
    | none =>
      have held :
          (((b.act one).builder.entities.get kind).value (.text second) period).isNull =
          false := by
        rw [same.value, ← alike, empty]
      obtain ⟨last, error', written'⟩ :=
        (same.together h kind).write_of_held listed' given' held answerKey
      have both : SameContents b ((b.act one).builder.act other).builder :=
        same.trans (act_sameContents (recorded_of_refused written'))
      have done :
          (perform [one, other] b).builder = ((b.act one).builder.act other).builder := by
        rw [perform_cons_of_halt_none on, perform_singleton]
      exact ⟨done ▸ both.together h, fun _ => done ▸ both⟩

/-- What an answer to the survey or a probe comes to keeps the two variables together, and
changes no value if it records an error. -/
theorem Together.perform (h : b.Together) {plan : List Action} (survey : SurveyPlan plan) :
    (perform plan b).builder.Together ∧
      ((Builder.perform plan b).recorded ≠ [] →
        SameContents b (Builder.perform plan b).builder) := by
  cases survey with
  | idle => exact ⟨h, fun _ => .refl b⟩
  | one leaves =>
    rw [perform_singleton]
    exact ⟨h.act leaves, act_sameContents⟩
  | situation kind answerKey period listed listed' apart given given' =>
    exact h.perform_situation kind answerKey period listed listed' apart given given'

end Builder

/-! ### The plans of the survey -/

namespace Action

theorem leaves_report (error : BuildError) : (report error).LeavesSituation := by
  intro kind answerKey cell same
  cases same

theorem leaves_fail (failure : Failure) : (fail failure).LeavesSituation := by
  intro kind answerKey cell same
  cases same

theorem leaves_ofCell (kind : EntityKind) (answerKey : String) {name : String}
    (free : name ∉ situationNames) (period : String) (v : Value) :
    (ofCell kind answerKey ⟨.text name, period, v⟩).LeavesSituation := by
  unfold ofCell
  split
  · exact leaves_report _
  · intro owner key cell same
    cases same
    exact ⟨name, rfl, free⟩

end Action

namespace Setting

/-- What is settled is an expansion, or comes to one action that writes nothing. -/
theorem surveyPlan_settle {owner : Owner} {key : String}
    {expanded : Option (Except Failure Expansion)}
    (routes : ∀ expansion, expanded = some (.ok expansion) →
      ∀ kind, SurveyPlan ((Builder.cells expansion).map (Action.ofCell kind key))) :
    SurveyPlan (settle owner key expanded) := by
  cases expanded with
  | none => exact .one (Action.leaves_report _)
  | some result =>
    cases result with
    | ok expansion =>
      cases owner with
      | unknown name => exact .one (Action.leaves_report _)
      | kind kind => exact routes expansion rfl kind
    | error failure =>
      cases failure with
      | period v => exact .one (Action.leaves_report _)
      | dispatch answerKey message => exact .one (Action.leaves_report _)
      | unexpectedValue answerKey v => exact .one (Action.leaves_report _)
      | _ => exact .one (Action.leaves_fail _)

end Setting

namespace Dispatcher

/-- What a dispatcher of the survey gives comes to one write at most, or to the professional
situation. -/
theorem surveyPlan_cells {d : Dispatcher} (known : d ∈ standard) {key : String}
    {value : Value} {type : PeriodType} {periods : Periods} {expansion : Expansion}
    (run : d.run key value type periods = .ok expansion) (kind : EntityKind)
    (answerKey : String) :
    SurveyPlan ((Builder.cells expansion).map (Action.ofCell kind answerKey)) := by
  have one {name : String} (free : name ∉ situationNames) (period : String) (v : Value) :
      SurveyPlan [Action.ofCell kind answerKey ⟨.text name, period, v⟩] :=
    .one (Action.leaves_ofCell kind answerKey free period v)
  have intern : "stagiaire" ∈ situationNames := by simp [situationNames]
  have apprentice : "alternant" ∈ situationNames := by simp [situationNames]
  simp only [standard, List.mem_cons, List.not_mem_nil, or_false] at known
  rcases known with rfl | rfl | rfl | rfl
  all_goals
    obtain ⟨period, _, entry, listed, cells⟩ := cells_eq_ofCases run
    rw [cells]
    simp only [List.mem_cons, List.not_mem_nil, or_false] at listed
  · rcases listed with rfl | rfl | rfl | rfl
    · exact .situation kind answerKey period intern apprentice (by decide) rfl rfl
    · exact .situation kind answerKey period apprentice intern (by decide) rfl rfl
    · exact .idle
    · exact .idle
  · rcases listed with rfl | rfl | rfl | rfl <;>
      exact one (by simp [situationNames]) period _
  · rcases listed with rfl | rfl | rfl <;> exact one (by simp [situationNames]) period _
  · rcases listed with rfl | rfl | rfl <;> exact one (by simp [situationNames]) period _

end Dispatcher

namespace Registry.Standard

theorem surveyPlan_expand {key : Value} {mapping : Mapping}
    (found : standard.mapping? key = some mapping) (owner : Owner) (periods : Periods)
    (answerKey : String) (value : Value) :
    SurveyPlan (Setting.settle owner answerKey (Builder.expand periods answerKey value
      mapping)) := by
  obtain ⟨kind, other, there, _⟩ := mem_of_mapping? found
  apply Setting.surveyPlan_settle
  intro expansion expanded owner
  generalize same : (other, some mapping) = entry at there
  cases entry_of_mem there with
  | direct asked name type =>
    cases same
    have leaves :=
      test_of_mem (fun _ name _ => !situationNames.contains name) (by decide) there
    obtain ⟨period, _, cells⟩ := Builder.expand_direct expanded
    rw [cells]
    exact .one (Action.leaves_ofCell owner answerKey (by simpa using leaves) period value)
  | dispatched asked type known =>
    cases same
    simp only [Builder.expand, Option.some.injEq] at expanded
    exact Dispatcher.surveyPlan_cells known expanded owner answerKey
  | excluded asked =>
    cases same
    cases expanded

end Registry.Standard

namespace Setting

variable {s : Setting}

/-- An answer to the survey comes to such a plan. -/
theorem surveyPlan_answerPlan (resolver : s.resolver = .ofRegistry .standard) (key : String)
    (answer : Value) : SurveyPlan (s.answerPlan key answer) := by
  have shape := s.answerCase key answer
  generalize s.answerPlan key answer = plan at shape
  cases shape with
  | idle => exact .idle
  | told kind own message => exact .one (Action.leaves_report _)
  | unowned mapping found unowned message => exact .one (Action.leaves_report _)
  | settled mapping owner given scalar found counts owned =>
    rw [resolver] at found
    exact Registry.Standard.surveyPlan_expand found _ _ _ _

theorem surveyPlan_probePlan (resolver : s.resolver = .ofRegistry .standard)
    (key : String) : SurveyPlan (s.probePlan key) := by
  have shape := s.probeCase key
  generalize s.probePlan key = plan at shape
  cases shape with
  | settled name type owner found owned =>
    rw [resolver] at found
    exact Registry.Standard.surveyPlan_expand found _ _ _ _
  | _ => exact .one (Action.leaves_report _)

end Setting

namespace Builder

/-- A builder of the survey whose entities hold the two variables together. -/
structure OnSurvey (b : Builder) : Prop where
  resolver : b.resolver = .ofRegistry .standard
  together : b.Together

theorem onSurvey_fresh (options : Options) (periods : Periods) :
    (fresh options (.ofRegistry .standard) periods).OnSurvey := by
  refine ⟨rfl, fun kind => ?_⟩
  rw [fresh, PerKind.get_ofFunction]
  exact .ofKind kind

/-- Every turn but the defaults comes to a plan of the survey. -/
theorem OnSurvey.surveyPlan {b : Builder} (h : b.OnSurvey) {turn : Turn}
    (given : turn ≠ .step .defaults) : SurveyPlan (b.turnPlan turn) := by
  cases turn with
  | step step =>
    cases step with
    | answer key answer => exact Setting.surveyPlan_answerPlan h.resolver key answer
    | probe key => exact Setting.surveyPlan_probePlan h.resolver key
    | defaults => exact absurd rfl given
  | scholarship answers =>
    rw [turnPlan, Scholarship.added]
    split
    · rw [List.flatMap_cons, List.flatMap_nil, List.append_nil]
      exact Setting.surveyPlan_answerPlan h.resolver _ _
    · exact .idle

/-- Every turn keeps the two variables together. -/
theorem OnSurvey.play {b : Builder} (h : b.OnSurvey) (turn : Turn) :
    (b.play turn).builder.OnSurvey := by
  refine ⟨(congrArg Setting.resolver (play_setting b turn)).trans h.resolver, ?_⟩
  rw [play_eq_perform]
  by_cases given : turn = .step .defaults
  · rw [given]
    intro kind
    apply (h.together kind).sameBut (perform_sameBut (within_defaultPlan b) b kind)
    cases kind <;> simp [situationNames, neededNames]
  · exact (h.together.perform (h.surveyPlan given)).1

/-- Whatever was done with a builder of the survey before, an answer, a probe or a
scholarship that records an error leaves all entities as they were: their lists of members,
their variables and the values of these, and with them the request. -/
theorem failed_unchanged (options : Options) (periods : Periods) (turns : List Turn)
    (turn : Turn) (given : turn ≠ .step .defaults) :
    let b := (playAll turns (fresh options (.ofRegistry .standard) periods)).builder
    let s := b.play turn
    s.recorded ≠ [] →
      (∀ kind, (s.builder.entities.get kind).members = (b.entities.get kind).members ∧
        (s.builder.entities.get kind).values = (b.entities.get kind).values) ∧
      s.builder.request = b.request := by
  intro b s failed
  have survey : b.OnSurvey :=
    playAll_keeps (fun _ turn h => h.play turn) turns (onSurvey_fresh options periods)
  have performed : s = perform (b.turnPlan turn) b := play_eq_perform b turn
  rw [performed] at failed ⊢
  have same := (survey.together.perform (survey.surveyPlan given)).2 failed
  exact ⟨fun kind => ⟨same.members kind, same.values kind⟩, same.request⟩

/-- An intern who moves to another region, with the defaults. -/
def internTurns : List Turn :=
  [.step (.answer "situation-professionnelle" (.text "stage")),
    .step (.answer "etudiant-mobilite" (.text "master-nouvelle-zone")), .scholarship [],
      .step .defaults]

/-- The intern cannot become an apprentice: both writes are refused, and the request stays
as it is. -/
theorem failed_unchanged_intern :
    let b := (playAll internTurns
      (fresh {} (.ofRegistry .standard) ⟨"2025-10", "2025-11", "2025",
        "month:2024-10:12"⟩)).builder
    let turn := Turn.step (.answer "situation-professionnelle" (.text "alternance"))
    let s := b.play turn
    turn ≠ .step .defaults ∧
      s.recorded.map BuildError.answerKey = ["situation-professionnelle",
        "situation-professionnelle"] ∧
      s.builder.request = b.request := by
  intro b turn s
  have given : turn ≠ .step .defaults := by simp [turn]
  have refused : s.recorded.map BuildError.answerKey =
      ["situation-professionnelle", "situation-professionnelle"] := by decide +kernel
  have failed : s.recorded ≠ [] := by
    intro none
    rw [none] at refused
    cases refused
  exact ⟨given, refused,
    (failed_unchanged {} ⟨"2025-10", "2025-11", "2025", "month:2024-10:12"⟩ internTurns turn
      given failed).2⟩

end Builder

end Questionnaire
