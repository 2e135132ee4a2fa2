import Questionnaire.Proofs.Lawful
import Questionnaire.Proofs.Steps

/-!
# Failing fast

A builder that throws does what one that collects errors does, up to the first error: there
it stops, in the state that the other one passes through. If the run that collects records
no error, both runs are the same.
-/

namespace Questionnaire

namespace Builder

/-- The same builder, with throwing set as given. -/
def withThrowing (on : Value) (b : Builder) : Builder :=
  { b with options := { b.options with throwOnError := on } }

/-- A step cut off right after the first error of its log. -/
def cut (on : Value) (s : Stepped) : Log → Stepped
  | [] => { s with builder := s.builder.withThrowing on }
  | (record, after) :: _ =>
      ⟨after.withThrowing on, [record.error], some (.build record.error)⟩

section Cut

variable {on : Value}

/-- Throwing changes nothing about what a step is going to do. -/
theorem stepPlan_withThrowing (on : Value) (b : Builder) (step : Step) :
    (b.withThrowing on).stepPlan step = b.stepPlan step := by
  cases step <;> rfl

theorem cut_quiet (on : Value) (b : Builder) :
    cut on (.quiet b) [] = .quiet (b.withThrowing on) := rfl

/-- Cutting a step and going on is going on and cutting, if the next step is cut from where
the first one ends. -/
theorem cut_andThen {s : Stepped} {l : Log} {b : Builder} (tells : l.Tells b s)
    {next cutNext : Builder → Stepped} {later : Builder → Log}
    (same : cutNext (s.builder.withThrowing on) = cut on (next s.builder) (later s.builder)) :
    (cut on s l).andThen cutNext =
      cut on (s.andThen next) (l ++ Log.following s later) := by
  cases l with
  | cons entry rest => rfl
  | nil =>
    have recorded : s.recorded = [] := tells.recorded.symm
    cases h : s.halt with
    | some failure =>
      rw [Stepped.andThen_of_halt h]
      simp only [cut, Stepped.andThen, h, Log.following, List.append_nil]
    | none =>
      rw [Stepped.andThen_of_halt_none h]
      simp only [cut, Stepped.andThen, h, same, Log.following, recorded, List.nil_append]

/-- A builder that throws takes an action as far as its first error. -/
theorem act_withThrowing (loud : on.truthy = true) (b : Builder) (a : Action) :
    (b.withThrowing on).act a = cut on (b.act a) (b.actLog a) := by
  have throws : (b.withThrowing on).throws = true := loud
  have halts (error : BuildError) :
      (b.withThrowing on).haltOn error = some (.build error) := by
    simp only [haltOn, throws, if_true]
  cases a with
  | report error =>
    simp only [act, actLog, List.map_cons, cut, halts]
    rfl
  | fail failure => rfl
  | write kind answerKey cell =>
    have entities : (b.withThrowing on).entities = b.entities := rfl
    cases called :
        (b.entities.get kind).call (.write cell.name cell.value cell.period answerKey) with
    | mk next reply =>
      cases reply with
      | error failure =>
        simp only [act, entities, called, actLog, List.map_nil, cut]
      | ok refused =>
        cases refused with
        | none =>
          simp only [act, entities, called, actLog, Option.toList_none, List.map_nil, cut,
            Option.bind_none]
          rfl
        | some error =>
          simp only [act, entities, called, actLog, Option.toList_some, List.map_cons, cut,
            Option.bind_some, halts]
          rfl

theorem perform_withThrowing (loud : on.truthy = true) (plan : List Action) (b : Builder) :
    perform plan (b.withThrowing on) = cut on (perform plan b) (log plan b) := by
  induction plan generalizing b with
  | nil => exact (cut_quiet on b).symm
  | cons a rest ih =>
    have first : (b.withThrowing on).act a = cut on (b.act a) (b.actLog a) :=
      act_withThrowing loud b a
    change ((b.withThrowing on).act a).andThen (perform rest) = _
    rw [first]
    exact cut_andThen (actLog_tells b a) (ih _)

/-- A builder that throws takes the steps of a run as far as the first error. -/
theorem takeAll_withThrowing (loud : on.truthy = true) (steps : List Step) (b : Builder) :
    takeAll steps (b.withThrowing on) = cut on (takeAll steps b) (runLog steps b) := by
  induction steps generalizing b with
  | nil => exact (cut_quiet on b).symm
  | cons step rest ih =>
    have first :
        (b.withThrowing on).take step = cut on (b.take step) (log (b.stepPlan step) b) := by
      rw [take_eq_perform, stepPlan_withThrowing, take_eq_perform]
      exact perform_withThrowing loud _ b
    have tells : (log (b.stepPlan step) b).Tells b (b.take step) := by
      rw [take_eq_perform]
      exact log_tells _ b
    change ((b.withThrowing on).take step).andThen (takeAll rest) = _
    rw [first]
    exact cut_andThen tells (ih _)

end Cut

/-- Under a lawful registry, no step plans a failure. -/
theorem fail_not_mem_stepPlan {registry : Registry} (lawful : registry.Lawful) {b : Builder}
    (resolver : b.resolver = .ofRegistry registry) (step : Step) (failure : Failure) :
    Action.fail failure ∉ b.stepPlan step := by
  obtain ⟨options, _, periods, entities, errors⟩ := b
  subst resolver
  cases step with
  | answer key answer => exact Setting.fail_not_mem_answerPlan lawful key answer failure
  | probe key => exact Setting.fail_not_mem_probePlan lawful key failure
  | defaults => exact (within_defaultPlan _).fail_not_mem failure

/-- Under a lawful registry nothing stops a run that collects errors. -/
theorem takeAll_goes_on {registry : Registry} (lawful : registry.Lawful) (steps : List Step)
    {b : Builder} (calm : b.Calm) (resolver : b.resolver = .ofRegistry registry) :
    (takeAll steps b).halt = none := by
  induction steps generalizing b with
  | nil => rfl
  | cons step rest ih =>
    have on : (perform (b.stepPlan step) b).halt = none :=
      (perform_halt_eq_none_iff calm.quiet calm.total _).mpr
      (fail_not_mem_stepPlan lawful resolver step)
    have setting := perform_setting (b.stepPlan step) b
    change ((b.take step).andThen (takeAll rest)).halt = none
    rw [take_eq_perform, Stepped.andThen_of_halt_none on]
    exact ih (calm_perform calm on) ((congrArg Setting.resolver setting).trans resolver)

/-- What the log of a run from a fresh builder tells of the errors at its end. -/
theorem errors_of_fresh {options : Options} {resolver : Resolver} {periods : Periods}
    {l : Log} {s : Stepped} (tells : l.Tells (fresh options resolver periods) s) :
    (∀ holder, s.builder.held holder = kept holder (l.map Prod.fst)) ∧
      s.builder.allErrors.Perm s.recorded := by
  have held (holder : Option EntityKind) :
      s.builder.held holder = kept holder (l.map Prod.fst) := by
    rw [tells.held, held_fresh, List.nil_append]
  constructor
  · exact held
  · have recorded : (l.map Prod.fst).map Record.error = s.recorded := by
      rw [List.map_map]
      exact tells.recorded
    rw [allErrors_eq_held, ← recorded, funext held]
    exact holders_kept_perm _

/-- Failing fast agrees with collecting errors, over any run from a fresh builder. The log
lists the errors that the collecting run records, in their order, each with the builder
right after. The run that throws raises an error if there is one, or where a dispatcher
raises one of its own, which none of a lawful registry does; it stops at the first of the
log, in the state right after that; and without any, both runs end alike. What the
collecting run tells in the end are the errors of the log, each once, by holder and in their
order, so that the one thrown is the first of its holder. -/
theorem failFast_agrees (options : Options) (registry : Registry) (periods : Periods)
    (steps : List Step) (on off : Value) (loud : on.truthy = true)
    (quiet : off.truthy = false) :
    let start := fun throwing =>
      fresh { options with throwOnError := throwing } (.ofRegistry registry) periods
    let fast := takeAll steps (start on)
    let slow := takeAll steps (start off)
    let log := runLog steps (start off)
    log.map (·.1.error) = slow.recorded ∧
      ((∃ error, fast.halt = some (.build error)) ↔
        slow.recorded ≠ [] ∨ ∃ error, slow.halt = some (.build error)) ∧
      (∀ record after rest, log = (record, after) :: rest →
        fast.halt = some (.build record.error) ∧ fast.builder.entities = after.entities ∧
        fast.builder.errors = after.errors ∧ fast.builder.allErrors = [record.error] ∧
        (slow.builder.held record.holder).head? = some record.error) ∧
      (slow.recorded = [] → fast.halt = slow.halt ∧
        fast.builder.entities = slow.builder.entities ∧
        fast.builder.errors = slow.builder.errors ∧ fast.builder.allErrors = []) ∧
      slow.builder.allErrors = holders.flatMap slow.builder.held ∧
      slow.builder.allErrors.Perm slow.recorded ∧
      (∀ holder, slow.builder.held holder = kept holder (log.map Prod.fst)) ∧
      (registry.Lawful → slow.halt = none ∧
        ((∃ error, fast.halt = some (.build error)) ↔ slow.recorded ≠ [])) := by
  intro start fast slow log
  have tells : log.Tells (start off) slow := runLog_tells steps (start off)
  have cutOff : fast = cut on slow log := takeAll_withThrowing loud steps (start off)
  obtain ⟨held, collected⟩ := errors_of_fresh tells
  have thrown : fast.builder.allErrors.Perm fast.recorded :=
    (errors_of_fresh (runLog_tells steps (start on))).2
  have goesOn : registry.Lawful → slow.halt = none := by
    intro lawful
    exact takeAll_goes_on lawful steps (calm_fresh quiet _ periods) rfl
  have recorded : log.map (·.1.error) = slow.recorded := tells.recorded
  cases h : log with
  | nil =>
    rw [h] at cutOff recorded held
    have silent : slow.recorded = [] := recorded.symm
    have same : fast = { slow with builder := slow.builder.withThrowing on } := cutOff
    have halt : fast.halt = slow.halt := by rw [same]
    have none : fast.recorded = [] := by
      rw [same]
      exact silent
    refine ⟨recorded, ?_, ?_, ?_, allErrors_eq_held _, collected, held, ?_⟩
    · simp [halt, silent]
    · rintro record after rest ⟨⟩
    · rintro -
      have entities : fast.builder.entities = slow.builder.entities := by
        rw [same]
        rfl
      have errors : fast.builder.errors = slow.builder.errors := by
        rw [same]
        rfl
      rw [none] at thrown
      exact ⟨halt, entities, errors, thrown.eq_nil⟩
    · intro lawful
      exact ⟨goesOn lawful, by simp [halt, goesOn lawful, silent]⟩
  | cons entry rest =>
    obtain ⟨record, after⟩ := entry
    rw [h] at cutOff recorded held
    have loudly : slow.recorded ≠ [] := by
      rw [← recorded]
      exact List.cons_ne_nil _ _
    have same :
        fast = ⟨after.withThrowing on, [record.error], some (.build record.error)⟩ := cutOff
    have halt : fast.halt = some (.build record.error) := by rw [same]
    refine ⟨recorded, ?_, ?_, ?_, allErrors_eq_held _, collected, held, ?_⟩
    · exact ⟨fun _ => Or.inl loudly, fun _ => ⟨record.error, halt⟩⟩
    · rintro record' after' rest' ⟨⟩
      have entities : fast.builder.entities = after.entities := by
        rw [same]
        rfl
      have errors : fast.builder.errors = after.errors := by
        rw [same]
        rfl
      have one : fast.recorded = [record.error] := by rw [same]
      rw [one] at thrown
      refine ⟨halt, entities, errors, thrown.eq_singleton, ?_⟩
      rw [held]
      simp [kept]
    · intro empty
      exact absurd empty loudly
    · intro lawful
      exact ⟨goesOn lawful, fun _ => loudly, fun _ => ⟨record.error, halt⟩⟩

/-- An age that is given twice, a question that is not known, and the defaults. -/
def doubtfulSteps : List Step :=
  [.probe "locapass", .answer "age" (.int 20),
    .answer "situation-professionnelle" (.text "stage"),
    .answer "age" (.int 21), .answer "couleur" (.text "bleu"), .defaults]

/-- The run that collects errors tells its own first; the one that throws stops at the
second age. -/
theorem failFast_agrees_doubtful :
    (Value.bool true).truthy = true ∧ (Value.bool false).truthy = false ∧
      let periods : Periods := ⟨"2025-10", "2025-11", "2025", "month:2024-10:12"⟩
      let start := fun throwing => fresh { ({} : Options) with throwOnError := throwing }
        (.ofRegistry .standard) periods
      let fast := takeAll doubtfulSteps (start (.bool true))
      let slow := takeAll doubtfulSteps (start (.bool false))
      let log := runLog doubtfulSteps (start (.bool false))
      slow.builder.allErrors.map BuildError.answerKey = ["couleur", "age"] ∧
      ∃ record after rest, log = (record, after) :: rest ∧
        record.holder = some .individual ∧ record.error.answerKey = "age" ∧
        fast.halt = some (.build record.error) ∧ fast.builder.entities = after.entities ∧
        fast.builder.allErrors = [record.error] := by
  have agrees := failFast_agrees {} .standard ⟨"2025-10", "2025-11", "2025",
    "month:2024-10:12"⟩ doubtfulSteps
    (.bool true) (.bool false) rfl rfl
  have told : (runLog doubtfulSteps (fresh {} (.ofRegistry .standard)
      ⟨"2025-10", "2025-11", "2025", "month:2024-10:12"⟩)).map
        (fun entry => (entry.1.holder, entry.1.error.answerKey)) =
      [(some .individual, "age"), (none, "couleur")] := by
    decide +kernel
  dsimp only at agrees ⊢
  obtain ⟨_, _, first, _⟩ := agrees
  obtain ⟨⟨record, after⟩, rest, h, same, _⟩ := List.map_eq_cons_iff.mp told
  obtain ⟨holder, key⟩ := Prod.mk.inj same
  obtain ⟨halt, entities, _, errors, _⟩ := first record after rest h
  exact ⟨rfl, rfl, by decide +kernel, record, after, rest, h, holder, key, halt,
    entities, errors⟩

end Builder

end Questionnaire
