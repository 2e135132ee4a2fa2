import Questionnaire.Proofs.Plan

/-!
# What a plan leaves behind

A builder that does not throw goes on after every error. Then the errors of its own are the
reports of the plan, and each entity is the run of the writes that the plan makes to its
kind.
-/

namespace Questionnaire

theorem Entity.call_write_ok {e : Entity} (total : e.refinements.Total) (name value : Value)
    (period answerKey : String) :
    ∃ next refused, e.call (.write name value period answerKey) = (next, .ok refused) := by
  have ok : ∃ result, e.write name value period answerKey = .ok result := by
    rcases Entity.write_cases total name value period answerKey with
      ⟨_, h⟩ | ⟨_, _, h⟩ | ⟨_, _, _, h⟩ | ⟨_, _, _, h⟩ <;> exact ⟨_, h⟩
  obtain ⟨⟨next, refused⟩, h⟩ := ok
  exact ⟨next, refused, by simp only [Entity.call, h]⟩

namespace Builder

/-- The entities after a plan, and why it stopped. -/
def store : List Action → PerKind Entity → PerKind Entity × Option Failure
  | [], entities => (entities, none)
  | .report _ :: rest, entities => store rest entities
  | .fail failure :: _, entities => (entities, some failure)
  | .write kind answerKey cell :: rest, entities =>
      match (entities.get kind).call (.write cell.name cell.value cell.period
        answerKey) with
      | (_, .error failure) => (entities, some failure)
      | (entity, .ok _) => store rest (entities.set kind entity)

theorem haltOn_of_not_throws {b : Builder} (quiet : b.throws = false) (error : BuildError) :
    b.haltOn error = none := by
  simp [haltOn, quiet]

theorem throws_of_setting {b c : Builder} (h : c.setting = b.setting) :
    c.throws = b.throws := by
  have options : c.options = b.options := congrArg Setting.options h
  simp only [throws, options]

theorem act_throws (b : Builder) (a : Action) : (b.act a).builder.throws = b.throws :=
  throws_of_setting (act_setting b a)

/-- An action keeps the rules of the entities, and with them that these answer. -/
theorem act_total {b : Builder} (total : ∀ kind, (b.entities.get kind).refinements.Total)
    (a : Action) (kind : EntityKind) :
    ((b.act a).builder.entities.get kind).refinements.Total := by
  cases a with
  | report error => exact total kind
  | fail failure => exact total kind
  | write owner answerKey cell =>
    have keeps :=
      Entity.call_keeps (total owner) (.write cell.name cell.value cell.period answerKey)
    obtain ⟨next, refused, called⟩ :=
      Entity.call_write_ok (total owner) cell.name cell.value cell.period answerKey
    rw [called] at keeps
    simp only [act, called, PerKind.get_set]
    split
    · exact keeps.total (total owner)
    · exact total kind

/-- Without throwing, entities and halt depend on the entities alone. -/
theorem perform_eq_store {b : Builder} (quiet : b.throws = false) (plan : List Action) :
    (perform plan b).builder.entities = (store plan b.entities).1 ∧
      (perform plan b).halt = (store plan b.entities).2 := by
  induction plan generalizing b with
  | nil => exact ⟨rfl, rfl⟩
  | cons a rest ih =>
    have quiet' : (b.act a).builder.throws = false := (act_throws b a).trans quiet
    cases a with
    | report error =>
      have on : (b.act (.report error)).halt = none := haltOn_of_not_throws quiet error
      rw [perform_cons_of_halt_none on]
      exact ih quiet'
    | fail failure => exact ⟨rfl, rfl⟩
    | write kind answerKey cell =>
      cases hc :
          (b.entities.get kind).call (.write cell.name cell.value cell.period
            answerKey) with
      | mk entity reply =>
        cases reply with
        | error failure =>
          have act : b.act (.write kind answerKey cell) = ⟨b, [], some failure⟩ := by
            simp only [Builder.act, hc]
          have off : (b.act (.write kind answerKey cell)).halt = some failure := by rw [act]
          rw [perform_cons_of_halt off, act]
          simp only [store, hc, and_self]
        | ok refused =>
          have act : b.act (.write kind answerKey cell) =
              ⟨{ b with entities := b.entities.set kind entity }, refused.toList,
                refused.bind b.haltOn⟩ := by
            simp only [Builder.act, hc]
          have on : (b.act (.write kind answerKey cell)).halt = none := by
            rw [act]
            cases refused with
            | none => rfl
            | some error => exact haltOn_of_not_throws quiet error
          have after : (b.act (.write kind answerKey cell)).builder.entities =
              b.entities.set kind entity := by
            rw [act]
          rw [perform_cons_of_halt_none on]
          simp only [store, hc]
          rw [← after]
          exact ih quiet'

/-- Reports leave no trace in the entities. -/
theorem store_filter_reports (plan : List Action) (entities : PerKind Entity) :
    store (plan.filter fun a => !a.isReport) entities = store plan entities := by
  induction plan generalizing entities with
  | nil => rfl
  | cons a rest ih =>
    cases a with
    | report error => simpa [Action.isReport, Action.reported, store] using ih entities
    | fail failure => simp [Action.isReport, Action.reported, store]
    | write kind answerKey cell =>
      simp only [Action.isReport, Action.reported, Option.isSome_none, Bool.not_false,
        List.filter_cons_of_pos, store]
      split
      · rfl
      · exact ih _

/-- A plan that is not stopped has no step that fails. -/
theorem fail_not_mem {plan : List Action} {entities : PerKind Entity}
    (on : (store plan entities).2 = none) (failure : Failure) :
    Action.fail failure ∉ plan := by
  induction plan generalizing entities with
  | nil => exact List.not_mem_nil
  | cons a rest ih =>
    intro inside
    rcases List.mem_cons.mp inside with rfl | later
    · cases on
    · cases a with
      | report error => exact ih on later
      | fail failure => cases on
      | write kind answerKey cell =>
        simp only [store] at on
        split at on
        · cases on
        · exact ih on later

/-- A plan without a step that fails goes on to its end. -/
theorem store_goes_on {plan : List Action} {entities : PerKind Entity}
    (total : ∀ kind, (entities.get kind).refinements.Total)
    (free : ∀ failure, Action.fail failure ∉ plan) : (store plan entities).2 = none := by
  induction plan generalizing entities with
  | nil => rfl
  | cons a rest ih =>
    have free' : ∀ failure, Action.fail failure ∉ rest :=
      fun failure inside => free failure (List.mem_cons_of_mem _ inside)
    cases a with
    | report error => exact ih total free'
    | fail failure => exact absurd List.mem_cons_self (free failure)
    | write kind answerKey cell =>
      obtain ⟨next, refused, called⟩ :=
        Entity.call_write_ok (total kind) cell.name cell.value cell.period answerKey
      have keeps :=
        Entity.call_keeps (total kind) (.write cell.name cell.value cell.period answerKey)
      rw [called] at keeps
      simp only [store, called]
      apply ih _ free'
      intro other
      rw [PerKind.get_set]
      split
      · exact keeps.total (total kind)
      · exact total other

/-- Without throwing, a plan stops only at a step that fails. -/
theorem perform_halt_eq_none_iff {b : Builder} (quiet : b.throws = false)
    (total : ∀ kind, (b.entities.get kind).refinements.Total) (plan : List Action) :
    (perform plan b).halt = none ↔ ∀ failure, Action.fail failure ∉ plan := by
  rw [(perform_eq_store quiet plan).2]
  constructor
  · exact fail_not_mem
  · exact store_goes_on total

/-- Each entity is the run of the writes to its kind. -/
theorem store_get {plan : List Action} {entities : PerKind Entity}
    (total : ∀ kind, (entities.get kind).refinements.Total)
    (on : (store plan entities).2 = none) (kind : EntityKind) :
    (store plan entities).1.get kind =
      (entities.get kind).run (plan.filterMap (Action.callTo kind)) := by
  induction plan generalizing entities with
  | nil => rfl
  | cons a rest ih =>
    cases a with
    | report error => exact ih total on
    | fail failure => simp [store] at on
    | write owner answerKey cell =>
      obtain ⟨next, refused, hc⟩ :=
        Entity.call_write_ok (total owner) cell.name cell.value cell.period answerKey
      simp only [store, hc] at on ⊢
      have keeps :=
        Entity.call_keeps (total owner) (.write cell.name cell.value cell.period answerKey)
      rw [hc] at keeps
      have total' : ∀ kind, ((entities.set owner next).get kind).refinements.Total := by
        intro kind
        rw [PerKind.get_set]
        split
        · exact keeps.total (total owner)
        · exact total kind
      rw [ih total' on, PerKind.get_set]
      by_cases h : owner = kind
      · subst h
        simp [Action.callTo, Entity.run, hc]
      · simp [Action.callTo, h]

/-- Without throwing, the builder's own errors are the reports of the plan. -/
theorem perform_errors {plan : List Action} {b : Builder} (quiet : b.throws = false)
    (on : (perform plan b).halt = none) :
    (perform plan b).builder.errors = b.errors ++ plan.filterMap Action.reported := by
  induction plan generalizing b with
  | nil => simp [perform, Stepped.forEach, Stepped.quiet]
  | cons a rest ih =>
    have quiet' : (b.act a).builder.throws = false := (act_throws b a).trans quiet
    cases h : (b.act a).halt with
    | some failure =>
      rw [perform_cons_of_halt h, h] at on
      cases on
    | none =>
      rw [perform_cons_of_halt_none h] at on ⊢
      have first : (b.act a).builder.errors = b.errors ++ a.reported.toList := by
        cases a with
        | report error => rfl
        | fail failure => simp [act] at h
        | write kind answerKey cell =>
          simp only [act]
          split <;> simp [Action.reported]
      simp only [ih quiet' on, first]
      cases hr : a.reported with
      | none => simp [hr]
      | some error => simp [hr]

end Builder

end Questionnaire
