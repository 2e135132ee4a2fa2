import Questionnaire.Proofs.Provenance
import Questionnaire.Proofs.Steps
import Questionnaire.Proofs.Verdict
import Questionnaire.Registry.Standard
import Questionnaire.Value.Identity

/-!
# Probes are transparent

A probe adds cells that hold `null`, and an empty cell and one that holds `null` are the
same to an answer. So the answers of a run do what they would do without its probes: they
leave the same values and record the same errors.
-/

namespace Questionnaire

namespace Table

variable {α : Type}

/-- The entries under values that cannot be keys. -/
def unkeyed (t : Table Value α) : Table Value α := t.filter fun entry => !entry.1.isKey

theorem get?_unkeyed (t : Table Value α) {name : Value} (hn : name.isKey = false) :
    get? (unkeyed t) name = get? t name := by
  induction t with
  | nil => rfl
  | cons entry rest ih =>
    obtain ⟨key, a⟩ := entry
    simp only [unkeyed] at ih
    by_cases h : (key == name) = true
    · have hkey : key.isKey = false := (Value.isKey_eq_of_same h).trans hn
      simp [unkeyed, hkey, get?, h]
    · by_cases hkey : key.isKey = true
      · simp [unkeyed, hkey, get?, h, ih]
      · simp [unkeyed, hkey, get?, h, ih]

theorem unkeyed_put_of_key (t : Table Value α) {name : Value} (hn : name.isKey = true)
    (a : α) : unkeyed (put t name a) = unkeyed t := by
  induction t with
  | nil => simp [put, unkeyed, hn]
  | cons entry rest ih =>
    obtain ⟨key, b⟩ := entry
    simp only [unkeyed] at ih
    by_cases h : (key == name) = true
    · have hkey : key.isKey = true := (Value.isKey_eq_of_same h).trans hn
      simp [put, h, unkeyed, hkey]
    · simp [put, h, unkeyed, List.filter_cons, ih]

theorem unkeyed_put_of_unkeyed (t : Table Value α) {name : Value} (hn : name.isKey = false)
    (a : α) : unkeyed (put t name a) = put (unkeyed t) name a := by
  induction t with
  | nil => simp [put, unkeyed, hn]
  | cons entry rest ih =>
    obtain ⟨key, b⟩ := entry
    simp only [unkeyed] at ih
    by_cases h : (key == name) = true
    · have hkey : key.isKey = false := (Value.isKey_eq_of_same h).trans hn
      simp [put, h, unkeyed, hkey]
    · by_cases hkey : key.isKey = true
      · simp [put, h, unkeyed, hkey, ih]
      · simp [put, h, unkeyed, hkey, ih]

end Table

namespace Entity

/-- The first entity is the second one but for cells that ask the engine for a value. -/
structure Asks (e bare : Entity) : Prop where
  layout : e.layout = bare.layout
  refinements : e.refinements = bare.refinements
  members : e.members = bare.members
  errors : e.errors = bare.errors
  unkeyed : Table.unkeyed e.values = Table.unkeyed bare.values
  cells : ∀ name period, name.isKey = true → e.cell? name period = bare.cell? name period ∨
    (e.cell? name period = some .null ∧ bare.cell? name period = none)

theorem Asks.refl (e : Entity) : Asks e e :=
  ⟨rfl, rfl, rfl, rfl, rfl, fun _ _ _ => Or.inl rfl⟩

/-- Under a name that cannot be a key, both entities hold the same. -/
theorem Asks.get?_values {e bare : Entity} (h : Asks e bare) {name : Value}
    (hn : name.isKey = false) : Table.get? e.values name = Table.get? bare.values name := by
  rw [← Table.get?_unkeyed e.values hn, h.unkeyed, Table.get?_unkeyed _ hn]

/-- A cell that asks for a value and one that is not there hold the same. -/
theorem Asks.value {e bare : Entity} (h : Asks e bare) (name : Value) (period : String) :
    e.value name period = bare.value name period := by
  cases hn : name.isKey with
  | false => simp only [Entity.value, h.get?_values hn]
  | true =>
    rw [value_eq_cell?, value_eq_cell?]
    rcases h.cells name period hn with same | ⟨asked, absent⟩
    · rw [same]
    · rw [asked, absent]
      rfl

theorem Asks.verdict {e bare : Entity} (h : Asks e bare) (name value : Value)
    (period answerKey : String) :
    e.verdict name value period answerKey = bare.verdict name value period answerKey :=
  verdict_congr h.members h.refinements (h.value name period) value answerKey

theorem Asks.put {e bare : Entity} (h : Asks e bare) (name : Value) (period : String)
    (v : Value) : Asks (e.put name period v) (bare.put name period v) := by
  refine ⟨h.layout, h.refinements, h.members, h.errors, ?_, ?_⟩
  · cases hn : name.isKey with
    | true => simp only [Entity.put, Table.unkeyed_put_of_key _ hn, h.unkeyed]
    | false =>
      simp only [Entity.put, Table.unkeyed_put_of_unkeyed _ hn, h.unkeyed, h.get?_values hn]
  · intro other at' hk
    rw [cell?_put e _ _ _ hk, cell?_put bare _ _ _ hk]
    split
    · exact Or.inl rfl
    · exact h.cells other at' hk

/-- A write comes to the same in both entities. -/
theorem Asks.carry {e bare : Entity} (h : Asks e bare) (name value : Value)
    (period : String) (verdict : Verdict) :
    Asks (e.carry name value period verdict) (bare.carry name value period verdict) := by
  cases verdict with
  | ignored => exact h
  | taken => exact h.put name period value
  | refused error =>
    exact ⟨h.layout, h.refinements, h.members, by simp only [Entity.carry, h.errors],
      h.unkeyed, h.cells⟩

/-- One more cell may ask, where no value is held. -/
theorem Asks.ask {e bare : Entity} (h : Asks e bare) {name : Value} (hn : name.isKey = true)
    {period : String} (empty : (e.value name period).isNull = true) :
    Asks (e.put name period .null) bare := by
  refine ⟨h.layout, h.refinements, h.members, h.errors, ?_, ?_⟩
  · simp only [Entity.put, Table.unkeyed_put_of_key _ hn, h.unkeyed]
  · intro other at' hk
    rw [cell?_put e _ _ _ hk]
    split
    · rename_i here
      obtain ⟨same, rfl⟩ := here
      have null : bare.value other period = .null := by
        have alike : e.value name period = e.value other period := by
          simp only [Entity.value, Table.get?_congr _ hk same]
        rw [← h.value, ← alike]
        exact Value.eq_null_of_isNull empty
      rw [value_eq_cell?] at null
      cases found : bare.cell? other period with
      | none => exact Or.inr ⟨rfl, rfl⟩
      | some v =>
        rw [found, Option.getD_some] at null
        rw [null]
        exact Or.inl rfl
    · exact h.cells other at' hk

/-- A write of `null` is never refused, and leaves a cell that asks at most. -/
theorem Asks.carry_null {e bare : Entity} (h : Asks e bare) {name : Value}
    (hn : name.isKey = true) (period answerKey : String) :
    Asks (e.carry name .null period (e.verdict name .null period answerKey)) bare := by
  unfold Entity.verdict
  split
  · exact h
  · split
    · rename_i empty
      exact h.ask hn empty
    · exact h

end Entity

/-- An action that does no more to the entities than to ask for a value. -/
def Action.IsAsking (a : Action) : Prop :=
  ∀ kind answerKey cell, a = .write kind answerKey cell → cell.name.isKey = true ∧
    cell.value = .null

theorem Setting.isAsking_of_mem_probePlan {s : Setting} {key : String} {a : Action}
    (h : a ∈ s.probePlan key) : a.IsAsking := by
  rintro kind answerKey cell rfl
  obtain ⟨null, ⟨name, type, direct⟩, expansion, ⟨mapping, found, _, expanded⟩, inside⟩ :=
    write_mem_probePlan h
  refine ⟨?_, null⟩
  rw [direct, Option.some.injEq] at found
  subst found
  obtain ⟨period, _, cells⟩ := Builder.expand_direct expanded
  rw [cells, List.mem_singleton] at inside
  rw [inside]
  exact Builder.isKey_of_expand_direct expanded

namespace Builder

def Step.isProbe : Step → Bool
  | .probe _ => true
  | _ => false

/-- What a step told: the errors that it recorded, and why it stopped. -/
structure Reply where
  step : Step
  records : List Record
  halt : Option Failure

def reply (b : Builder) (step : Step) : Reply where
  step := step
  records := (log (b.stepPlan step) b).map Prod.fst
  halt := (b.take step).halt

/-- The builder after all steps, whatever came of each. -/
def after : List Step → Builder → Builder
  | [], b => b
  | step :: rest, b => after rest (b.take step).builder

/-- What the steps told. -/
def replies : List Step → Builder → List Reply
  | [], _ => []
  | step :: rest, b => b.reply step :: replies rest (b.take step).builder

/-- Each holder ends with the errors that the steps told for it. -/
theorem after_held (steps : List Step) (b : Builder) (holder : Option EntityKind) :
    (after steps b).held holder = b.held holder ++
      kept holder ((replies steps b).flatMap Reply.records) := by
  induction steps generalizing b with
  | nil => simp [after, replies, kept]
  | cons step rest ih =>
    have first : (b.take step).builder.held holder = b.held holder ++
        kept holder (b.reply step).records := by
      rw [take_eq_perform]
      exact (log_tells (b.stepPlan step) b).held holder
    simp only [after, replies, List.flatMap_cons, kept_append, ih, first, List.append_assoc]

/-- The first builder is the second one but for cells that ask the engine for a value and
for errors of its own. -/
structure Asks (b bare : Builder) : Prop where
  setting : b.setting = bare.setting
  total : ∀ kind, (bare.entities.get kind).refinements.Total
  entities : ∀ kind, (b.entities.get kind).Asks (bare.entities.get kind)

theorem Asks.totals {b bare : Builder} (h : Asks b bare) (kind : EntityKind) :
    (b.entities.get kind).refinements.Total := by
  rw [(h.entities kind).refinements]
  exact h.total kind

/-- Both builders take an action alike. -/
theorem Asks.act {b bare : Builder} (h : Asks b bare) (a : Action) :
    Asks (b.act a).builder (bare.act a).builder ∧
      (b.act a).recorded = (bare.act a).recorded ∧
      (b.act a).halt = (bare.act a).halt := by
  have setting : (b.act a).builder.setting = (bare.act a).builder.setting := by
    rw [act_setting, act_setting, h.setting]
  have haltOn (error : BuildError) : b.haltOn error = bare.haltOn error := by
    simp only [Builder.haltOn, throws_of_setting h.setting]
  have total := act_total h.total a
  cases a with
  | report error => exact ⟨⟨setting, total, h.entities⟩, rfl, haltOn error⟩
  | fail failure => exact ⟨⟨setting, total, h.entities⟩, rfl, rfl⟩
  | write kind answerKey cell =>
    have called :=
      Entity.call_write_eq (h.totals kind) cell.name cell.value cell.period answerKey
    have called' :=
      Entity.call_write_eq (h.total kind) cell.name cell.value cell.period answerKey
    rw [(h.entities kind).verdict] at called
    simp only [Builder.act, called, called'] at setting total ⊢
    refine ⟨⟨setting, total, ?_⟩, trivial, ?_⟩
    · intro other
      rw [PerKind.get_set, PerKind.get_set]
      split
      · exact (h.entities kind).carry _ _ _ _
      · exact h.entities other
    · rw [funext haltOn]

theorem Asks.perform {b bare : Builder} (h : Asks b bare) (plan : List Action) :
    Asks (perform plan b).builder (perform plan bare).builder ∧
      (log plan b).map Prod.fst = (log plan bare).map Prod.fst ∧
      (perform plan b).halt = (perform plan bare).halt :=
  perform_related (P := fun _ => True) (fun _ _ a asks _ => asks.act a) h fun _ _ => trivial

/-- An action that asks goes unseen. -/
theorem Asks.act_left {b bare : Builder} (h : Asks b bare) {a : Action}
    (asking : a.IsAsking) : Asks (b.act a).builder bare := by
  have setting : (b.act a).builder.setting = bare.setting :=
    (act_setting b a).trans h.setting
  cases a with
  | report error => exact ⟨setting, h.total, h.entities⟩
  | fail failure => exact ⟨setting, h.total, h.entities⟩
  | write kind answerKey cell =>
    obtain ⟨name, period, value⟩ := cell
    obtain ⟨named, null⟩ := asking kind answerKey _ rfl
    have called := Entity.call_write_eq (h.totals kind) name value period answerKey
    simp only at null
    subst null
    simp only [Builder.act, called] at setting ⊢
    refine ⟨setting, h.total, ?_⟩
    intro other
    rw [PerKind.get_set]
    split
    · rename_i same
      subst same
      exact (h.entities kind).carry_null named period answerKey
    · exact h.entities other

theorem Asks.perform_left {b bare : Builder} (h : Asks b bare) {plan : List Action}
    (asking : ∀ a ∈ plan, a.IsAsking) : Asks (Builder.perform plan b).builder bare := by
  induction plan generalizing b with
  | nil => exact h
  | cons a rest ih =>
    have next := h.act_left (asking a List.mem_cons_self)
    cases on : (b.act a).halt with
    | some failure =>
      rw [perform_cons_of_halt on]
      exact next
    | none =>
      rw [perform_cons_of_halt_none on]
      exact ih next fun a inside => asking a (List.mem_cons_of_mem _ inside)

/-- Both builders answer to an answer alike. -/
theorem Asks.answer {b bare : Builder} (h : Asks b bare) (key : String) (answer : Value) :
    Asks (b.take (.answer key answer)).builder (bare.take (.answer key answer)).builder ∧
      b.reply (.answer key answer) = bare.reply (.answer key answer) := by
  obtain ⟨next, records, halt⟩ := h.perform (bare.stepPlan (.answer key answer))
  have same : b.stepPlan (.answer key answer) = bare.stepPlan (.answer key answer) := by
    simp only [stepPlan, h.setting]
  simp only [reply, take_eq_perform, same, records, halt]
  exact ⟨next, trivial⟩

theorem Asks.probe {b bare : Builder} (h : Asks b bare) (key : String) :
    Asks (b.take (.probe key)).builder bare := by
  rw [take_eq_perform]
  exact h.perform_left fun a inside => Setting.isAsking_of_mem_probePlan inside

/-- Over a run, the probes go unseen. -/
theorem Asks.after {b bare : Builder} (h : Asks b bare) {steps : List Step}
    (calls : Step.defaults ∉ steps) :
    Asks (after steps b) (after (steps.filter fun step => !step.isProbe) bare) ∧
      replies (steps.filter fun step => !step.isProbe) bare =
        (replies steps b).filter fun reply => !reply.step.isProbe := by
  induction steps generalizing b bare with
  | nil => exact ⟨h, rfl⟩
  | cons step rest ih =>
    have calls' : Step.defaults ∉ rest :=
      fun inside => calls (List.mem_cons_of_mem _ inside)
    cases step with
    | defaults => exact absurd List.mem_cons_self calls
    | probe key => exact ih (h.probe key) calls'
    | answer key answer =>
      obtain ⟨next, first⟩ := h.answer key answer
      obtain ⟨last, told⟩ := ih next calls'
      exact ⟨last, congrArg₂ List.cons first.symm told⟩

theorem asks_fresh (options : Options) (resolver : Resolver) (periods : Periods) :
    Asks (fresh options resolver periods) (fresh options resolver periods) := by
  refine ⟨rfl, ?_, fun _ => .refl _⟩
  intro kind
  simp only [fresh, PerKind.get_ofFunction]
  exact Entity.total_ofKind kind

/-- The errors told after a run from a fresh builder are those of its replies, by holder. -/
theorem allErrors_after_fresh (options : Options) (resolver : Resolver) (periods : Periods)
    (steps : List Step) :
    (after steps (fresh options resolver periods)).allErrors =
      holders.flatMap fun holder =>
        kept holder ((replies steps (fresh options resolver periods)).flatMap
          Reply.records) := by
  rw [allErrors_eq_held]
  congr 1
  funext holder
  rw [after_held, held_fresh, List.nil_append]

/-- Probes are transparent to answers, over any run of answers and probes from a fresh
builder. Without its probes, the run leaves the same values, the same lists of members and
the same errors of the entities; a cell that is there only with the probes holds `null`;
every answer records the same errors and stops alike; and the errors told at the end are
those of the answers, those of the probes left out. -/
theorem probes_transparent (options : Options) (registry : Registry) (periods : Periods)
    (steps : List Step) (calls : Step.defaults ∉ steps) :
    let start := fresh options (.ofRegistry registry) periods
    let answers := steps.filter fun step => !step.isProbe
    let probed := after steps start
    let bare := after answers start
    let told := replies steps start
    let toldByAnswers := told.filter fun reply => !reply.step.isProbe
    (∀ kind name period, name.isKey = true →
        (probed.entities.get kind).value name period =
          (bare.entities.get kind).value name period ∧
        (∀ v, (bare.entities.get kind).cell? name period = some v →
          (probed.entities.get kind).cell? name period = some v) ∧
        (∀ v, (probed.entities.get kind).cell? name period = some v →
          (bare.entities.get kind).cell? name period = none → v = .null)) ∧
      (∀ kind, (probed.entities.get kind).members = (bare.entities.get kind).members ∧
        (probed.entities.get kind).errors = (bare.entities.get kind).errors) ∧
      replies answers start = toldByAnswers ∧
      probed.allErrors = holders.flatMap (fun holder =>
        kept holder (told.flatMap Reply.records)) ∧
      bare.allErrors = holders.flatMap (fun holder =>
        kept holder (toldByAnswers.flatMap Reply.records)) := by
  intro start answers probed bare told toldByAnswers
  obtain ⟨asks, same⟩ := (asks_fresh options (.ofRegistry registry) periods).after calls
  refine ⟨?_, ?_, same, allErrors_after_fresh _ _ _ steps, ?_⟩
  · intro kind name period hk
    have cells := (asks.entities kind).cells name period hk
    refine ⟨(asks.entities kind).value name period, ?_, ?_⟩
    · intro v held
      rcases cells with alike | ⟨_, absent⟩
      · exact alike.trans held
      · rw [absent] at held
        cases held
    · intro v held absent
      rcases cells with alike | ⟨asked, _⟩
      · rw [alike, absent] at held
        cases held
      · rw [asked] at held
        cases held
        rfl
  · intro kind
    exact ⟨(asks.entities kind).members, (asks.entities kind).errors⟩
  · change bare.allErrors = holders.flatMap fun holder =>
      kept holder ((told.filter fun reply => !reply.step.isProbe).flatMap Reply.records)
    rw [← same]
    exact allErrors_after_fresh _ _ _ answers

/-- An age that is asked for, given and asked for again, then given another time; and a
probe of no variable. -/
def curiousSteps : List Step :=
  [.probe "age", .answer "age" (.int 20), .probe "age", .probe "situation-logement",
    .probe "locapass", .answer "age" (.int 21)]

/-- The age that is given stays, and the second one is refused, as without the probes. -/
theorem probes_transparent_curious :
    Step.defaults ∉ curiousSteps ∧
      let start :=
        fresh {} (.ofRegistry .standard) ⟨"2025-10", "2025-11", "2025", "month:2024-10:12"⟩
      let probed := after curiousSteps start
      let bare := after [.answer "age" (.int 20), .answer "age" (.int 21)] start
      (probed.entities.get .individual).value (.text "age") "2025-10" = .int 20 ∧
      (bare.entities.get .individual).value (.text "age") "2025-10" = .int 20 ∧
      (probed.entities.get .individual).cell? (.text "locapass_eligibilite") "2025-10" =
      some .null ∧
      (bare.entities.get .individual).cell? (.text "locapass_eligibilite") "2025-10" = none ∧
      probed.allErrors.map BuildError.answerKey = ["situation-logement", "age"] ∧
      bare.allErrors.map BuildError.answerKey = ["age"] := by
  have calls : Step.defaults ∉ curiousSteps := by simp [curiousSteps]
  have transparent :=
    probes_transparent {} .standard ⟨"2025-10", "2025-11", "2025", "month:2024-10:12"⟩
    curiousSteps calls
  have filtered : curiousSteps.filter (fun step => !step.isProbe) =
      [.answer "age" (.int 20), .answer "age" (.int 21)] := rfl
  dsimp only at transparent ⊢
  rw [filtered] at transparent
  obtain ⟨cells, _⟩ := transparent
  obtain ⟨value, _⟩ := cells .individual (.text "age") "2025-10" rfl
  have aged : (((after curiousSteps (fresh {} (.ofRegistry .standard)
      ⟨"2025-10", "2025-11", "2025", "month:2024-10:12"⟩)).entities.get .individual).value
        (.text "age") "2025-10") =
        .int 20 := by
    decide +kernel
  exact ⟨calls, aged, value.symm.trans aged, by decide +kernel, by decide +kernel,
    by decide +kernel, by decide +kernel⟩

end Builder

end Questionnaire
