import Questionnaire.Proofs.BadInput
import Questionnaire.Proofs.EntityForm
import Questionnaire.Proofs.JsonCanonical
import Questionnaire.Proofs.Steps

/-!
# The shape of requests

Whatever is done to a builder whose registry names variables by texts, its request describes
one entity of each kind, of the form of its layout, and can be written as a document. What
does not fit is refused and changes nothing.
-/

namespace Questionnaire

/-- The names that the dispatcher gives values for are texts. -/
def Dispatcher.Textual (d : Dispatcher) : Prop :=
  ∀ key value type periods expansion, d.run key value type periods = .ok expansion →
    ∀ entry ∈ expansion, entry.1.isText = true

namespace Registry

/-- The names of variables are texts. -/
structure Textual (r : Registry) : Prop where
  direct : ∀ kind key name type, (key, some (.direct name type)) ∈ r.tables.get kind →
    name.isText = true
  dispatch : ∀ kind key dispatcher type,
    (key, some (.dispatch dispatcher type)) ∈ r.tables.get kind → dispatcher.Textual

/-- Whatever an answer means is meant for names that are texts. -/
theorem Textual.isText {r : Registry} (h : r.Textual) {s : Setting}
    (resolver : s.resolver = .ofRegistry r) {key : String} {value : Value}
    {kind : EntityKind} {expansion : Expansion} (means : s.Means key value kind expansion)
    {cell : Builder.Cell} (inside : cell ∈ Builder.cells expansion) :
    cell.name.isText = true := by
  rcases name_of_means resolver means inside with
    ⟨_, owner, other, type, there⟩ | ⟨owner, other, dispatcher, type, there, run,
      values, entry⟩
  · exact h.direct owner other cell.name type there
  · exact h.dispatch owner other dispatcher type there key value type s.periods expansion
      run _ entry

theorem textual_standard : standard.Textual := by
  constructor
  · intro kind key name type there
    cases Standard.regularEntry there _ rfl
    rfl
  · intro kind key dispatcher type there answerKey value type' periods expansion run
    cases Standard.regularEntry there _ rfl
    exact Dispatcher.isText_of_ofCases run

end Registry

/-- The action writes nothing, or a value that a cell can hold under a text. -/
def Action.Fits : Action → Prop
  | .write _ _ cell => cell.name.isText = true ∧ cell.value.isCell = true
  | _ => True

namespace Setting

/-- Values other than scalars are reported before they are written. -/
theorem isCell_of_mem_settle {owner : Owner} {key answerKey : String}
    {expanded : Option (Except Failure Expansion)} {kind : EntityKind} {cell : Builder.Cell}
    (h : Action.write kind answerKey cell ∈ settle owner key expanded) :
    cell.value.isCell = true := by
  obtain ⟨expansion, rfl, rfl, _⟩ := write_mem_settle h
  obtain ⟨written, _, same⟩ := List.mem_map.mp h
  unfold Action.ofCell at same
  split at same
  · cases same
  · rename_i scalar
    cases same
    cases null : cell.value.isNull <;> simp_all [Value.isCell]

theorem isCell_of_mem_answerPlan {s : Setting} {key answerKey : String} {answer : Value}
    {kind : EntityKind} {cell : Builder.Cell}
    (h : Action.write kind answerKey cell ∈ s.answerPlan key answer) :
    cell.value.isCell = true := by
  have shape := s.answerCase key answer
  generalize s.answerPlan key answer = plan at h shape
  cases shape with
  | idle => cases h
  | told => simp at h
  | unowned => simp at h
  | settled => exact isCell_of_mem_settle h

variable {r : Registry} {s : Setting}

theorem fits_answerPlan (textual : r.Textual) (resolver : s.resolver = .ofRegistry r)
    (key : String) (answer : Value) : ∀ a ∈ s.answerPlan key answer, a.Fits := by
  intro a inside
  cases a with
  | report error => exact trivial
  | fail failure => exact trivial
  | write kind answerKey cell =>
    obtain ⟨_, _, expansion, means, meant⟩ := write_mem_answerPlan inside
    exact ⟨textual.isText resolver means meant, isCell_of_mem_answerPlan inside⟩

theorem fits_probePlan (textual : r.Textual) (resolver : s.resolver = .ofRegistry r)
    (key : String) : ∀ a ∈ s.probePlan key, a.Fits := by
  intro a inside
  cases a with
  | report error => exact trivial
  | fail failure => exact trivial
  | write kind answerKey cell =>
    obtain ⟨null, _, expansion, means, meant⟩ := write_mem_probePlan inside
    refine ⟨textual.isText resolver means meant, ?_⟩
    rw [null]
    rfl

end Setting

namespace Builder

theorem fits_defaultPlan (b : Builder) : ∀ a ∈ b.defaultPlan, a.Fits := by
  have one (needed : Bool) (kind : EntityKind) (key name text : String) :
      ∀ a ∈ b.writeIf needed kind key name text, a.Fits := by
    intro a inside
    unfold writeIf at inside
    split at inside
    · rw [List.mem_singleton.mp inside]
      exact ⟨rfl, rfl⟩
    · cases inside
  intro a inside
  simp only [defaultPlan, List.mem_append] at inside
  rcases inside with ((inside | inside) | inside) | inside <;> exact one _ _ _ _ _ a inside

/-- A builder under a registry, its entities of the forms of their kinds. -/
structure Shaped (r : Registry) (b : Builder) : Prop where
  resolver : b.resolver = .ofRegistry r
  formed : ∀ kind, (b.entities.get kind).Formed kind

variable {r : Registry} {b : Builder}

theorem shaped_fresh (r : Registry) (options : Options) (periods : Periods) :
    (fresh options (.ofRegistry r) periods).Shaped r := by
  refine ⟨rfl, ?_⟩
  intro kind
  simp only [fresh, PerKind.get_ofFunction]
  exact Entity.formed_ofKind kind

theorem Shaped.set (h : b.Shaped r) {kind : EntityKind} {e : Entity}
    (formed : e.Formed kind) : Shaped r { b with entities := b.entities.set kind e } := by
  refine ⟨h.resolver, ?_⟩
  intro other
  rw [PerKind.get_set]
  split
  · rename_i same
    rw [← same]
    exact formed
  · exact h.formed other

/-- One action that fits keeps the shape. -/
theorem Shaped.act (h : b.Shaped r) {a : Action} (fits : a.Fits) :
    (b.act a).builder.Shaped r := by
  cases a with
  | report error => exact ⟨h.resolver, h.formed⟩
  | fail failure => exact h
  | write kind answerKey cell =>
    obtain ⟨name, period, v⟩ := cell
    obtain ⟨text, isCell⟩ := fits
    cases name with
    | text s =>
      simp only [Builder.act, Entity.call]
      cases written : (b.entities.get kind).write (.text s) v period answerKey with
      | error failure => exact h
      | ok result => exact h.set ((h.formed kind).write isCell written)
    | _ => cases text

theorem Shaped.perform (h : b.Shaped r) {plan : List Action} (fits : ∀ a ∈ plan, a.Fits) :
    (perform plan b).builder.Shaped r := by
  induction plan generalizing b with
  | nil => exact h
  | cons a rest ih =>
    have first := h.act (fits a List.mem_cons_self)
    cases halt : (b.act a).halt with
    | some failure =>
      rw [perform_cons_of_halt halt]
      exact first
    | none =>
      rw [perform_cons_of_halt_none halt]
      exact ih first fun a inside => fits a (List.mem_cons_of_mem _ inside)

theorem Shaped.take (textual : r.Textual) (h : b.Shaped r) (step : Step) :
    (b.take step).builder.Shaped r := by
  rw [take_eq_perform]
  cases step with
  | answer key answer =>
    exact h.perform (Setting.fits_answerPlan textual h.resolver key answer)
  | probe key => exact h.perform (Setting.fits_probePlan textual h.resolver key)
  | defaults => exact h.perform (fits_defaultPlan b)

theorem Shaped.scholarship (textual : r.Textual) (h : b.Shaped r) (answers : Answers) :
    (Scholarship.apply answers b).builder.Shaped r := by
  rw [scholarship_eq_perform]
  apply h.perform
  intro a inside
  obtain ⟨entry, _, inside⟩ := List.mem_flatMap.mp inside
  exact Setting.fits_answerPlan textual h.resolver _ _ a inside

theorem Shaped.force (h : b.Shaped r) {kind : EntityKind} {name : String}
    (free : (EntityLayout.ofKind kind).hasMembers (.text name) = false) {v : Value}
    (cell : v.isCell = true) : ∃ c, b.force kind name v = .ok c ∧ c.Shaped r := by
  obtain ⟨e, replaced, formed⟩ := (h.formed kind).replace free cell b.periods.month
  refine ⟨_, ?_, h.set formed⟩
  simp only [Builder.force, replaced, bind, Except.bind, pure, Except.pure]

theorem Shaped.forceIf (h : b.Shaped r) (condition : Builder → Bool) {kind : EntityKind}
    {name : String} (free : (EntityLayout.ofKind kind).hasMembers (.text name) = false)
    {v : Value} (cell : v.isCell = true) :
    ∃ c, b.forceIf condition kind name v = .ok c ∧ c.Shaped r := by
  unfold Builder.forceIf
  split
  · exact h.force free cell
  · exact ⟨b, rfl, h⟩

/-- Forcing the values that the engine needs does not fail and keeps the shape. -/
theorem Shaped.clampDefaults (h : b.Shaped r) :
    ∃ c, b.clampDefaults = .ok c ∧ c.Shaped r := by
  obtain ⟨c1, h1, s1⟩ :=
    h.force (free_of_needed nationality_needed) (show (Value.text "FR").isCell =
      true from rfl)
  obtain ⟨c2, h2, s2⟩ := s1.force (free_of_needed movingDate_needed)
    (show (Value.text c1.periods.nextMonth).isCell = true from rfl)
  obtain ⟨c3, h3, s3⟩ :=
    s2.forceIf (fun b => (b.current .individual "sortie_academie").truthy)
    (free_of_needed level_needed) (show (Value.text "terminale").isCell = true from rfl)
  obtain ⟨c4, h4, s4⟩ :=
    s3.forceIf (fun b => (b.current .individual "sortie_region_academique").truthy)
    (free_of_needed level_needed) (show (Value.text "master_1").isCell = true from rfl)
  refine ⟨c4, ?_, s4⟩
  simp only [Builder.clampDefaults, h1, h2, h3, h4, bind, Except.bind]

theorem Shaped.clearErrors (h : b.Shaped r) : b.clearErrors.Shaped r := by
  refine ⟨h.resolver, ?_⟩
  intro kind
  simp only [Builder.clearErrors, PerKind.get_map]
  exact h.formed kind

/-- What can be done to a builder and to its entities. -/
inductive Operation where
  | step (step : Step)
  | scholarship (answers : Answers)
  | clamp
  | clearErrors
  | addMember (kind : EntityKind) (field id : String)
  | replace (kind : EntityKind) (name value : Value) (period : String)

/-- A variable is replaced under a text, by a value that a cell can hold. Lists of members
can be named too. -/
def Operation.Fits : Operation → Prop
  | .replace kind name value _ =>
      (EntityLayout.ofKind kind).hasMembers name = true ∨
      (name.isText = true ∧ value.isCell = true)
  | _ => True

/-- The builder after something that can fail. A failure changes nothing. -/
def attempt (b : Builder) : Except Failure Builder → Builder × Option Failure
  | .ok c => (c, none)
  | .error failure => (b, some failure)

/-- The builder with another entity of a kind. -/
def withEntity (b : Builder) (kind : EntityKind) (e : Entity) : Builder :=
  { b with entities := b.entities.set kind e }

/-- The builder after an operation, and why it failed, if it did. -/
def obey (b : Builder) : Operation → Builder × Option Failure
  | .step step => ((b.take step).builder, (b.take step).halt)
  | .scholarship answers =>
      ((Scholarship.apply answers b).builder, (Scholarship.apply answers b).halt)
  | .clamp => b.attempt b.clampDefaults
  | .clearErrors => (b.clearErrors, none)
  | .addMember kind field id =>
      b.attempt (((b.entities.get kind).addMember field id).map (b.withEntity kind))
  | .replace kind name value period =>
      b.attempt (((b.entities.get kind).replace name value period).map (b.withEntity kind))

/-- One operation after the other, whether they fail or not. -/
def obeyAll (b : Builder) (operations : List Operation) : Builder :=
  operations.foldl (fun b operation => (b.obey operation).1) b

theorem Shaped.obey (textual : r.Textual) (h : b.Shaped r) {operation : Operation}
    (fits : operation.Fits) : (b.obey operation).1.Shaped r := by
  cases operation with
  | step step => exact h.take textual step
  | scholarship answers => exact h.scholarship textual answers
  | clamp =>
    obtain ⟨c, clamped, shaped⟩ := h.clampDefaults
    simp only [Builder.obey, clamped]
    exact shaped
  | clearErrors => exact h.clearErrors
  | addMember kind field id =>
    simp only [Builder.obey]
    cases added : (b.entities.get kind).addMember field id with
    | error failure => exact h
    | ok e => exact h.set ((h.formed kind).addMember added)
  | replace kind name value period =>
    simp only [Builder.obey]
    cases member : (EntityLayout.ofKind kind).hasMembers name with
    | true =>
      rw [(h.formed kind).replace_refused member]
      exact h
    | false =>
      rcases fits with listed | ⟨text, cell⟩
      · rw [member] at listed
        cases listed
      · cases name with
        | text s =>
          obtain ⟨e, replaced, formed⟩ := (h.formed kind).replace member cell period
          rw [replaced]
          exact h.set formed
        | _ => cases text

theorem Shaped.obeyAll (textual : r.Textual) (h : b.Shaped r) {operations : List Operation}
    (fits : ∀ operation ∈ operations, operation.Fits) :
    (b.obeyAll operations).Shaped r := by
  induction operations generalizing b with
  | nil => exact h
  | cons operation rest ih =>
    exact ih (h.obey textual (fits operation List.mem_cons_self)) fun other inside =>
      fits other (List.mem_cons_of_mem _ inside)

end Builder

namespace Request

/-- The four kinds in their order, each with its one entity, of the form of its layout. -/
def Shape (request : Value) : Prop :=
  ∃ (members : EntityKind → Table String (List String))
    (vars : EntityKind → Table String ByPeriod),
    request = .map (EntityKind.all.map fun kind =>
      (.text kind.name, .map
        [(.text (EntityLayout.ofKind kind).id,
          .map (EntityForm.entries (members kind) (vars kind)))])) ∧
    ∀ kind, EntityForm (.ofKind kind) (members kind) (vars kind)

theorem shape_request {r : Registry} {b : Builder} (h : b.Shaped r) : Shape b.request := by
  have held (kind : EntityKind) := (h.formed kind).toValue_eq
  choose vars shown form using held
  refine ⟨fun kind => (b.entities.get kind).members, vars, ?_, form⟩
  rw [Builder.request, PerKind.toList, List.map_map]
  congr 1
  apply List.map_congr_left
  intro kind _
  simp only [Function.comp_apply, (h.formed kind).1, shown]

/-- A request of this shape can be part of a document. -/
theorem Shape.plain {request : Value} (h : Shape request) : request.Plain True := by
  obtain ⟨members, vars, rfl, form⟩ := h
  refine .map ?_ ?_ ?_
  · intro entry inside
    obtain ⟨kind, _, rfl⟩ := List.mem_map.mp inside
    rfl
  · have distinct : (EntityKind.all.map fun kind => Value.text kind.name).Nodup := by decide
    rw [List.map_map]
    exact distinct
  · intro entry inside
    obtain ⟨kind, _, rfl⟩ := List.mem_map.mp inside
    have fields : (EntityLayout.ofKind kind).memberFields.Nodup := by cases kind <;> decide
    refine .map ?_ (List.nodup_singleton _) ?_
    · intro entry inside
      rw [List.mem_singleton.mp inside]
      rfl
    · intro entry inside
      rw [List.mem_singleton.mp inside]
      exact (form kind).plain_entries fields

end Request

/-- A request of this shape has a document unless a whole number in it has too many digits. -/
theorem Request.Shape.printed {request : Value} (h : Shape request) (style : Json.Style)
    (sorted : style.sorted = true) :
    ∃ document, Digits.Guarded style.digits (request.Within style.digits)
      (Json.print style request) document := by
  obtain ⟨document, printed, _⟩ := Json.print_plain style sorted h.plain
  exact ⟨document, printed⟩

/-- Under a registry that names variables by texts, a builder can be told anything, in any
order: its request keeps its shape and can be written, unless a whole number in it has more
digits than the limit; forcing the values that the engine needs does not fail, and new
members of what is no list of members, or another value for one that is, are refused and
change nothing. -/
theorem Builder.obeyAll_shape {registry : Registry} (textual : registry.Textual)
    (options : Options) (periods : Periods) (operations : List Operation)
    (fits : ∀ operation ∈ operations, operation.Fits) :
    let b := (fresh options (.ofRegistry registry) periods).obeyAll operations
    Request.Shape b.request ∧
      (∀ limit, b.request.Within limit →
        (∃ document, Request.toJson b.request limit = .ok document) ∧
          ∀ width, ∃ document, Request.toIndentedJson width b.request limit =
            .ok document) ∧
      (∀ limit, ¬b.request.Within limit →
        Request.toJson b.request limit = .error (Digits.tooMany limit) ∧
          ∀ width, Request.toIndentedJson width b.request limit =
            .error (Digits.tooMany limit)) ∧
      (b.obey .clamp).2 = none ∧
      (∀ kind field id, field ∉ (EntityLayout.ofKind kind).memberFields →
        b.obey (.addMember kind field id) = (b, some (.notMemberList (.text field) kind))) ∧
      ∀ kind name value period, (EntityLayout.ofKind kind).hasMembers name = true →
        b.obey (.replace kind name value period) = (b, some (.memberList name kind)) := by
  intro b
  have shaped : b.Shaped registry :=
    (shaped_fresh registry options periods).obeyAll textual fits
  have shape := Request.shape_request shaped
  have oneLine (limit : Nat) := shape.printed { sorted := true, digits := limit } rfl
  have laidOut (limit width : Nat) :=
    shape.printed { sorted := true, indent := some width, digits := limit } rfl
  refine ⟨shape, ?_, ?_, ?_, ?_, ?_⟩
  · intro limit within
    constructor
    · obtain ⟨document, printed⟩ := oneLine limit
      exact ⟨document, printed.ok within⟩
    · intro width
      obtain ⟨document, printed⟩ := laidOut limit width
      exact ⟨document, printed.ok within⟩
  · intro limit beyond
    constructor
    · obtain ⟨_, printed⟩ := oneLine limit
      exact printed.refused beyond
    · intro width
      obtain ⟨_, printed⟩ := laidOut limit width
      exact printed.refused beyond
  · obtain ⟨c, clamped, _⟩ := shaped.clampDefaults
    simp only [obey, clamped, attempt]
  · intro kind field id unknown
    rw [obey, (shaped.formed kind).addMember_refused unknown]
    rfl
  · intro kind name value period member
    rw [obey, (shaped.formed kind).replace_refused member]
    rfl

theorem textual_oddRegistry : oddRegistry.Textual := by
  constructor
  · intro kind key name type there
    rcases direct_of_odd there with rfl | rfl <;> rfl
  · intro kind key dispatcher type there answerKey value type' periods expansion run entry inside
    rcases dispatcher_of_odd there with rfl | rfl
    · cases run
    · cases run
      rw [List.mem_singleton.mp inside]
      rfl

/-- Answers to the odd table, among them one for a list of members, a child who is named
twice, and attempts that are refused. -/
def oddOperations : List Builder.Operation :=
  [.step (.answer "liste" (.int 1)), .step (.answer "enfants" (.int 2)),
    .addMember .household "enfants" "lea", .addMember .household "enfants" "lea",
    .addMember .individual "enfants" "lea", .step (.probe "semaine"),
    .scholarship oddAnswers, .replace .household (.text "conjoint") (.list []) "2025-10",
    .clamp, .clearErrors, .step .defaults]

theorem Builder.obeyAll_shape_odd :
    let b := (fresh {} (.ofRegistry oddRegistry)
      ⟨"2025-10", "2025-11", "2025", "month:2024-10:12"⟩).obeyAll oddOperations
    oddRegistry.Textual ∧ (∀ operation ∈ oddOperations, operation.Fits) ∧
      Request.Shape b.request ∧ b.request.Within Digits.standard ∧
      (∃ document, Request.toJson b.request = .ok document) ∧
      Request.values? b.request .household (.text "enfants") =
        some (.list [.text "lea"]) := by
  have fits : ∀ operation ∈ oddOperations, operation.Fits := by
    simp [oddOperations, Operation.Fits, EntityLayout.hasMembers, EntityLayout.ofKind,
      Value.text?]
  intro b
  have within : b.request.Within Digits.standard := by decide +kernel
  obtain ⟨shape, written, _⟩ := obeyAll_shape textual_oddRegistry {}
    ⟨"2025-10", "2025-11", "2025", "month:2024-10:12"⟩ oddOperations fits
  exact ⟨textual_oddRegistry, fits, shape, within, (written Digits.standard within).1,
    by decide +kernel⟩

/-- The smallest number that has more digits than the limit is kept as an answer, and the
request has no document. -/
theorem Builder.obeyAll_oversized :
    let salary : Value := .int (tenTo Digits.standard)
    let b := (fresh {} (.ofRegistry .standard)
      ⟨"2025-10", "2025-11", "2025", "month:2024-10:12"⟩).obeyAll
      [.step (.answer "salaire-net-mensuel" salary)]
    Registry.standard.Textual ∧
      Request.cell? b.request .individual (.text "salaire_net") "2025-10" = some salary ∧
      ¬∃ document, Request.toJson b.request = .ok document := by
  refine ⟨Registry.textual_standard, by decide +kernel, ?_⟩
  rintro ⟨document, printed⟩
  have refused : (Request.toJson ((fresh {} (.ofRegistry .standard)
      ⟨"2025-10", "2025-11", "2025", "month:2024-10:12"⟩).obeyAll
      [.step (.answer "salaire-net-mensuel"
        (.int (tenTo Digits.standard)))]).request).toOption = none := by
    decide +kernel
  rw [printed] at refused
  cases refused

end Questionnaire
