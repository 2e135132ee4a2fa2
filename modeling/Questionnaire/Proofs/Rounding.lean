import Questionnaire.Proofs.Steps
import Questionnaire.Proofs.Verdict

/-!
# Rounding birth dates

Standardizing the birth dates of a request is rounding those that the builder holds. Nothing
that a builder does looks at a birth date: what it does before rounding, it does alike
after.
-/

namespace Questionnaire

namespace Table

variable {α : Type}

/-- A write to a table commutes with a change of each value by its key, if equal keys change
the value that is written alike. -/
theorem put_map {κ : Type} [BEq κ] (change : κ → α → α) (t : Table κ α) (k : κ) (a : α)
    (same : ∀ key, (key == k) = true → change key a = change k a) :
    put (t.map fun entry => (entry.1, change entry.1 entry.2) : Table κ α) k (change k a) =
      (put t k a).map fun entry => (entry.1, change entry.1 entry.2) := by
  induction t with
  | nil => rfl
  | cons entry rest ih =>
    obtain ⟨key, b⟩ := entry
    by_cases h : (key == k) = true
    · simp [put, h, same key h]
    · simp [put, h, ih]

end Table

namespace Entity

/-- The values of a variable, rounded if it is the birth date. -/
def roundedCells (day : Date) (name : Value) (cells : ByPeriod) : ByPeriod :=
  if name == .text "date_naissance" then cells.map fun cell =>
    (cell.1, BirthDate.roundValue day cell.2) else cells

/-- A value of a variable, rounded if it is a birth date. -/
def roundedValue (day : Date) (name v : Value) : Value :=
  if name == .text "date_naissance" then BirthDate.roundValue day v else v

/-- The entity with its birth dates rounded. -/
def rounded (day : Date) (e : Entity) : Entity :=
  { e with values := e.values.map fun entry => (entry.1, roundedCells day entry.1 entry.2) }

/-- The entity in a request, its birth dates rounded there. -/
theorem roundIndividual_toValue (day : Date) (e : Entity) :
    BirthDate.roundIndividual day e.toValue = .ok (e.rounded day).toValue := by
  have members (entry : String × List String) :
      (if (Value.text entry.1 == .text "date_naissance") = true then
        BirthDate.roundPeriods day (.list (entry.2.map .text))
          else .list (entry.2.map .text)) =
      .list (entry.2.map .text) := by
    split <;> rfl
  have values (entry : Value × ByPeriod) :
      (if (entry.1 == .text "date_naissance") = true then
        BirthDate.roundPeriods day (ofPeriods entry.2)
        else ofPeriods entry.2) = ofPeriods (roundedCells day entry.1 entry.2) := by
    unfold roundedCells
    split
    · simp [ofPeriods, BirthDate.roundPeriods, Function.comp_def]
    · rfl
  unfold ofPeriods at values
  simp only [toValue, BirthDate.roundIndividual, List.map_append, List.map_map,
    Function.comp_def, rounded, members, values]

section Rounded

variable (day : Date)

/-- Names that are equal are rounded alike. -/
theorem roundedCells_congr {key name : Value} (h : (key == name) = true)
    (cells : ByPeriod) : roundedCells day key cells = roundedCells day name cells := by
  have same : (key == .text "date_naissance") = (name == .text "date_naissance") := by
    rw [Bool.eq_iff_iff, Value.same_text, Value.same_text]
    constructor
    · rintro rfl
      exact (Value.text_same _ _).mp h
    · rintro rfl
      exact (Value.same_text _ _).mp h
  simp only [roundedCells, same]

theorem roundedValue_of_ne {name : Value} (h : name ≠ .text "date_naissance") (v : Value) :
    roundedValue day name v = v := by
  rw [roundedValue, if_neg]
  rwa [Value.same_text]

theorem roundedCells_of_ne {name : Value} (h : name ≠ .text "date_naissance")
    (cells : ByPeriod) : roundedCells day name cells = cells := by
  rw [roundedCells, if_neg]
  rwa [Value.same_text]

@[simp] theorem roundedValue_null (name : Value) : roundedValue day name .null = .null := by
  unfold roundedValue
  split <;> rfl

theorem isNull_roundedValue (name v : Value) :
    (roundedValue day name v).isNull = v.isNull := by
  unfold roundedValue
  split
  · cases v with
    | text s =>
      unfold BirthDate.roundValue
      dsimp only
      split <;> rfl
    | _ => rfl
  · rfl

theorem get?_roundedCells (name : Value) (cells : ByPeriod) (period : String) :
    Table.get? (roundedCells day name cells) period =
      (Table.get? cells period).map (roundedValue day name) := by
  unfold roundedCells roundedValue
  split
  · exact Table.get?_map (BirthDate.roundValue day) cells period
  · simp

/-- A write to the cells of a variable, rounded. -/
theorem put_roundedCells (name : Value) (cells : ByPeriod) (period : String) (v : Value) :
    Table.put (roundedCells day name cells) period (roundedValue day name v) =
      roundedCells day name (Table.put cells period v) := by
  unfold roundedCells roundedValue
  split
  · exact Table.put_map (fun _ => BirthDate.roundValue day) cells period v fun _ _ => rfl
  · rfl

variable (e : Entity)

/-- Rounding changes the variable of the birth date alone. -/
theorem get?_rounded (name : Value) :
    Table.get? (e.rounded day).values name =
      (Table.get? e.values name).map (roundedCells day name) := by
  obtain ⟨_, _, _, _, values, _⟩ := e
  simp only [rounded]
  induction values with
  | nil => rfl
  | cons entry rest ih =>
    obtain ⟨key, cells⟩ := entry
    by_cases h : (key == name) = true
    · simp [Table.get?, h, roundedCells_congr day h]
    · simp [Table.get?, h, ih]

theorem hasVariable_rounded (name : Value) :
    (e.rounded day).hasVariable name = e.hasVariable name := by
  simp only [hasVariable, Table.contains, get?_rounded, Option.isSome_map]

theorem cell?_rounded (name : Value) (period : String) :
    (e.rounded day).cell? name period =
      (e.cell? name period).map (roundedValue day name) := by
  simp only [cell?, get?_rounded]
  cases Table.get? e.values name with
  | none => rfl
  | some cells => exact get?_roundedCells day name cells period

theorem value_rounded (name : Value) (period : String) :
    (e.rounded day).value name period = roundedValue day name (e.value name period) := by
  rw [value_eq_cell?, value_eq_cell?, cell?_rounded]
  cases e.cell? name period with
  | none => exact (roundedValue_null day name).symm
  | some v => rfl

/-- Recording a value and rounding is rounding and recording the rounded value. -/
theorem put_rounded (name : Value) (period : String) (v : Value) :
    (e.rounded day).put name period (roundedValue day name v) =
      (e.put name period v).rounded day := by
  have cells : (Table.get? (e.rounded day).values name).getD [] =
      roundedCells day name ((Table.get? e.values name).getD []) := by
    rw [get?_rounded]
    cases Table.get? e.values name with
    | none =>
      unfold roundedCells
      split <;> rfl
    | some cells => rfl
  have values := Table.put_map (roundedCells day) e.values name
    (Table.put ((Table.get? e.values name).getD []) period v) fun key same =>
    roundedCells_congr day same _
  simp only [put, cells, put_roundedCells]
  simp only [rounded, values]

/-- What becomes of a write does not depend on the birth date, if no other birth date is
written. -/
theorem verdict_rounded {name v : Value}
    (undated : name = .text "date_naissance" → v = .null) (period answerKey : String) :
    (e.rounded day).verdict name v period answerKey =
      e.verdict name v period answerKey := by
  have members : (e.rounded day).isMemberList name = e.isMemberList name := by
    cases name <;> rfl
  have rules : (e.rounded day).refinements = e.refinements := rfl
  simp only [verdict, members, rules, value_rounded, isNull_roundedValue]
  by_cases named : name = .text "date_naissance"
  · rw [undated named]
    rfl
  · rw [roundedValue_of_ne day named]

theorem carry_rounded {name v : Value} (undated : name = .text "date_naissance" → v = .null)
    (period : String) (verdict : Verdict) :
    (e.rounded day).carry name v period verdict =
      (e.carry name v period verdict).rounded day := by
  cases verdict with
  | ignored => rfl
  | refused error => rfl
  | taken =>
    have same : roundedValue day name v = v := by
      by_cases named : name = .text "date_naissance"
      · rw [undated named]
        exact roundedValue_null day name
      · exact roundedValue_of_ne day named v
    have recorded := put_rounded day e name period v
    rw [same] at recorded
    exact recorded

theorem call_rounded {e : Entity} (total : e.refinements.Total) {name v : Value}
    (undated : name = .text "date_naissance" → v = .null) (period answerKey : String) :
    (e.rounded day).call (.write name v period answerKey) =
      ((e.call (.write name v period answerKey)).1.rounded day,
        (e.call (.write name v period answerKey)).2) := by
  have total' : (e.rounded day).refinements.Total := total
  rw [call_write_eq total, call_write_eq total', verdict_rounded day e undated,
    carry_rounded day e undated]

/-- Replacing another variable and rounding is rounding and replacing. -/
theorem replace_rounded {name : Value} (other : name ≠ .text "date_naissance") (v : Value)
    (period : String) :
    (e.rounded day).replace name v period =
      (e.replace name v period).map (rounded day) := by
  have members : (e.rounded day).isMemberList name = e.isMemberList name := by
    cases name <;> rfl
  have values := Table.put_map (roundedCells day) e.values name [(period, v)]
    fun key same => roundedCells_congr day same _
  rw [roundedCells_of_ne day other] at values
  unfold replace
  rw [members]
  split
  · rfl
  · simp only [Except.map, rounded, values]

end Rounded

end Entity

/-- An action that writes no birth date; it may ask for one. -/
def Action.Undated (a : Action) : Prop :=
  ∀ answerKey cell, a = .write .individual answerKey cell →
    cell.name = .text "date_naissance" → cell.value = .null

namespace Builder

/-- The builder with the birth dates of its individual rounded. -/
def rounded (day : Date) (b : Builder) : Builder :=
  { b with
    entities := b.entities.set .individual ((b.entities.get .individual).rounded day) }

section Rounded

variable (day : Date)

/-- Standardizing a request is rounding the builder that it comes from. -/
theorem standardize_request (b : Builder) :
    BirthDate.standardize day b.request = .ok (b.rounded day).request := by
  have individual := Entity.roundIndividual_toValue day (b.entities.get .individual)
  simp [request, BirthDate.standardize, PerKind.toList, EntityKind.all, EntityKind.name,
    Value.text_same, individual, rounded, PerKind.get_set, bind, Except.bind, pure,
    Except.pure, Entity.rounded]

theorem allErrors_rounded (b : Builder) : (b.rounded day).allErrors = b.allErrors := by
  simp [allErrors, rounded, PerKind.toList, EntityKind.all, PerKind.get_set, Entity.rounded]

theorem get_rounded (b : Builder) (kind : EntityKind) :
    (b.rounded day).entities.get kind =
      if kind = .individual then (b.entities.get .individual).rounded day
        else b.entities.get kind := by
  cases kind <;> rfl

/-- Setting an entity and rounding is rounding and setting it, rounded if it is the
individual. -/
theorem set_rounded (b : Builder) (kind : EntityKind) (e : Entity) :
    ({ b with entities := b.entities.set kind e } : Builder).rounded day =
      { b.rounded day with
        entities := (b.rounded day).entities.set kind (if kind = .individual then
          e.rounded day else e) } := by
  cases kind <;> rfl

/-- Without another birth date, an action does alike before and after rounding. -/
theorem act_rounded {b : Builder} (total : ∀ kind, (b.entities.get kind).refinements.Total)
    {a : Action} (undated : a.Undated) :
    (b.rounded day).act a = { b.act a with builder := (b.act a).builder.rounded day } := by
  cases a with
  | report error => rfl
  | fail failure => rfl
  | write kind answerKey cell =>
    obtain ⟨name, period, value⟩ := cell
    have called :
        ((b.rounded day).entities.get kind).call (.write name value period answerKey) =
        (if kind = .individual then
          ((b.entities.get kind).call (.write name value period answerKey)).1.rounded day
        else ((b.entities.get kind).call (.write name value period answerKey)).1,
          ((b.entities.get kind).call (.write name value period answerKey)).2) := by
      rw [get_rounded]
      split
      · rename_i individual
        subst individual
        exact Entity.call_rounded day (total .individual) (undated answerKey _ rfl)
          period answerKey
      · rfl
    cases reply : (b.entities.get kind).call (.write name value period answerKey) with
    | mk next result =>
      rw [reply] at called
      cases result with
      | error failure => simp only [act, called, reply]
      | ok refused =>
        simp only [act, called, reply, set_rounded]
        rfl

/-- Without another birth date, a plan does alike before and after rounding. -/
theorem perform_rounded {b : Builder}
    (total : ∀ kind, (b.entities.get kind).refinements.Total) {plan : List Action}
    (undated : ∀ a ∈ plan, a.Undated) :
    (perform plan (b.rounded day)).builder = (perform plan b).builder.rounded day := by
  have step (b c : Builder) (a : Action)
      (h : c = b.rounded day ∧ ∀ kind, (b.entities.get kind).refinements.Total)
      (ha : a.Undated) :
      ((c.act a).builder = (b.act a).builder.rounded day ∧
        ∀ kind, ((b.act a).builder.entities.get kind).refinements.Total) ∧
      (b.act a).recorded = (c.act a).recorded ∧ (b.act a).halt = (c.act a).halt := by
    obtain ⟨rfl, total⟩ := h
    rw [act_rounded day total ha]
    exact ⟨⟨rfl, act_total total a⟩, rfl, rfl⟩
  obtain ⟨⟨rounded, _⟩, _, _⟩ := perform_related step ⟨rfl, total⟩ undated
  exact rounded

theorem current_rounded (b : Builder) {name : String} (other : name ≠ "date_naissance") :
    (b.rounded day).current .individual name = b.current .individual name := by
  have other' : Value.text name ≠ .text "date_naissance" := by simpa using other
  have periods : (b.rounded day).periods = b.periods := rfl
  rw [current, current, get_rounded, if_pos rfl, Entity.value_rounded,
    Entity.roundedValue_of_ne day other', periods]

theorem lacks_rounded (b : Builder) (kind : EntityKind) (name : String) :
    lacks kind name (b.rounded day) = lacks kind name b := by
  unfold lacks
  rw [get_rounded]
  split
  · rename_i individual
    rw [Entity.hasVariable_rounded, individual]
  · rfl

/-- The defaults do not look at the birth date. -/
theorem defaultPlan_rounded (b : Builder) :
    (b.rounded day).defaultPlan = b.defaultPlan := by
  have periods : (b.rounded day).periods = b.periods := rfl
  have isSet {name : String} (other : name ≠ "date_naissance") :
      isSet .individual name (b.rounded day) = isSet .individual name b := by
    unfold Builder.isSet
    rw [current_rounded day b other]
  have school := isSet (show "sortie_academie" ≠ "date_naissance" by decide)
  have university := isSet (show "sortie_region_academique" ≠ "date_naissance" by decide)
  simp only [defaultPlan, writeIf, lacks_rounded, school, university, periods]

theorem applyDefaults_rounded {b : Builder}
    (total : ∀ kind, (b.entities.get kind).refinements.Total) :
    (b.rounded day).applyDefaults.builder = b.applyDefaults.builder.rounded day := by
  rw [applyDefaults_eq_perform, applyDefaults_eq_perform, defaultPlan_rounded]
  apply perform_rounded day total
  rintro a inside answerKey cell rfl named
  obtain ⟨kind, name, needed, key, period, v, same⟩ := within_defaultPlan b _ inside
  cases same
  simp only [Value.text.injEq] at named
  subst named
  simp [neededNames] at needed

theorem force_rounded (b : Builder) (kind : EntityKind) {name : String}
    (other : name ≠ "date_naissance") (v : Value) :
    (b.rounded day).force kind name v = (b.force kind name v).map (rounded day) := by
  have other' : Value.text name ≠ .text "date_naissance" := by simpa using other
  have periods : (b.rounded day).periods = b.periods := rfl
  unfold force
  rw [get_rounded, periods]
  split
  · rename_i individual
    subst individual
    rw [Entity.replace_rounded day _ other']
    cases (b.entities.get .individual).replace (.text name) v b.periods.month <;> rfl
  · rename_i elsewhere
    cases (b.entities.get kind).replace (.text name) v b.periods.month with
    | error failure => rfl
    | ok next =>
      have set := set_rounded day b kind next
      rw [if_neg elsewhere] at set
      exact congrArg Except.ok set.symm

theorem forceIf_rounded (b : Builder) {condition : Builder → Bool}
    (same : condition (b.rounded day) = condition b) (kind : EntityKind) {name : String}
    (other : name ≠ "date_naissance") (v : Value) :
    (b.rounded day).forceIf condition kind name v =
      (b.forceIf condition kind name v).map (rounded day) := by
  unfold forceIf
  rw [same]
  split
  · exact force_rounded day b kind other v
  · rfl

theorem bind_rounded {next : Builder → Except Failure Builder}
    (same : ∀ b, next (b.rounded day) = (next b).map (rounded day))
    (x : Except Failure Builder) :
    (x.map (rounded day) >>= next) = (x >>= next).map (rounded day) := by
  cases x with
  | error failure => rfl
  | ok b => exact same b

/-- Nor does what is forced. -/
theorem clampDefaults_rounded (b : Builder) :
    (b.rounded day).clampDefaults = b.clampDefaults.map (rounded day) := by
  have academy (b : Builder) :
      ((b.rounded day).current .individual "sortie_academie").truthy =
      (b.current .individual "sortie_academie").truthy := by
    rw [current_rounded day b (by decide)]
  have region (b : Builder) :
      ((b.rounded day).current .individual "sortie_region_academique").truthy =
      (b.current .individual "sortie_region_academique").truthy := by
    rw [current_rounded day b (by decide)]
  unfold clampDefaults
  rw [force_rounded day b .individual (by decide)]
  apply bind_rounded
  intro b
  have periods : (b.rounded day).periods = b.periods := rfl
  rw [periods, force_rounded day b .household (by decide)]
  apply bind_rounded
  intro b
  rw [forceIf_rounded day b (academy b) .individual (by decide)]
  apply bind_rounded
  intro b
  exact forceIf_rounded day b (region b) .individual (by decide) _

end Rounded

end Builder

end Questionnaire
