import Questionnaire.Proofs.Effect

/-!
# Reading a request

A request is a map of kinds, each with a map of one entity, which maps names to lists of
members and to variables by period. What can be read from the request of a builder is what
its entities hold.
-/

namespace Questionnaire

namespace Table

variable {κ α β : Type}

theorem get?_append [BEq κ] (first rest : Table κ α) (k : κ) :
    get? (first ++ rest : List (κ × α)) k = (get? first k).or (get? rest k) := by
  induction first with
  | nil => simp
  | cons entry tail ih =>
    obtain ⟨key, a⟩ := entry
    by_cases h : (key == k) = true
    · simp [get?, h]
    · simp [get?, h, ih]

theorem get?_map [BEq κ] (f : α → β) (t : Table κ α) (k : κ) :
    get? (t.map fun entry => (entry.1, f entry.2)) k = (get? t k).map f := by
  induction t with
  | nil => rfl
  | cons entry tail ih =>
    obtain ⟨key, a⟩ := entry
    by_cases h : (key == k) = true
    · simp [get?, h]
    · simp [get?, h, ih]

/-- A table of texts, read at a value. -/
theorem get?_map_text (f : α → β) (t : Table String α) (name : Value) :
    get? (t.map fun entry => (Value.text entry.1, f entry.2)) name =
      (name.text?.bind (get? t)).map f := by
  induction t with
  | nil => cases name <;> rfl
  | cons entry tail ih =>
    obtain ⟨key, a⟩ := entry
    by_cases h : (Value.text key == name) = true
    · have hn := (Value.text_same key name).mp h
      subst hn
      simp [get?, h, Value.text?]
    · simp only [List.map_cons, get?, h, Bool.false_eq_true, if_false, ih]
      cases name with
      | text s =>
        have hs : key ≠ s := by
          intro e
          subst e
          exact h ((Value.text_same key _).mpr rfl)
        simp [Value.text?, hs]
      | _ => rfl

end Table

/-- The entry of a map at a key. -/
def Value.lookup? (v key : Value) : Option Value :=
  match v with
  | .map entries => Table.get? (entries : Table Value Value) key
  | _ => none

/-- The entries of a map whose keys are texts. -/
def Value.byPeriod? : Value → Option (Table String Value)
  | .map entries => some (entries.filterMap fun entry => entry.1.text?.map (·, entry.2))
  | _ => none

namespace Request

/-- The kinds of a request with the ids of their entities. -/
def entities : Value → List (Value × List Value)
  | .map kinds => kinds.map fun entry =>
      (entry.1, match entry.2 with | .map ids => ids.map Prod.fst | _ => [])
  | _ => []

/-- The entity of a kind. -/
def entity? (request : Value) (kind : EntityKind) : Option Value :=
  (request.lookup? (.text kind.name)).bind (·.lookup? (.text (EntityLayout.ofKind kind).id))

/-- What a request holds under a name: the ids of a list of members, or the values of a
variable by period. -/
def values? (request : Value) (kind : EntityKind) (name : Value) : Option Value :=
  (entity? request kind).bind (·.lookup? name)

/-- What a request holds for a variable in a period. -/
def cell? (request : Value) (kind : EntityKind) (name : Value) (period : String) :
    Option Value :=
  (values? request kind name).bind (·.lookup? (.text period))

/-- All cells of the variables of a kind. -/
def cells (request : Value) (kind : EntityKind) : List Builder.Cell :=
  match entity? request kind with
  | some (.map entries) =>
    Builder.cells (entries.filterMap fun entry => entry.2.byPeriod?.map (entry.1, ·))
  | _ => []

end Request

namespace Entity

/-- The values of a variable by period, as a value. -/
def ofPeriods (cells : ByPeriod) : Value :=
  .map (cells.map fun entry => (.text entry.1, entry.2))

/-- The value of a cell, if there is one; `null` asks the engine for it. -/
def cell? (e : Entity) (name : Value) (period : String) : Option Value :=
  (Table.get? e.values name).bind fun cells => Table.get? cells period

theorem value_eq_cell? (e : Entity) (name : Value) (period : String) :
    e.value name period = (e.cell? name period).getD .null := rfl

theorem lookup?_toValue (e : Entity) (name : Value) :
    e.toValue.lookup? name =
      ((name.text?.bind (Table.get? e.members)).map fun ids => .list (ids.map .text)).or
        ((Table.get? e.values name).map ofPeriods) := by
  have members := Table.get?_map_text (fun ids => Value.list (ids.map .text)) e.members name
  have values := Table.get?_map ofPeriods e.values name
  rw [← members, ← values, ← Table.get?_append]
  rfl

theorem lookup?_ofPeriods (cells : ByPeriod) (period : String) :
    (ofPeriods cells).lookup? (.text period) = Table.get? cells period := by
  simp only [ofPeriods, Value.lookup?]
  rw [Table.get?_map_text (fun v => v) cells]
  simp [Value.text?]

theorem byPeriod?_ofPeriods (cells : ByPeriod) :
    (ofPeriods cells).byPeriod? = some cells := by
  simp only [ofPeriods, Value.byPeriod?, List.filterMap_map, Option.some.injEq]
  exact List.filterMap_some

end Entity

namespace Builder

/-- The entity of each kind has the layout of its kind, and its lists of members. -/
def WellFormed (b : Builder) : Prop :=
  ∀ kind, (b.entities.get kind).layout = .ofKind kind ∧
    (b.entities.get kind).MembersOfLayout

theorem entity?_request {b : Builder} (hb : b.WellFormed) (kind : EntityKind) :
    Request.entity? b.request kind = some (b.entities.get kind).toValue := by
  have id (kind : EntityKind) := congrArg EntityLayout.id (hb kind).1
  cases kind <;> simp [Request.entity?, request, PerKind.toList, EntityKind.all,
    Value.lookup?, id, Table.get?, EntityKind.name, Value.text_same]

theorem values?_request {b : Builder} (hb : b.WellFormed) (kind : EntityKind)
    (name : Value) :
    Request.values? b.request kind name = (b.entities.get kind).toValue.lookup? name := by
  rw [Request.values?, entity?_request hb, Option.bind_some]

theorem cells_request {b : Builder} (hb : b.WellFormed) (kind : EntityKind) :
    Request.cells b.request kind = cells (b.entities.get kind).values := by
  have members : (b.entities.get kind).members.filterMap ((fun entry : Value × Value =>
      entry.2.byPeriod?.map (entry.1, ·)) ∘ fun entry =>
        (.text entry.1, .list (entry.2.map .text))) = [] := by
    rw [List.filterMap_eq_nil_iff]
    intro entry _
    rfl
  have values : (b.entities.get kind).values.filterMap ((fun entry : Value × Value =>
      entry.2.byPeriod?.map (entry.1, ·)) ∘ fun entry =>
        (entry.1, Entity.ofPeriods entry.2)) =
        (b.entities.get kind).values := by
    simp only [Function.comp_def, Entity.byPeriod?_ofPeriods, Option.map_some]
    exact List.filterMap_some
  rw [Request.cells, entity?_request hb, Entity.toValue]
  simp only [List.filterMap_append, List.filterMap_map]
  rw [members, List.nil_append]
  exact congrArg cells values

theorem entities_request {b : Builder} (hb : b.WellFormed) :
    Request.entities b.request =
      EntityKind.all.map fun kind =>
        (.text kind.name, [.text (EntityLayout.ofKind kind).id]) := by
  simp [Request.entities, request, PerKind.toList, (hb _).1]

/-- A variable that is no list of members is read as its entity holds it. -/
theorem values?_request_of_free {b : Builder} (hb : b.WellFormed) {kind : EntityKind}
    {name : Value} (free : (EntityLayout.ofKind kind).hasMembers name = false) :
    Request.values? b.request kind name =
      (Table.get? (b.entities.get kind).values name).map Entity.ofPeriods := by
  have none : name.text?.bind (Table.get? (b.entities.get kind).members) = none := by
    cases name with
    | text s =>
      have h := (hb kind).2 s
      rw [(hb kind).1] at h
      have absent : Table.get? (b.entities.get kind).members s = none := by
        simpa [Table.contains] using h.trans free
      exact absent
    | _ => rfl
  rw [values?_request hb, Entity.lookup?_toValue, none]
  rfl

theorem cell?_request {b : Builder} (hb : b.WellFormed) {kind : EntityKind} {name : Value}
    (free : (EntityLayout.ofKind kind).hasMembers name = false) (period : String) :
    Request.cell? b.request kind name period = (b.entities.get kind).cell? name period := by
  rw [Request.cell?, values?_request_of_free hb free, Entity.cell?]
  cases Table.get? (b.entities.get kind).values name with
  | none => rfl
  | some cells => exact Entity.lookup?_ofPeriods cells period

theorem wellFormed_fresh (options : Options) (resolver : Resolver) (periods : Periods) :
    (fresh options resolver periods).WellFormed := by
  intro kind
  simp only [fresh, PerKind.get_ofFunction]
  exact ⟨rfl, Entity.membersOfLayout_fresh _ _ _⟩

end Builder

end Questionnaire
