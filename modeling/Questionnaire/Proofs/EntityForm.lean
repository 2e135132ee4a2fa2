import Questionnaire.Proofs.Provenance
import Questionnaire.Proofs.Reordering

/-!
# The form of entities

An entity has the lists of members of its kind, in the order of the layout, without repeated
ids, those that are seeded with the individual in front; and variables under other names,
each with values by period. Writes, forced values and new members keep this form, or they
are refused and change nothing.
-/

namespace Questionnaire

namespace Value

/-- A value that a cell can hold. -/
def isCell (v : Value) : Bool := v.isNull || v.isScalar

theorem plain_of_isCell {v : Value} (h : v.isCell = true) : v.Plain True := by
  cases v with
  | null => exact .null
  | bool b => exact .bool b
  | int n => exact .int n
  | float x => exact .float x trivial
  | text s => exact .text s
  | _ => cases h

/-- A table with text keys, as the entries of a map. -/
def ofTable {α : Type} (t : Table String α) : Table Value α :=
  t.map fun entry => (.text entry.1, entry.2)

theorem get?_ofTable {α : Type} (t : Table String α) (s : String) :
    Table.get? (ofTable t) (.text s) = Table.get? t s := by
  rw [ofTable, Table.get?_map_text (fun a : α => a)]
  exact Option.map_id'

theorem put_ofTable {α : Type} (t : Table String α) (s : String) (a : α) :
    Table.put (ofTable t) (.text s) a = ofTable (Table.put t s a) := by
  induction t with
  | nil => rfl
  | cons entry rest ih =>
    obtain ⟨key, b⟩ := entry
    have text : (Value.text key == .text s) = (key == s) := by
      rw [Bool.eq_iff_iff, text_same, beq_iff_eq, Value.text.injEq, eq_comm]
    simp only [ofTable, List.map_cons, Table.put, text] at ih ⊢
    split
    · rfl
    · rw [ih, List.map_cons]

theorem map_fst_ofTable {α : Type} (t : Table String α) :
    (ofTable t).map Prod.fst = (Table.keys t).map .text := by
  rw [ofTable, Table.keys, List.map_map, List.map_map]
  rfl

end Value

theorem EntityLayout.hasMembers_text (layout : EntityLayout) (s : String) :
    layout.hasMembers (.text s) = false ↔ s ∉ layout.memberFields := by
  simp [hasMembers, Value.text?]

/-- Values by period: at least one, in distinct periods, each of which a cell can hold. -/
structure ByPeriod.IsVariable (cells : ByPeriod) : Prop where
  there : cells ≠ []
  periods : (Table.keys cells).Nodup
  values : ∀ cell ∈ cells, cell.2.isCell = true

theorem ByPeriod.isVariable_singleton (period : String) {v : Value}
    (cell : v.isCell = true) : IsVariable [(period, v)] := by
  refine ⟨List.cons_ne_nil _ _, List.nodup_singleton _, ?_⟩
  intro entry inside
  rw [List.mem_singleton.mp inside]
  exact cell

theorem ByPeriod.IsVariable.put {cells : ByPeriod} (h : cells.IsVariable) (period : String)
    {v : Value} (cell : v.isCell = true) : IsVariable (Table.put cells period v) := by
  refine ⟨?_, Table.nodup_keys_put h.periods period v, ?_⟩
  · intro none
    have found := Table.get?_put_self cells period v
    rw [none] at found
    cases found
  · rintro ⟨at', w⟩ inside
    rcases Table.mem_put inside with before | ⟨rfl, _⟩
    · exact h.values _ before
    · exact cell

/-- The lists of members and the variables of an entity of a layout. -/
structure EntityForm (layout : EntityLayout) (members : Table String (List String))
    (vars : Table String ByPeriod) : Prop where
  fields : Table.keys members = layout.memberFields
  ids : ∀ entry ∈ members, entry.2.Nodup
  seeded : ∀ entry ∈ members, entry.1 ∈ layout.seededFields →
    entry.2.head? = some EntityLayout.individualId
  distinct : (Table.keys vars).Nodup
  free : ∀ name ∈ Table.keys vars, name ∉ layout.memberFields
  cells : ∀ entry ∈ vars, entry.2.IsVariable

namespace EntityForm

variable {layout : EntityLayout} {members : Table String (List String)}
  {vars : Table String ByPeriod}

theorem contains_iff (h : EntityForm layout members vars) (field : String) :
    Table.contains members field = true ↔ field ∈ layout.memberFields := by
  rw [Table.contains_iff_mem_keys, h.fields]

/-- A variable under a name that is no list of members. -/
theorem put (h : EntityForm layout members vars) {name : String}
    (free : name ∉ layout.memberFields) {cells : ByPeriod} (isVariable : cells.IsVariable) :
    EntityForm layout members (Table.put vars name cells) := by
  refine ⟨h.fields, h.ids, h.seeded, Table.nodup_keys_put h.distinct name cells, ?_, ?_⟩
  · intro other inside
    rw [Table.keys_put] at inside
    split at inside
    · exact h.free other inside
    · rcases List.mem_append.mp inside with before | new
      · exact h.free other before
      · rw [List.mem_singleton.mp new]
        exact free
  · rintro ⟨other, values⟩ inside
    rcases Table.mem_put inside with before | ⟨rfl, _⟩
    · exact h.cells _ before
    · exact isVariable

/-- One more value of a variable. -/
theorem record (h : EntityForm layout members vars) {name : String}
    (free : name ∉ layout.memberFields) (period : String) {v : Value}
    (cell : v.isCell = true) :
    EntityForm layout members
      (Table.put vars name (Table.put ((Table.get? vars name).getD []) period v)) := by
  refine h.put free ?_
  cases found : Table.get? vars name with
  | none => exact ByPeriod.isVariable_singleton period cell
  | some cells =>
    obtain ⟨_, there, _⟩ := Table.mem_of_get? found
    exact (h.cells _ there).put period cell

/-- One more id in a list of members. -/
theorem addMember (h : EntityForm layout members vars) {field id : String}
    {ids : List String} (found : Table.get? members field = some ids) (new : id ∉ ids) :
    EntityForm layout (Table.put members field (ids ++ [id])) vars := by
  obtain ⟨key, there, same⟩ := Table.mem_of_get? found
  rw [beq_iff_eq.mp same] at there
  have known : Table.contains members field = true := by rw [Table.contains, found]; rfl
  refine ⟨?_, ?_, ?_, h.distinct, h.free, h.cells⟩
  · rw [Table.keys_put, if_pos known, h.fields]
  · rintro ⟨other, others⟩ inside
    rcases Table.mem_put inside with before | ⟨rfl, _⟩
    · exact h.ids _ before
    · refine List.nodup_append.mpr ⟨h.ids _ there, List.nodup_singleton id, ?_⟩
      intro first listed second last equal
      rw [List.mem_singleton.mp last] at equal
      exact new (equal ▸ listed)
  · rintro ⟨other, others⟩ inside seeded
    rcases Table.mem_put inside with before | ⟨rfl, ⟨_, _, _, equal⟩ | ⟨absent, _⟩⟩
    · exact h.seeded _ before seeded
    · have field : other = field := beq_iff_eq.mp equal
      subst field
      rw [List.head?_append, h.seeded _ there seeded]
      rfl
    · rw [found] at absent
      cases absent

/-- The entries of an entity in a request: its lists of members, then its variables. -/
def entries (members : Table String (List String)) (vars : Table String ByPeriod) :
    List (Value × Value) :=
  members.map (fun entry => (.text entry.1, .list (entry.2.map .text)))
    ++ vars.map fun entry => (.text entry.1, Entity.ofPeriods entry.2)

theorem map_fst_entries (members : Table String (List String))
    (vars : Table String ByPeriod) :
    (entries members vars).map Prod.fst = (Table.keys members ++ Table.keys vars).map .text := by
  simp [entries, Table.keys, Function.comp_def]

theorem plain_ofPeriods {cells : ByPeriod} (h : cells.IsVariable) :
    (Entity.ofPeriods cells).Plain True := by
  refine .map ?_ ?_ ?_
  · intro entry inside
    obtain ⟨cell, _, rfl⟩ := List.mem_map.mp inside
    rfl
  · have keys := Value.map_fst_ofTable cells
    rw [Value.ofTable] at keys
    rw [keys]
    exact h.periods.map fun _ _ => Value.text.inj
  · intro entry inside
    obtain ⟨cell, there, rfl⟩ := List.mem_map.mp inside
    exact Value.plain_of_isCell (h.values cell there)

/-- Such an entity can be written in a document. -/
theorem plain_entries (h : EntityForm layout members vars)
    (fields : layout.memberFields.Nodup) :
    (Value.map (entries members vars)).Plain True := by
  refine .map ?_ ?_ ?_
  · intro entry inside
    rcases List.mem_append.mp inside with inside | inside <;>
      obtain ⟨_, _, rfl⟩ := List.mem_map.mp inside <;> rfl
  · rw [map_fst_entries, h.fields]
    refine List.Nodup.map (fun _ _ => Value.text.inj) (List.nodup_append.mpr ⟨fields,
      h.distinct, ?_⟩)
    intro field listed name held same
    exact h.free name held (same ▸ listed)
  · intro entry inside
    rcases List.mem_append.mp inside with inside | inside
    · obtain ⟨list, _, rfl⟩ := List.mem_map.mp inside
      refine .list ?_
      intro v inside
      obtain ⟨id, _, rfl⟩ := List.mem_map.mp inside
      exact .text id
    · obtain ⟨held, there, rfl⟩ := List.mem_map.mp inside
      exact plain_ofPeriods (h.cells held there)

end EntityForm

namespace Entity

/-- The entity of a kind has the form of its layout. -/
def Formed (kind : EntityKind) (e : Entity) : Prop :=
  e.layout = .ofKind kind ∧
    ∃ vars, e.values = Value.ofTable vars ∧ EntityForm (.ofKind kind) e.members vars

theorem formed_ofKind (kind : EntityKind) : (ofKind kind).Formed kind := by
  refine ⟨rfl, [], rfl, ?_⟩
  constructor
  · cases kind <;> rfl
  · cases kind <;> decide
  · cases kind <;> decide
  · exact List.nodup_nil
  · intro name inside
    cases inside
  · intro entry inside
    cases inside

namespace Formed

variable {kind : EntityKind} {e : Entity}

theorem toValue_eq (h : e.Formed kind) :
    ∃ vars, e.toValue = .map (EntityForm.entries e.members vars) ∧
      EntityForm (.ofKind kind) e.members vars := by
  obtain ⟨_, vars, values, form⟩ := h
  refine ⟨vars, ?_, form⟩
  rw [toValue, EntityForm.entries, values, Value.ofTable, List.map_map]
  rfl

theorem isMemberList_eq (h : e.Formed kind) (name : Value) :
    e.isMemberList name = (EntityLayout.ofKind kind).hasMembers name := by
  obtain ⟨layout, vars, _, form⟩ := h
  have members : e.MembersOfLayout := by
    intro field
    rw [Bool.eq_iff_iff, form.contains_iff, layout, List.contains_iff_mem]
  rw [Entity.isMemberList_eq members, layout]

theorem put (h : e.Formed kind) {name : String}
    (free : (EntityLayout.ofKind kind).hasMembers (.text name) = false) (period : String)
    {v : Value} (cell : v.isCell = true) : (e.put (.text name) period v).Formed kind := by
  obtain ⟨layout, vars, values, form⟩ := h
  refine ⟨layout, _, ?_, form.record ((EntityLayout.hasMembers_text _ name).mp free) period cell⟩
  rw [Entity.put, values, Value.get?_ofTable, Value.put_ofTable]

/-- Whatever becomes of a write, the form is kept. -/
theorem write (h : e.Formed kind) {name : String} {v : Value} (cell : v.isCell = true)
    {period answerKey : String} {next : Entity} {refused : Option BuildError}
    (written : e.write (.text name) v period answerKey = .ok (next, refused)) :
    next.Formed kind := by
  cases member : e.isMemberList (.text name) with
  | true =>
    rw [Entity.write, if_pos member] at written
    cases written
    exact h
  | false =>
    rw [h.isMemberList_eq] at member
    rcases write_ok written with ⟨rfl, _⟩ | ⟨rfl, _⟩ | ⟨error, rfl, _⟩
    · exact h
    · exact h.put member period cell
    · exact h

theorem addMember (h : e.Formed kind) {field id : String} {next : Entity}
    (added : e.addMember field id = .ok next) : next.Formed kind := by
  unfold Entity.addMember at added
  split at added
  · cases added
  · rename_i ids found
    cases added
    split
    · exact h
    · rename_i new
      obtain ⟨layout, vars, values, form⟩ := h
      exact ⟨layout, vars, values, form.addMember found (by simpa using new)⟩

/-- A new member of anything but a list of members is refused. -/
theorem addMember_refused (h : e.Formed kind) {field : String}
    (unknown : field ∉ (EntityLayout.ofKind kind).memberFields) (id : String) :
    e.addMember field id = .error (.notMemberList (.text field) kind) := by
  obtain ⟨layout, vars, _, form⟩ := h
  have absent : Table.get? e.members field = none := by
    rw [← Option.not_isSome_iff_eq_none]
    exact fun there => unknown ((form.contains_iff field).mp there)
  have kind_eq : e.layout.kind = kind := by
    rw [layout]
    cases kind <;> rfl
  rw [Entity.addMember, absent, kind_eq]

theorem replace (h : e.Formed kind) {name : String}
    (free : (EntityLayout.ofKind kind).hasMembers (.text name) = false) {v : Value}
    (cell : v.isCell = true) (period : String) :
    ∃ next, e.replace (.text name) v period = .ok next ∧ next.Formed kind := by
  have member := (h.isMemberList_eq (.text name)).trans free
  obtain ⟨layout, vars, values, form⟩ := h
  refine ⟨{ e with values := Table.put e.values (.text name) [(period, v)] }, ?_, layout,
    Table.put vars name [(period, v)], ?_,
      form.put ?_ (ByPeriod.isVariable_singleton period cell)⟩
  · rw [Entity.replace, member]
    rfl
  · rw [values, Value.put_ofTable]
  · exact (EntityLayout.hasMembers_text _ name).mp free

/-- A list of members is not replaced. -/
theorem replace_refused (h : e.Formed kind) {name : Value}
    (member : (EntityLayout.ofKind kind).hasMembers name = true) (v : Value)
    (period : String) : e.replace name v period = .error (.memberList name kind) := by
  have kind_eq : e.layout.kind = kind := by
    rw [h.1]
    cases kind <;> rfl
  rw [Entity.replace, h.isMemberList_eq, if_pos member, kind_eq]

end Formed

end Entity

end Questionnaire
