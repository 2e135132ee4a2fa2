import Questionnaire.Proofs.KeyEquality

/-!
# Cells are written once

A run is any sequence of writes and new members, from a fresh entity on. What a cell holds
at its end follows from the writes to that cell alone, in their order: the first value
stays, unless it is `null` or the rule of the variable lets a later one take its place.
-/

namespace Questionnaire

theorem Value.text?_congr {v w : Value} (h : (v == w) = true) : v.text? = w.text? := by
  cases w with
  | text s => rw [(Value.same_text v s).mp h]
  | _ =>
    cases v with
    | text s => exact absurd ((Value.text_same s _).mp h) (by simp)
    | _ => rfl

namespace Refinements

/-- Every rule answers, whatever the values. -/
def Total (rules : Refinements) : Prop :=
  ∀ name rule, Table.get? rules name = some rule → ∀ old new, ∃ b, rule old new = .ok b

/-- The rule of a variable lets the new value take the place of the old one. -/
def accepts (rules : Refinements) (name old new : Value) : Bool :=
  (name.text?.bind (Table.get? rules)).any fun rule =>
    match rule old new with
    | .ok b => b
    | .error _ => false

/-- Both values are there, and no rule lets the new one take the place of the old one. -/
def refuses (rules : Refinements) (name old new : Value) : Bool :=
  !old.isNull && !new.isNull && !rules.accepts name old new

/-- What a cell holds after a write. -/
def settled (rules : Refinements) (name current written : Value) : Value :=
  if current.isNull then written
  else if written.isNull then current
  else if rules.accepts name current written then written
  else current

theorem total_standard : standard.Total := by
  intro name rule h old new
  simp only [standard, Table.get?] at h
  split at h
  · cases h
    exact ⟨_, rfl⟩
  · cases h

theorem allows_of_total {rules : Refinements} (total : rules.Total) (name old new : Value) :
    rules.allows name old new = .ok (rules.accepts name old new) := by
  cases name with
  | text s =>
    cases hr : Table.get? rules s with
    | none => simp [allows, accepts, Value.text?, hr]
    | some rule =>
      obtain ⟨b, hb⟩ := total s rule hr old new
      simp [allows, accepts, Value.text?, hr, hb]
  | _ => rfl

theorem accepts_congr (rules : Refinements) {name other : Value}
    (h : (name == other) = true) (old new : Value) :
    rules.accepts name old new = rules.accepts other old new := by
  simp only [accepts, Value.text?_congr h]

theorem settled_congr (rules : Refinements) {name other : Value}
    (h : (name == other) = true) (current written : Value) :
    rules.settled name current written = rules.settled other current written := by
  simp only [settled, accepts_congr rules h]

theorem settled_of_refuses {rules : Refinements} {name current written : Value}
    (h : rules.refuses name current written = true) :
    rules.settled name current written = current := by
  simp only [refuses, Bool.and_eq_true, Bool.not_eq_true'] at h
  simp [settled, h]

end Refinements

namespace EntityLayout

/-- The name of a list of members is no variable. -/
def hasMembers (layout : EntityLayout) (name : Value) : Bool :=
  name.text?.any layout.memberFields.contains

theorem hasMembers_congr (layout : EntityLayout) {name other : Value}
    (h : (name == other) = true) : layout.hasMembers name = layout.hasMembers other := by
  simp only [hasMembers, Value.text?_congr h]

end EntityLayout

namespace Entity

/-- The lists of members are those of the layout. -/
def MembersOfLayout (e : Entity) : Prop :=
  ∀ field, Table.contains e.members field = e.layout.memberFields.contains field

theorem isMemberList_eq {e : Entity} (h : e.MembersOfLayout) (name : Value) :
    e.isMemberList name = e.layout.hasMembers name := by
  cases name with
  | text s => exact h s
  | _ => rfl

theorem membersOfLayout_fresh (layout : EntityLayout) (individual : String)
    (rules : Refinements) : (fresh layout individual rules).MembersOfLayout := by
  intro field
  simp only [fresh]
  induction layout.memberFields with
  | nil => rfl
  | cons first rest ih =>
    by_cases h : first = field
    · subst h
      simp [Table.contains, Table.get?]
    · have hne : (first == field) = false := by simpa using h
      have hne' : (field == first) = false := by simpa using fun e => h e.symm
      simp only [List.map_cons, Table.contains, Table.get?, hne, List.contains_cons, hne',
        Bool.false_or, Bool.false_eq_true, if_false]
      exact ih

theorem membersOfLayout_ofKind (kind : EntityKind) : (ofKind kind).MembersOfLayout :=
  membersOfLayout_fresh _ _ _

theorem total_ofKind (kind : EntityKind) : (ofKind kind).refinements.Total :=
  Refinements.total_standard

/-- A write records one value and leaves the other cells. -/
theorem value_put (e : Entity) (written : Value) (at' : String) (v : Value) {name : Value}
    (hk : name.isKey = true) (period : String) :
    (e.put written at' v).value name period =
      if (written == name) = true ∧ at' = period then v else e.value name period := by
  by_cases hn : (written == name) = true
  · by_cases hp : at' = period
    · subst hp
      simp [value, put, Table.get?_put_key _ _ _ hk, hn, Table.get?_put_string]
    · simp only [value, put, Table.get?_put_key _ _ _ hk, hn, if_true, hp, and_false,
        if_false, Option.bind_some, Table.get?_put_string]
      rw [Table.get?_congr _ hk hn]
      cases Table.get? e.values name with
      | none => rfl
      | some cells => rfl
  · simp [value, put, Table.get?_put_key _ _ _ hk, hn]

theorem hasVariable_put (e : Entity) (written : Value) (period : String) (v : Value)
    {name : Value} (hk : name.isKey = true) :
    (e.put written period v).hasVariable name = ((written == name) ||
      e.hasVariable name) := by
  by_cases hn : (written == name) = true
  · simp [hasVariable, Table.contains, put, Table.get?_put_key _ _ _ hk, hn]
  · simp [hasVariable, Table.contains, put, Table.get?_put_key _ _ _ hk, hn]

theorem hasVariable_of_value {e : Entity} {name : Value} {period : String}
    (h : (e.value name period).isNull = false) : e.hasVariable name = true := by
  cases hv : Table.get? e.values name with
  | none => simp [value, hv, Value.isNull] at h
  | some cells => simp [hasVariable, Table.contains, hv]

/-- What a write that does not fail leaves: the entity as it was, with the value, or with
one more error. -/
theorem write_ok {e next : Entity} {name value : Value} {period answerKey : String}
    {refused : Option BuildError}
    (h : e.write name value period answerKey = .ok (next, refused)) :
    (next = e ∧ refused = none) ∨ (next = e.put name period value ∧ refused = none) ∨
      ∃ error, next = { e with errors := e.errors ++ [error] } ∧ refused = some error := by
  unfold write at h
  split at h
  · cases h
    exact Or.inl ⟨rfl, rfl⟩
  · dsimp only at h
    split at h
    · cases h
      exact Or.inr (Or.inl ⟨rfl, rfl⟩)
    · split at h
      · cases h
        exact Or.inl ⟨rfl, rfl⟩
      · split at h
        · cases h
        · cases h
          exact Or.inr (Or.inl ⟨rfl, rfl⟩)
        · cases h
          exact Or.inr (Or.inr ⟨_, rfl, rfl⟩)

/-- The ways a write can go. -/
theorem write_cases {e : Entity} (total : e.refinements.Total) (name value : Value)
    (period answerKey : String) :
    (e.isMemberList name = true ∧ e.write name value period answerKey = .ok (e, none)) ∨
    (e.isMemberList name = false ∧
      e.refinements.refuses name (e.value name period) value = true ∧
      e.write name value period answerKey =
        .ok
          ({ e with
              errors := e.errors ++
                [refusal name (e.value name period) value period answerKey] },
          some (refusal name (e.value name period) value period answerKey))) ∨
    (e.isMemberList name = false ∧
      e.refinements.refuses name (e.value name period) value = false ∧
      e.refinements.settled name (e.value name period) value = value ∧
      e.write name value period answerKey = .ok (e.put name period value, none)) ∨
    (e.isMemberList name = false ∧ (e.value name period).isNull = false ∧
      value.isNull = true ∧ e.write name value period answerKey = .ok (e, none)) := by
  cases hm : e.isMemberList name with
  | true => exact Or.inl ⟨rfl, by simp [write, hm]⟩
  | false =>
    right
    by_cases hold : (e.value name period).isNull = true
    · right
      left
      exact ⟨rfl, by simp [Refinements.refuses, hold], by simp [Refinements.settled, hold],
        by simp [write, hm, hold]⟩
    · have hold : (e.value name period).isNull = false := by simpa using hold
      by_cases hnew : value.isNull = true
      · right
        right
        exact ⟨rfl, hold, hnew, by simp [write, hm, hold, hnew]⟩
      · have hnew : value.isNull = false := by simpa using hnew
        have rule := Refinements.allows_of_total total name (e.value name period) value
        cases hacc : e.refinements.accepts name (e.value name period) value with
        | true =>
          right
          left
          exact ⟨rfl, by simp [Refinements.refuses, hacc],
            by simp [Refinements.settled, hold, hnew, hacc],
            by simp [write, hm, hold, hnew, rule, hacc]⟩
        | false =>
          left
          exact ⟨rfl, by simp [Refinements.refuses, hold, hnew, hacc],
            by simp [write, hm, hold, hnew, rule, hacc]⟩

/-- What can be asked of an entity. -/
inductive Call where
  | write (name value : Value) (period answerKey : String)
  | addMember (field id : String)

namespace Call

/-- The value that a call writes to a cell, if it is a write to that cell. -/
def valueFor (name : Value) (period : String) : Call → Option Value
  | .write written value at' _ =>
      if (written == name) = true ∧ at' = period then some value else none
  | .addMember _ _ => none

/-- The call is a write to some cell of the variable. -/
def writes (name : Value) : Call → Bool
  | .write written _ _ _ => written == name
  | .addMember _ _ => false

end Call

/-- The entity after a call, and what the call returns. A call that fails changes nothing. -/
def call (e : Entity) : Call → Entity × Except Failure (Option BuildError)
  | .write name value period answerKey =>
      match e.write name value period answerKey with
      | .ok (next, refused) => (next, .ok refused)
      | .error failure => (e, .error failure)
  | .addMember field id =>
      match e.addMember field id with
      | .ok next => (next, .ok none)
      | .error failure => (e, .error failure)

/-- The entity after calls one after the other. -/
def run (e : Entity) : List Call → Entity
  | [] => e
  | c :: rest => run (e.call c).1 rest

/-- What the calls return, in their order. -/
def replies (e : Entity) : List Call → List (Except Failure (Option BuildError))
  | [] => []
  | c :: rest => (e.call c).2 :: replies (e.call c).1 rest

/-- The build error that a call returns. -/
def returned : Except Failure (Option BuildError) → Option BuildError
  | .ok refused => refused
  | .error _ => none

/-- What no call changes: the layout, the rules, and which names are lists of members. -/
structure Keeps (e next : Entity) : Prop where
  layout : next.layout = e.layout
  refinements : next.refinements = e.refinements
  members : ∀ field, Table.contains next.members field = Table.contains e.members field

theorem Keeps.refl (e : Entity) : Keeps e e := ⟨rfl, rfl, fun _ => rfl⟩

theorem Keeps.trans {e next last : Entity} (h : Keeps e next) (h' : Keeps next last) :
    Keeps e last :=
  ⟨h'.layout.trans h.layout, h'.refinements.trans h.refinements,
    fun field => (h'.members field).trans (h.members field)⟩

theorem Keeps.membersOfLayout {e next : Entity} (h : Keeps e next)
    (hm : e.MembersOfLayout) : next.MembersOfLayout := by
  intro field
  rw [h.members, h.layout]
  exact hm field

theorem Keeps.total {e next : Entity} (h : Keeps e next) (total : e.refinements.Total) :
    next.refinements.Total := by
  rw [h.refinements]
  exact total

theorem addMember_cases (e : Entity) (field id : String) :
    (∃ failure, e.addMember field id = .error failure) ∨
    ∃ next, e.addMember field id = .ok next ∧ Keeps e next ∧ next.values = e.values ∧
      next.errors = e.errors := by
  cases hf : Table.get? e.members field with
  | none =>
    exact Or.inl ⟨.notMemberList (.text field) e.layout.kind, by simp only [addMember, hf]⟩
  | some ids =>
    right
    cases hc : ids.contains id with
    | true => exact ⟨e, by simp only [addMember, hf, hc, if_true], .refl e, rfl, rfl⟩
    | false =>
      refine ⟨{ e with members := Table.put e.members field (ids ++ [id]) }, by
        simp only [addMember, hf, hc, Bool.false_eq_true, if_false],
          ⟨rfl, rfl, ?_⟩, rfl, rfl⟩
      intro other
      simp only [Table.contains, Table.get?_put_string]
      split
      · rename_i h
        subst h
        simp [hf]
      · rfl

theorem call_keeps {e : Entity} (total : e.refinements.Total) (c : Call) :
    Keeps e (e.call c).1 := by
  cases c with
  | write name value period answerKey =>
    rcases write_cases total name value period answerKey with
      ⟨_, h⟩ | ⟨_, _, h⟩ | ⟨_, _, _, h⟩ | ⟨_, _, _, h⟩ <;>
      exact ⟨by simp [call, h, put], by simp [call, h, put], by simp [call, h, put]⟩
  | addMember field id =>
    rcases addMember_cases e field id with ⟨failure, h⟩ | ⟨next, h, keeps, _⟩
    · simpa only [call, h] using Keeps.refl e
    · simpa only [call, h] using keeps

/-- A call leaves the values as they are, or it records the one that it writes. -/
theorem call_values {e : Entity} (total : e.refinements.Total) (c : Call) :
    (e.call c).1.values = e.values ∨
    ∃ name value period answerKey, c = .write name value period answerKey ∧
      (e.call c).1 = e.put name period value := by
  cases c with
  | addMember field id =>
    left
    rcases addMember_cases e field id with ⟨failure, h⟩ | ⟨next, h, _, values, _⟩
    · simp only [call, h]
    · simp only [call, h, values]
  | write name value period answerKey =>
    rcases write_cases total name value period answerKey with
      ⟨_, h⟩ | ⟨_, _, h⟩ | ⟨_, _, _, h⟩ | ⟨_, _, _, h⟩
    · exact Or.inl (by simp only [call, h])
    · exact Or.inl (by simp only [call, h])
    · exact Or.inr ⟨name, value, period, answerKey, rfl, by simp only [call, h]⟩
    · exact Or.inl (by simp only [call, h])

/-- One call on one cell: a write to it settles what it holds, and no other call changes it. -/
theorem call_value {e : Entity} (total : e.refinements.Total) (hm : e.MembersOfLayout)
    (c : Call) {name : Value} (hk : name.isKey = true)
    (free : e.layout.hasMembers name = false) (period : String) :
    (e.call c).1.value name period =
      (c.valueFor name period).elim (e.value name period)
        (e.refinements.settled name (e.value name period)) := by
  cases c with
  | addMember field id =>
    rcases addMember_cases e field id with ⟨failure, h⟩ | ⟨next, h, _, values, _⟩
    · simp [call, h, Call.valueFor]
    · simp [call, h, Call.valueFor, value, values]
  | write written v at' answerKey =>
    by_cases here : (written == name) = true ∧ at' = period
    · obtain ⟨hn, rfl⟩ := here
      have same : e.value written at' = e.value name at' := by
        simp only [value, Table.get?_congr _ hk hn]
      have hf : e.isMemberList written = false := by
        rw [isMemberList_eq hm, EntityLayout.hasMembers_congr _ hn, free]
      simp only [Call.valueFor, hn, and_self, if_true, Option.elim_some]
      rw [← Refinements.settled_congr e.refinements hn]
      rcases write_cases total written v at' answerKey with
        ⟨h, _⟩ | ⟨_, refused, h⟩ | ⟨_, _, taken, h⟩ | ⟨_, hold, probe, h⟩
      · rw [hf] at h
        cases h
      · rw [same] at refused
        rw [Refinements.settled_of_refuses refused]
        simp [call, h, value]
      · rw [same] at taken
        rw [taken]
        simp [call, h, value_put e written at' v hk, hn]
      · rw [same] at hold
        simp [call, h, Refinements.settled, hold, probe]
    · simp only [Call.valueFor, here, if_false, Option.elim_none]
      rcases write_cases total written v at' answerKey with
        ⟨_, h⟩ | ⟨_, _, h⟩ | ⟨_, _, _, h⟩ | ⟨_, _, _, h⟩
      · simp [call, h]
      · simp [call, h, value]
      · simp [call, h, value_put e written at' v hk, here]
      · simp [call, h]

theorem call_hasVariable {e : Entity} (total : e.refinements.Total) (hm : e.MembersOfLayout)
    (c : Call) {name : Value} (hk : name.isKey = true)
    (free : e.layout.hasMembers name = false) :
    (e.call c).1.hasVariable name = (e.hasVariable name || c.writes name) := by
  cases c with
  | addMember field id =>
    rcases addMember_cases e field id with ⟨failure, h⟩ | ⟨next, h, _, values, _⟩
    · simp [call, h, Call.writes]
    · simp [call, h, Call.writes, hasVariable, values]
  | write written v at' answerKey =>
    -- a cell that holds a value belongs to a variable that is there, so only the write that
    -- is taken counts
    have there : (e.value written at').isNull = false → (written == name) = true →
        e.hasVariable name = true := by
      intro hold hn
      have h := hasVariable_of_value hold
      simpa only [hasVariable, Table.contains, Table.get?_congr _ hk hn] using h
    have free' : (written == name) = true → e.isMemberList written = false := by
      intro hn
      rw [isMemberList_eq hm, EntityLayout.hasMembers_congr _ hn, free]
    rcases write_cases total written v at' answerKey with
      ⟨member, h⟩ | ⟨_, refused, h⟩ | ⟨_, _, _, h⟩ | ⟨_, hold, _, h⟩
    · cases hn : written == name with
      | true => rw [free' hn] at member; cases member
      | false => simp [call, h, Call.writes, hn]
    · have hold : (e.value written at').isNull = false := by
        simp only [Refinements.refuses, Bool.and_eq_true, Bool.not_eq_true'] at refused
        exact refused.1.1
      cases hn : written == name with
      | true => simpa [call, h, Call.writes, hn, hasVariable] using there hold hn
      | false => simp [call, h, Call.writes, hn, hasVariable]
    · simp [call, h, Call.writes, hasVariable_put e written at' v hk, Bool.or_comm]
    · cases hn : written == name with
      | true => simp [call, h, Call.writes, hn, there hold hn]
      | false => simp [call, h, Call.writes, hn]

/-- The errors of an entity are those that its calls return. -/
theorem call_errors {e : Entity} (total : e.refinements.Total) (c : Call) :
    (e.call c).1.errors = e.errors ++ (returned (e.call c).2).toList := by
  cases c with
  | addMember field id =>
    rcases addMember_cases e field id with ⟨failure, h⟩ | ⟨next, h, _, _, errors⟩
    · simp [call, h, returned]
    · simp [call, h, returned, errors]
  | write name value period answerKey =>
    rcases write_cases total name value period answerKey with
      ⟨_, h⟩ | ⟨_, _, h⟩ | ⟨_, _, _, h⟩ | ⟨_, _, _, h⟩ <;>
      simp [call, h, returned, put]

/-- A write is refused exactly if both values are there and no rule accepts the new one. -/
theorem call_write_refused {e : Entity} (total : e.refinements.Total) {name : Value}
    (free : e.isMemberList name = false) {value : Value} {period : String}
    (answerKey : String)
    (h : e.refinements.refuses name (e.value name period) value = true) :
    e.call (.write name value period answerKey) =
      ({ e with
          errors := e.errors ++ [refusal name (e.value name period) value period answerKey] },
        .ok (some (refusal name (e.value name period) value period answerKey))) := by
  rcases write_cases total name value period answerKey with
    ⟨hm, _⟩ | ⟨_, _, hw⟩ | ⟨_, accepted, _⟩ | ⟨_, _, probe, _⟩
  · rw [free] at hm
    cases hm
  · simp only [call, hw]
  · rw [h] at accepted
    cases accepted
  · simp [Refinements.refuses, probe] at h

theorem call_write_taken {e : Entity} (total : e.refinements.Total) {name value : Value}
    {period : String} (answerKey : String)
    (h : e.refinements.refuses name (e.value name period) value = false) :
    (e.call (.write name value period answerKey)).2 = .ok none := by
  rcases write_cases total name value period answerKey with
    ⟨_, hw⟩ | ⟨_, refused, _⟩ | ⟨_, _, _, hw⟩ | ⟨_, _, _, hw⟩
  · simp only [call, hw]
  · rw [h] at refused
    cases refused
  · simp only [call, hw]
  · simp only [call, hw]

theorem run_keeps {e : Entity} (total : e.refinements.Total) (calls : List Call) :
    Keeps e (e.run calls) := by
  induction calls generalizing e with
  | nil => exact .refl e
  | cons c rest ih =>
    have step := call_keeps total c
    exact step.trans (ih (step.total total))

/-- A cell at the end of a run is settled by the writes to it, in their order. -/
theorem run_value {e : Entity} (total : e.refinements.Total) (hm : e.MembersOfLayout)
    (calls : List Call) {name : Value} (hk : name.isKey = true)
    (free : e.layout.hasMembers name = false) (period : String) :
    (e.run calls).value name period =
      (calls.filterMap (Call.valueFor name period)).foldl (e.refinements.settled name)
        (e.value name period) := by
  induction calls generalizing e with
  | nil => rfl
  | cons c rest ih =>
    have step := call_keeps total c
    have free' : (e.call c).1.layout.hasMembers name = false := by
      rw [step.layout]
      exact free
    rw [run, ih (step.total total) (step.membersOfLayout hm) free', step.refinements,
      call_value total hm c hk free]
    cases hc : c.valueFor name period with
    | none => simp [hc]
    | some v => simp [hc]

theorem run_hasVariable {e : Entity} (total : e.refinements.Total) (hm : e.MembersOfLayout)
    (calls : List Call) {name : Value} (hk : name.isKey = true)
    (free : e.layout.hasMembers name = false) :
    (e.run calls).hasVariable name = (e.hasVariable name ||
      calls.any (Call.writes name)) := by
  induction calls generalizing e with
  | nil => simp [run]
  | cons c rest ih =>
    have step := call_keeps total c
    have free' : (e.call c).1.layout.hasMembers name = false := by
      rw [step.layout]
      exact free
    rw [run, ih (step.total total) (step.membersOfLayout hm) free',
      call_hasVariable total hm c hk free]
    simp [Bool.or_assoc]

theorem run_errors {e : Entity} (total : e.refinements.Total) (calls : List Call) :
    (e.run calls).errors = e.errors ++ (e.replies calls).filterMap returned := by
  induction calls generalizing e with
  | nil => simp [run, replies]
  | cons c rest ih =>
    have step := call_keeps total c
    rw [run, ih (step.total total), call_errors total, replies]
    cases hr : returned (e.call c).2 with
    | none => simp [hr]
    | some error => simp [hr]

/-- Over any run from a fresh entity: a cell holds what the writes to it settle, in their
order; a variable is there once it has been written; a write is refused, with an error of
its own key and no other change, exactly if both values are there and no rule accepts the
new one; and the errors are those that the writes returned. -/
theorem run_writes_once (layout : EntityLayout) (individual : String) (rules : Refinements)
    (total : rules.Total) (calls : List Call) (name : Value) (hk : name.isKey = true)
    (free : layout.hasMembers name = false) (period : String) :
    let start := fresh layout individual rules
    let e := start.run calls
    e.value name period =
        (calls.filterMap (Call.valueFor name period)).foldl (rules.settled name) .null ∧
      (e.hasVariable name = true ↔ ∃ c ∈ calls, c.writes name = true) ∧
      (∀ value answerKey,
        let reply := e.call (.write name value period answerKey)
        (rules.refuses name (e.value name period) value = false → reply.2 = .ok none) ∧
        (rules.refuses name (e.value name period) value = true →
          ∃ error, reply.2 = .ok (some error) ∧ error.kind = .mappingError ∧
            error.answerKey = answerKey ∧
            reply.1.members = e.members ∧ reply.1.values = e.values)) ∧
      e.errors = (start.replies calls).filterMap returned := by
  intro start e
  have hm : start.MembersOfLayout := membersOfLayout_fresh layout individual rules
  have keeps : Keeps start e := run_keeps total calls
  have hr : e.refinements = rules := keeps.refinements
  have total' : e.refinements.Total := keeps.total total
  have free' : e.isMemberList name = false := by
    rw [isMemberList_eq (keeps.membersOfLayout hm), keeps.layout]
    exact free
  refine ⟨run_value total hm calls hk free period, ?_, ?_, ?_⟩
  · rw [run_hasVariable total hm calls hk free]
    simp [start, fresh, hasVariable, Table.contains, List.any_eq_true]
  · intro value answerKey reply
    constructor
    · intro h
      exact call_write_taken total' answerKey (by rw [hr]; exact h)
    · intro h
      have refused := call_write_refused total' free' answerKey (by rw [hr]; exact h)
      exact ⟨refusal name (e.value name period) value period answerKey, by
        simp only [reply, refused],
        rfl, rfl, by simp only [reply, refused], by simp only [reply, refused]⟩
  · exact run_errors total calls

/-- Someone who rents, then asks for the variable, then rents furnished, then claims to own. -/
def rentingCalls : List Call :=
  [.write (.text "statut_occupation_logement") (.text "locataire_vide") "2025-10"
      "situation-logement",
    .addMember "enfants" "enfant_1",
    .write (.text "loyer") (.int 600) "2025-10" "loyer-montant-mensuel",
    .write (.text "statut_occupation_logement") .null "2025-10" "logement",
    .write (.text "statut_occupation_logement") (.text "locataire_meuble") "2025-10"
      "type-logement",
    .addMember "parents" "usager",
    .write (.text "statut_occupation_logement") (.text "proprietaire") "2025-10"
      "proprietaire"]

theorem run_writes_once_renting :
    Refinements.standard.Total ∧ (Value.text "statut_occupation_logement").isKey = true ∧
      (EntityLayout.ofKind .household).hasMembers (.text "statut_occupation_logement") = false ∧
      let e := (fresh (.ofKind .household) "usager" .standard).run rentingCalls
      e.value (.text "statut_occupation_logement") "2025-10" = .text "locataire_meuble" ∧
        e.hasVariable (.text "statut_occupation_logement") = true ∧
        e.errors.map BuildError.answerKey = ["proprietaire"] := by
  have h :=
    run_writes_once (.ofKind .household) "usager" .standard Refinements.total_standard
      rentingCalls
    (.text "statut_occupation_logement") rfl rfl "2025-10"
  refine ⟨Refinements.total_standard, rfl, rfl, h.1.trans rfl, h.2.1.mpr ?_, ?_⟩
  · exact ⟨_, List.mem_cons_self, rfl⟩
  · rw [h.2.2.2]
    rfl

end Entity

end Questionnaire
