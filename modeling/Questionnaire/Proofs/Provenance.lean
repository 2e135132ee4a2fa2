import Questionnaire.Proofs.Defaults

/-!
# Where values come from

Every cell of an entity was given by one of the calls that were made to it, and every write
that is planned belongs to an answer or to a probe. In the other direction, a value whose
write was not refused is still there at the end, but for the one value that a later one may
take the place of.
-/

namespace Questionnaire

namespace Table

variable {κ α : Type} [BEq κ]

/-- An entry after a write was there before, or it is the entry of the key that was written. -/
theorem mem_put {t : Table κ α} {j k : κ} {a b : α} (h : (k, b) ∈ put t j a) :
    (k, b) ∈ t ∨ b = a ∧
      ((∃ old, get? t j = some old ∧ (k, old) ∈ t ∧ (k == j) = true) ∨ get? t j = none ∧
        k = j) := by
  induction t with
  | nil =>
    simp only [put, List.mem_singleton, Prod.mk.injEq] at h
    exact Or.inr ⟨h.2, Or.inr ⟨rfl, h.1⟩⟩
  | cons entry rest ih =>
    obtain ⟨key, old⟩ := entry
    by_cases hkey : (key == j) = true
    · simp only [put, hkey, if_true, List.mem_cons, Prod.mk.injEq] at h
      rcases h with ⟨rfl, rfl⟩ | h
      · right
        refine ⟨rfl, Or.inl ⟨old, ?_, List.mem_cons_self, hkey⟩⟩
        simp only [get?, hkey, if_true]
      · exact Or.inl (List.mem_cons_of_mem _ h)
    · simp only [put, hkey, Bool.false_eq_true, if_false, List.mem_cons] at h
      rcases h with h | h
      · rw [h]
        exact Or.inl List.mem_cons_self
      · rcases ih h with h | ⟨rfl, ⟨old, found, there, same⟩ | ⟨absent, same⟩⟩
        · exact Or.inl (List.mem_cons_of_mem _ h)
        · right
          refine ⟨rfl, Or.inl ⟨old, ?_, List.mem_cons_of_mem _ there, same⟩⟩
          simp only [get?, hkey, Bool.false_eq_true, if_false, found]
        · right
          refine ⟨rfl, Or.inr ⟨?_, same⟩⟩
          simp only [get?, hkey, Bool.false_eq_true, if_false, absent]

theorem mem_of_get? {t : Table κ α} {k : κ} {a : α} (found : get? t k = some a) :
    ∃ key, (key, a) ∈ t ∧ (key == k) = true := by
  induction t with
  | nil => cases found
  | cons entry rest ih =>
    obtain ⟨key, b⟩ := entry
    by_cases h : (key == k) = true
    · simp only [get?, h, if_true, Option.some.injEq] at found
      subst found
      exact ⟨key, List.mem_cons_self, h⟩
    · simp only [get?, h, Bool.false_eq_true, if_false] at found
      obtain ⟨other, there, same⟩ := ih found
      exact ⟨other, List.mem_cons_of_mem _ there, same⟩

end Table

namespace Builder

theorem mem_cells {expansion : Expansion} {cell : Cell} :
    cell ∈ cells expansion ↔ ∃ periods, (cell.name, periods) ∈ expansion ∧
      (cell.period, cell.value) ∈ periods := by
  obtain ⟨name, period, value⟩ := cell
  constructor
  · intro h
    obtain ⟨⟨name', periods⟩, there, h⟩ := List.mem_flatMap.mp h
    obtain ⟨⟨period', value'⟩, inside, h⟩ := List.mem_map.mp h
    cases h
    exact ⟨periods, there, inside⟩
  · rintro ⟨periods, there, inside⟩
    exact List.mem_flatMap.mpr ⟨(name, periods), there, List.mem_map.mpr ⟨(period, value),
      inside, rfl⟩⟩

/-- A direct mapping gives the value to its variable in its period. -/
theorem expand_direct {periods : Periods} {key : String} {value name : Value}
    {type : PeriodType} {expansion : Expansion}
    (expanded : expand periods key value (.direct name type) = some (.ok expansion)) :
    ∃ period, periods.resolve type = .ok period ∧
      cells expansion = [⟨name, period, value⟩] := by
  cases resolved : periods.resolve type with
  | error failure => simp [expand, resolved, bind, Except.bind] at expanded
  | ok period =>
    cases named : name.isKey with
    | false => simp [expand, resolved, named, bind, Except.bind] at expanded
    | true =>
      simp only [expand, resolved, named, bind, Except.bind, if_true, pure, Except.pure,
        Option.some.injEq, Except.ok.injEq] at expanded
      subst expanded
      exact ⟨period, rfl, rfl⟩

/-- Only a name that can be a key is expanded. -/
theorem isKey_of_expand_direct {periods : Periods} {key : String} {value name : Value}
    {type : PeriodType} {expansion : Expansion}
    (expanded : expand periods key value (.direct name type) = some (.ok expansion)) :
    name.isKey = true := by
  cases resolved : periods.resolve type with
  | error failure => simp [expand, resolved, bind, Except.bind] at expanded
  | ok period =>
    cases named : name.isKey with
    | false => simp [expand, resolved, named, bind, Except.bind] at expanded
    | true => rfl

end Builder

namespace Entity

/-- The call writes the value of the cell, under its name or one that is the same. -/
def Call.Gives (c : Call) (cell : Builder.Cell) : Prop :=
  ∃ name answerKey, c = .write name cell.value cell.period answerKey ∧
    (cell.name = name ∨ (cell.name == name) = true)

theorem mem_cells_put {e : Entity} {name value : Value} {period : String}
    {cell : Builder.Cell} (h : cell ∈ Builder.cells (e.put name period value).values) :
    cell ∈ Builder.cells e.values ∨ cell.value = value ∧ cell.period = period ∧
      (cell.name = name ∨ (cell.name == name) = true) := by
  obtain ⟨periods, there, inside⟩ := Builder.mem_cells.mp h
  rcases Table.mem_put there with there | ⟨rfl, ⟨old, found, there, same⟩ | ⟨absent, same⟩⟩
  · exact Or.inl (Builder.mem_cells.mpr ⟨periods, there, inside⟩)
  · rw [found] at inside
    rcases Table.mem_put inside with inside | ⟨hv, ⟨_, _, _, hp⟩ | ⟨_, hp⟩⟩
    · exact Or.inl (Builder.mem_cells.mpr ⟨old, there, inside⟩)
    · exact Or.inr ⟨hv, beq_iff_eq.mp hp, Or.inr same⟩
    · exact Or.inr ⟨hv, hp, Or.inr same⟩
  · rw [absent] at inside
    simp only [Option.getD_none, Table.put, List.mem_singleton, Prod.mk.injEq] at inside
    exact Or.inr ⟨inside.2, inside.1, Or.inl same⟩

/-- Each cell was there before the call or is given by it. -/
theorem mem_cells_call {e : Entity} (total : e.refinements.Total) {c : Call}
    {cell : Builder.Cell} (h : cell ∈ Builder.cells (e.call c).1.values) :
    cell ∈ Builder.cells e.values ∨ c.Gives cell := by
  rcases call_values total c with values | ⟨name, value, period, answerKey, rfl, after⟩
  · rw [values] at h
    exact Or.inl h
  · rw [after] at h
    rcases mem_cells_put h with h | ⟨rfl, rfl, same⟩
    · exact Or.inl h
    · exact Or.inr ⟨name, answerKey, rfl, same⟩

/-- Each cell after a run was there before it or is given by one of its calls. -/
theorem mem_cells_run {e : Entity} (total : e.refinements.Total) {calls : List Call}
    {cell : Builder.Cell} (h : cell ∈ Builder.cells (e.run calls).values) :
    cell ∈ Builder.cells e.values ∨ ∃ c ∈ calls, c.Gives cell := by
  induction calls generalizing e with
  | nil => exact Or.inl h
  | cons c rest ih =>
    rcases ih ((call_keeps total c).total total) h with h | ⟨d, hd, gives⟩
    · rcases mem_cells_call total h with h | gives
      · exact Or.inl h
      · exact Or.inr ⟨c, List.mem_cons_self, gives⟩
    · exact Or.inr ⟨d, List.mem_cons_of_mem _ hd, gives⟩

/-- What is read in a cell is one of the cells. -/
theorem mem_cells_of_cell? {e : Entity} {name : Value} {period : String} {v : Value}
    (found : e.cell? name period = some v) :
    ∃ key, (key == name) = true ∧ (⟨key, period, v⟩ : Builder.Cell) ∈
      Builder.cells e.values := by
  obtain ⟨periods, held, inside⟩ := Option.bind_eq_some_iff.mp found
  obtain ⟨key, there, same⟩ := Table.mem_of_get? held
  obtain ⟨at', inside, hp⟩ := Table.mem_of_get? inside
  rw [beq_iff_eq.mp hp] at inside
  exact ⟨key, same, Builder.mem_cells.mpr ⟨periods, there, inside⟩⟩

/-- A variable with one period at most keeps to it if it is written in no other. -/
theorem get?_values_put {e : Entity} {name : Value} (hk : name.isKey = true)
    {period : String}
    (start : ∀ cells, Table.get? e.values name = some cells → ∃ v, cells = [(period, v)])
    {written value : Value} {at' : String} (one : (written == name) = true → at' = period)
    {cells : ByPeriod}
    (found : Table.get? (e.put written at' value).values name = some cells) :
    ∃ v, cells = [(period, v)] := by
  simp only [put, Table.get?_put_key _ _ _ hk] at found
  by_cases same : (written == name) = true
  · have hp := one same
    subst hp
    rw [if_pos same, Table.get?_congr _ hk same] at found
    cases held : Table.get? e.values name with
    | none =>
      simp only [held, Option.getD_none, Table.put, Option.some.injEq] at found
      exact ⟨value, found.symm⟩
    | some old =>
      obtain ⟨v, rfl⟩ := start old held
      simp only [held, Option.getD_some, Table.put, beq_self_eq_true, if_true,
        Option.some.injEq] at found
      exact ⟨value, found.symm⟩
  · rw [if_neg same] at found
    exact start cells found

/-- A variable that is written in one period only has at most that period. -/
theorem get?_values_run {e : Entity} (total : e.refinements.Total) {calls : List Call}
    {name : Value} (hk : name.isKey = true) {period : String}
    (start : ∀ cells, Table.get? e.values name = some cells → ∃ v, cells = [(period, v)])
    (one : ∀ written value at' answerKey, Call.write written value at' answerKey ∈ calls →
      (written == name) = true → at' = period)
    {cells : ByPeriod} (h : Table.get? (e.run calls).values name = some cells) :
    ∃ v, cells = [(period, v)] := by
  induction calls generalizing e with
  | nil => exact start cells h
  | cons c rest ih =>
    refine ih ((call_keeps total c).total total) ?_ ?_ h
    · intro cells' found
      rcases call_values total c with values | ⟨written, value, at', answerKey, rfl, after⟩
      · rw [values] at found
        exact start cells' found
      · have hp := one written value at' answerKey List.mem_cons_self
        rw [after] at found
        exact get?_values_put hk start hp found
    · intro written value at' answerKey inside
      exact one written value at' answerKey (List.mem_cons_of_mem _ inside)

/-- If no error is left after a run, no call of it returned one. -/
theorem returned_of_clean {e : Entity} (total : e.refinements.Total)
    {before after : List Call} {c : Call}
    (clean : (e.run (before ++ c :: after)).errors = []) :
    returned ((e.run before).call c).2 = none := by
  have total' : (e.run before).refinements.Total := (run_keeps total before).total total
  have total'' : ((e.run before).call c).1.refinements.Total :=
    (call_keeps total' c).total total'
  rw [run_append, run, run_errors total'', call_errors total', List.append_assoc] at clean
  have none := (List.append_eq_nil_iff.mp (List.append_eq_nil_iff.mp clean).2).1
  cases h : returned ((e.run before).call c).2 with
  | none => rfl
  | some error =>
    rw [h] at none
    cases none

/-- What is settled from a value on is that value, or a later one that a rule prefers to it. -/
theorem foldl_settled {rules : Refinements} {name v : Value} (there : v.isNull = false)
    (later : List Value) :
    later.foldl (rules.settled name) v = v ∨
      (later.foldl (rules.settled name) v ∈ later ∧
        (later.foldl (rules.settled name) v).isNull = false ∧
        ∃ w, rules.accepts name v w = true) := by
  induction later generalizing v with
  | nil => exact Or.inl rfl
  | cons w rest ih =>
    rw [List.foldl_cons]
    by_cases accepted : w.isNull = false ∧ rules.accepts name v w = true
    · have step : rules.settled name v w = w := by
        simp [Refinements.settled, there, accepted.1, accepted.2]
      rw [step]
      right
      rcases ih accepted.1 with same | ⟨inside, value, _⟩
      · rw [same]
        exact ⟨List.mem_cons_self, accepted.1, w, accepted.2⟩
      · exact ⟨List.mem_cons_of_mem _ inside, value, w, accepted.2⟩
    · have step : rules.settled name v w = v := by
        cases hw : w.isNull with
        | true => simp [Refinements.settled, there, hw]
        | false =>
          have refused : rules.accepts name v w = false := by
            simpa [hw] using accepted
          simp [Refinements.settled, there, hw, refused]
      rw [step]
      rcases ih there with same | ⟨inside, value, preferred⟩
      · exact Or.inl same
      · exact Or.inr ⟨List.mem_cons_of_mem _ inside, value, preferred⟩

theorem settled_of_not_refuses {rules : Refinements} {name current written : Value}
    (h : rules.refuses name current written = false) (there : written.isNull = false) :
    rules.settled name current written = written := by
  unfold Refinements.refuses at h
  unfold Refinements.settled
  cases hc : current.isNull <;> simp_all

/-- After a run without errors, what was written is held, or a later value that a rule
prefers to it. -/
theorem value_of_clean {e : Entity} (total : e.refinements.Total) (hm : e.MembersOfLayout)
    {before after : List Call} {name : Value} (hk : name.isKey = true)
    (self : (name == name) = true) (free : e.layout.hasMembers name = false) {v : Value}
    (there : v.isNull = false) {period answerKey : String}
    (clean : (e.run (before ++ .write name v period answerKey :: after)).errors = []) :
    let held :=
      (e.run (before ++ .write name v period answerKey :: after)).value name period
    held = v ∨ (held ∈ after.filterMap (Call.valueFor name period) ∧ held.isNull = false ∧
      ∃ w, e.refinements.accepts name v w = true) := by
  intro held
  have keeps := run_keeps total before
  have total' : (e.run before).refinements.Total := keeps.total total
  have free' : (e.run before).isMemberList name = false := by
    rw [isMemberList_eq (keeps.membersOfLayout hm), keeps.layout]
    exact free
  have taken : (e.run before).refinements.refuses name ((e.run before).value name period)
      v = false := by
    cases h :
        (e.run before).refinements.refuses name ((e.run before).value name period) v with
    | false => rfl
    | true =>
      have answered := returned_of_clean total clean
      rw [call_write_refused total' free' answerKey h] at answered
      cases answered
  rw [keeps.refinements, run_value total hm before hk free] at taken
  have settled : held = (after.filterMap (Call.valueFor name period)).foldl
      (e.refinements.settled name) v := by
    simp only [held, run_value total hm _ hk free, List.filterMap_append, List.foldl_append]
    rw [List.filterMap_cons_some (b := v) (by simp [Call.valueFor, self]), List.foldl_cons,
      settled_of_not_refuses taken there]
  rw [settled]
  exact foldl_settled there _

end Entity

theorem Refinements.accepts_standard {name old new : Value}
    (h : standard.accepts name old new = true) :
    name = .text "statut_occupation_logement" ∧ old = .text "locataire_vide" := by
  cases name with
  | text s =>
    by_cases hs : "statut_occupation_logement" = s
    · subst hs
      simp only [accepts, standard, Value.text?, Option.bind_some, Table.get?,
        beq_self_eq_true, if_true, Option.any_some] at h
      exact ⟨rfl, (Value.same_text old _).mp h⟩
    · simp [accepts, standard, Value.text?, Table.get?, hs] at h
  | _ => simp [accepts, Value.text?] at h

namespace Setting

/-- Under a setting, a value given for a key means these values of variables, for a kind. -/
def Means (s : Setting) (key : String) (value : Value) (kind : EntityKind)
    (expansion : Expansion) : Prop :=
  ∃ mapping, s.resolver.mapping? key = some mapping ∧
    s.resolver.owner? key = some (.kind kind) ∧
    Builder.expand s.periods key value mapping = some (.ok expansion)

theorem write_mem_route {owner : Owner} {key answerKey : String} {expansion : Expansion}
    {kind : EntityKind} {cell : Builder.Cell}
    (h : Action.write kind answerKey cell ∈ route key expansion owner) :
    owner = .kind kind ∧ cell ∈ Builder.cells expansion := by
  cases owner with
  | unknown name => simp [route] at h
  | kind owner =>
    obtain ⟨written, inside, h⟩ := List.mem_map.mp h
    unfold Action.ofCell at h
    split at h
    · cases h
    · cases h
      exact ⟨rfl, inside⟩

theorem write_mem_settle {owner : Owner} {key answerKey : String}
    {expanded : Option (Except Failure Expansion)} {kind : EntityKind} {cell : Builder.Cell}
    (h : Action.write kind answerKey cell ∈ settle owner key expanded) :
    ∃ expansion, expanded = some (.ok expansion) ∧ owner = .kind kind ∧
      cell ∈ Builder.cells expansion := by
  cases expanded with
  | none => simp [settle] at h
  | some result =>
    cases result with
    | ok expansion => exact ⟨expansion, rfl, write_mem_route h⟩
    | error failure => cases failure <;> simp [settle] at h

/-- A write that is planned for an answer is a value that the answer means. -/
theorem write_mem_answerPlan {s : Setting} {key answerKey : String} {answer : Value}
    {kind : EntityKind} {cell : Builder.Cell}
    (h : Action.write kind answerKey cell ∈ s.answerPlan key answer) :
    answer.isUnanswered = false ∧ answer.unwrap.isScalar = true ∧
      ∃ expansion, s.Means key answer.unwrap kind expansion ∧
        cell ∈ Builder.cells expansion := by
  have shape := s.answerCase key answer
  generalize s.answerPlan key answer = plan at h shape
  cases shape with
  | idle => cases h
  | told => simp at h
  | unowned => simp at h
  | settled mapping owner given scalar found counts owned =>
    obtain ⟨expansion, expanded, rfl, inside⟩ := write_mem_settle h
    exact ⟨given, scalar, expansion, ⟨mapping, found, owned, expanded⟩, inside⟩

/-- A write that is planned for a probe asks for the variable of a direct mapping. -/
theorem write_mem_probePlan {s : Setting} {key answerKey : String} {kind : EntityKind}
    {cell : Builder.Cell} (h : Action.write kind answerKey cell ∈ s.probePlan key) :
    cell.value = .null ∧ (∃ name type, s.resolver.mapping? key = some (.direct name type)) ∧
      ∃ expansion, s.Means key .null kind expansion ∧ cell ∈ Builder.cells expansion := by
  have shape := s.probeCase key
  generalize s.probePlan key = plan at h shape
  cases shape with
  | unknown => simp at h
  | unowned => simp at h
  | indirect => simp at h
  | settled name type owner found owned =>
    obtain ⟨expansion, expanded, rfl, inside⟩ := write_mem_settle h
    refine ⟨?_, ⟨name, type, found⟩, expansion, ⟨_, found, owned, expanded⟩, inside⟩
    obtain ⟨period, _, cells⟩ := Builder.expand_direct expanded
    rw [cells, List.mem_singleton] at inside
    rw [inside]

/-- A write that is planned belongs to an answer, to the scholarship rule or to a probe. -/
theorem write_mem_plan {s : Setting} {answers : Answers} {probes : List String}
    {kind : EntityKind} {answerKey : String} {cell : Builder.Cell}
    (h : Action.write kind answerKey cell ∈ s.plan answers probes) :
    (∃ key answer, (key, answer) ∈ answers ++ Scholarship.added answers ∧
      answer.isUnanswered = false ∧ answer.unwrap.isScalar = true ∧
      ∃ expansion, s.Means key answer.unwrap kind expansion ∧
        cell ∈ Builder.cells expansion) ∨
    (cell.value = .null ∧ ∃ key ∈ probes,
      (∃ name type, s.resolver.mapping? key = some (.direct name type)) ∧
      ∃ expansion, s.Means key .null kind expansion ∧ cell ∈ Builder.cells expansion) := by
  rcases List.mem_append.mp h with h | h
  · obtain ⟨⟨key, answer⟩, inside, h⟩ := List.mem_flatMap.mp h
    obtain ⟨given, scalar, means⟩ := write_mem_answerPlan h
    exact Or.inl ⟨key, answer, inside, given, scalar, means⟩
  · obtain ⟨key, inside, h⟩ := List.mem_flatMap.mp h
    obtain ⟨null, direct, means⟩ := write_mem_probePlan h
    exact Or.inr ⟨null, key, inside, direct, means⟩

end Setting

theorem Action.write_of_callTo {plan : List Action} {kind : EntityKind} {c : Entity.Call}
    (h : c ∈ plan.filterMap (Action.callTo kind)) :
    ∃ answerKey cell, Action.write kind answerKey cell ∈ plan ∧
      c = .write cell.name cell.value cell.period answerKey := by
  obtain ⟨a, inside, called⟩ := List.mem_filterMap.mp h
  cases a with
  | report error => cases called
  | fail failure => cases called
  | write owner answerKey cell =>
    simp only [callTo, Option.ite_none_right_eq_some, Option.some.injEq] at called
    obtain ⟨rfl, rfl⟩ := called
    exact ⟨answerKey, cell, inside, rfl⟩

end Questionnaire
