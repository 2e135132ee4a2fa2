import Questionnaire.Proofs.Rearrangement
import Questionnaire.Proofs.Verdict

/-!
# Writes to different cells commute

Entities are alike if they hold the same under every name that can be a key, in whatever
order, and similar if they have the same errors as well. Calls keep similar entities
similar, and two writes to different cells can change places.
-/

namespace Questionnaire

namespace Entity

/-- Under a name the entities hold the same, perhaps in another order. -/
def Matches (e other : Entity) (name : Value) : Prop :=
  other.hasVariable name = e.hasVariable name ∧ ∀ period, other.cell? name period =
    e.cell? name period

/-- What is held is all that counts. -/
theorem Matches.of_get? {e other e' other' : Entity} {name : Value}
    (h : Matches e other name)
    (first : Table.get? e'.values name = Table.get? e.values name)
    (second : Table.get? other'.values name = Table.get? other.values name) :
    Matches e' other' name := by
  simpa only [Matches, hasVariable, Table.contains, cell?, first, second] using h

theorem matches_of_get?_eq {e other : Entity} {name : Value}
    (h : Table.get? other.values name = Table.get? e.values name) :
    Matches e other name := by
  simp only [Matches, hasVariable, Table.contains, cell?, h, implies_true, and_self]

/-- The second entity holds what the first one holds, perhaps in another order. -/
structure Alike (e other : Entity) : Prop where
  layout : other.layout = e.layout
  refinements : other.refinements = e.refinements
  members : other.members = e.members
  holds : ∀ name, name.isKey = true → Matches e other name

/-- It also has the same errors, perhaps in another order. -/
structure Similar (e other : Entity) : Prop extends Alike e other where
  errors : other.errors.Perm e.errors

namespace Alike

variable {e other last : Entity}

theorem refl (e : Entity) : Alike e e := ⟨rfl, rfl, rfl, fun _ _ => ⟨rfl, fun _ => rfl⟩⟩

theorem trans (h : Alike e other) (h' : Alike other last) : Alike e last := by
  refine ⟨h'.layout.trans h.layout, h'.refinements.trans h.refinements,
    h'.members.trans h.members, ?_⟩
  intro name hk
  obtain ⟨named, cells⟩ := h.holds name hk
  obtain ⟨named', cells'⟩ := h'.holds name hk
  exact ⟨named'.trans named, fun period => (cells' period).trans (cells period)⟩

theorem value (h : Alike e other) {name : Value} (hk : name.isKey = true)
    (period : String) : other.value name period = e.value name period := by
  rw [value_eq_cell?, value_eq_cell?, (h.holds name hk).2]

theorem verdict (h : Alike e other) {name : Value} (hk : name.isKey = true) (v : Value)
    (period answerKey : String) :
    other.verdict name v period answerKey = e.verdict name v period answerKey :=
  verdict_congr h.members h.refinements (h.value hk period) v answerKey

theorem put (h : Alike e other) (written : Value) (at' : String) (v : Value) :
    Alike (e.put written at' v) (other.put written at' v) := by
  refine ⟨h.layout, h.refinements, h.members, ?_⟩
  intro name hk
  obtain ⟨named, cells⟩ := h.holds name hk
  constructor
  · rw [hasVariable_put other _ _ _ hk, hasVariable_put e _ _ _ hk, named]
  · intro period
    rw [cell?_put other _ _ _ hk, cell?_put e _ _ _ hk, cells]

end Alike

namespace Similar

variable {e other last : Entity}

theorem refl (e : Entity) : Similar e e := ⟨.refl e, .refl _⟩

theorem trans (h : Similar e other) (h' : Similar other last) : Similar e last :=
  ⟨h.toAlike.trans h'.toAlike, h'.errors.trans h.errors⟩

theorem total (h : Similar e other) (ht : e.refinements.Total) :
    other.refinements.Total := by
  rw [h.refinements]
  exact ht

theorem carry (h : Similar e other) (name v : Value) (period : String) (verdict : Verdict) :
    Similar (e.carry name v period verdict) (other.carry name v period verdict) := by
  cases verdict with
  | ignored => exact h
  | taken => exact ⟨h.toAlike.put name period v, h.errors⟩
  | refused error =>
    exact ⟨⟨h.layout, h.refinements, h.members, h.holds⟩, h.errors.append_right [error]⟩

end Similar

/-- A write to a name that can be a key. -/
def Call.Keyed (c : Call) : Prop :=
  ∃ name v period answerKey, c = .write name v period answerKey ∧ name.isKey = true

/-- Both calls write to one cell. -/
def Call.Meets : Call → Call → Prop
  | .write name _ period _, .write other _ at' _ => (name == other) = true ∧ period = at'
  | _, _ => False

theorem Similar.call {e other : Entity} (h : Similar e other) (total : e.refinements.Total)
    {c : Call} (keyed : c.Keyed) : Similar (e.call c).1 (other.call c).1 := by
  obtain ⟨name, v, period, answerKey, rfl, hk⟩ := keyed
  rw [call_write_eq total, call_write_eq (h.total total), h.toAlike.verdict hk]
  exact h.carry name v period _

theorem Similar.run {e other : Entity} (h : Similar e other) (total : e.refinements.Total)
    {calls : List Call} (keyed : ∀ c ∈ calls, c.Keyed) :
    Similar (e.run calls) (other.run calls) := by
  induction calls generalizing e other with
  | nil => exact h
  | cons c rest ih =>
    have step := h.call total (keyed c List.mem_cons_self)
    exact ih step ((call_keeps total c).total total) fun d inside =>
      keyed d (List.mem_cons_of_mem c inside)

/-- What becomes of a write does not depend on what became of one to another cell. -/
theorem verdict_carry (e : Entity) {name other : Value} {period at' : String}
    (hk : name.isKey = true) (apart : ¬((other == name) = true ∧ at' = period))
    (v w : Value) (answerKey : String) (verdict : Verdict) :
    (e.carry other w at' verdict).verdict name v period answerKey =
      e.verdict name v period answerKey := by
  cases verdict with
  | ignored => rfl
  | refused error => rfl
  | taken =>
    have held : (e.put other at' w).value name period = e.value name period := by
      rw [value_put e _ _ _ hk, if_neg apart]
    have members : (e.put other at' w).members = e.members := rfl
    have rules : (e.put other at' w).refinements = e.refinements := rfl
    exact verdict_congr members rules held v answerKey

theorem put_comm (e : Entity) {name other : Value} (hk : name.isKey = true)
    {period at' : String} (apart : ¬((name == other) = true ∧ period = at')) (v w : Value) :
    Alike ((e.put name period v).put other at' w)
      ((e.put other at' w).put name period v) := by
  refine ⟨rfl, rfl, rfl, ?_⟩
  intro read hr
  constructor
  · simp only [hasVariable_put _ _ _ _ hr]
    exact Bool.or_left_comm _ _ _
  · intro at''
    simp only [cell?_put _ _ _ _ hr]
    by_cases first : (name == read) = true ∧ period = at''
    · by_cases second : (other == read) = true ∧ at' = at''
      · -- both writes would meet in the cell that is read
        have back : (read == other) = true :=
          Value.same_symm ((Value.isKey_eq_of_same second.1).trans hr) second.1
        have same : (name == other) = true := Value.same_trans hk first.1 back
        exact absurd ⟨same, first.2.trans second.2.symm⟩ apart
      · rw [if_pos first, if_neg second, if_pos first]
    · rw [if_neg first, if_neg first]

/-- What becomes of two writes to different cells can become of them in the other order. -/
theorem carry_comm (e : Entity) {name other : Value} (hk : name.isKey = true)
    {period at' : String} (apart : ¬((name == other) = true ∧ period = at')) (v w : Value)
    (first second : Verdict) :
    Similar ((e.carry name v period first).carry other w at' second)
      ((e.carry other w at' second).carry name v period first) := by
  cases first with
  | ignored => exact .refl _
  | taken =>
    cases second with
    | ignored => exact .refl _
    | taken => exact ⟨put_comm e hk apart v w, .refl _⟩
    | refused error => exact .refl _
  | refused error =>
    cases second with
    | ignored => exact .refl _
    | taken => exact .refl _
    | refused error' =>
      refine ⟨⟨rfl, rfl, rfl, fun _ _ => ⟨rfl, fun _ => rfl⟩⟩, ?_⟩
      have swapped : [error', error].Perm [error, error'] := .swap error error' []
      simp only [carry, List.append_assoc]
      exact swapped.append_left e.errors

/-- Two writes that do not meet can change places. -/
theorem call_comm {e : Entity} (total : e.refinements.Total) {c d : Call} (hc : c.Keyed)
    (hd : d.Keyed) (apart : ¬c.Meets d) :
    Similar ((e.call c).1.call d).1 ((e.call d).1.call c).1 := by
  obtain ⟨name, v, period, answerKey, rfl, hk⟩ := hc
  obtain ⟨other, w, at', answerKey', rfl, ho⟩ := hd
  have apart' : ¬((other == name) = true ∧ at' = period) := by
    rintro ⟨same, rfl⟩
    exact apart ⟨Value.same_symm ho same, rfl⟩
  have afterFirst := call_keeps total (.write name v period answerKey)
  have afterSecond := call_keeps total (.write other w at' answerKey')
  rw [call_write_eq total] at afterFirst afterSecond
  rw [call_write_eq total, call_write_eq total, call_write_eq (afterFirst.total total),
    call_write_eq (afterSecond.total total)]
  simp only [verdict_carry e ho apart, verdict_carry e hk apart']
  exact carry_comm e hk apart v w _ _

/-- Runs that differ in the order of writes to different cells leave similar entities. -/
theorem run_swaps {e : Entity} (total : e.refinements.Total) {calls calls' : List Call}
    (keyed : ∀ c ∈ calls, c.Keyed) (h : Swaps (fun c d => ¬c.Meets d) calls calls') :
    Similar (e.run calls) (e.run calls') := by
  induction h generalizing e with
  | refl calls => exact .refl _
  | cons c _ ih =>
    exact ih ((call_keeps total c).total total) fun d inside =>
      keyed d (List.mem_cons_of_mem c inside)
  | @swap c d rest apart =>
    have hc : c.Keyed := keyed c List.mem_cons_self
    have hd : d.Keyed := keyed d (List.mem_cons_of_mem c List.mem_cons_self)
    have both :=
      (call_keeps ((call_keeps total c).total total) d).total
      ((call_keeps total c).total total)
    exact (call_comm total hc hd apart).run both fun x inside =>
      keyed x (List.mem_cons_of_mem c (List.mem_cons_of_mem d inside))
  | trans first _ ih ih' =>
    exact (ih total keyed).trans (ih' total fun c inside =>
      keyed c (first.perm.mem_iff.mpr inside))

end Entity

end Questionnaire
