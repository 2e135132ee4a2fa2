import Questionnaire.Proofs.Report
import Questionnaire.Proofs.Similar

/-!
# Requests as nested maps

The order of the entries of a map tells nothing. Entities that hold the same give requests
that are equal as nested maps, and so do their outcomes.
-/

namespace Questionnaire

/-- Equal as nested maps: the same at every key, whatever the order of the entries. -/
inductive Value.Alike : Value → Value → Prop where
  | refl (v : Value) : Alike v v
  | maps {entries others : List (Value × Value)}
      (keys : ∀ key, key.isKey = true →
        (Table.get? (others : Table Value Value) key).isSome =
        (Table.get? (entries : Table Value Value) key).isSome)
      (values : ∀ key v w, key.isKey = true →
        Table.get? (entries : Table Value Value) key = some v →
        Table.get? (others : Table Value Value) key = some w → Alike v w) :
      Alike (.map entries) (.map others)

/-- The outcomes tell the same, their requests as nested maps and their errors in any order. -/
structure Outcome.Alike (o other : Outcome) : Prop where
  success : other.success = o.success
  usedFallback : other.usedFallback = o.usedFallback
  request : Option.Rel Value.Alike o.request other.request
  errors : other.errors.Perm o.errors

namespace Value

/-- Maps with the same keys in the same order, their values alike. -/
theorem Alike.items {ι : Type} (items : List ι) (key : ι → Value) {first second : ι → Value}
    (h : ∀ i, Alike (first i) (second i)) :
    Alike (.map (items.map fun i => (key i, first i))) (.map (items.map fun i =>
      (key i, second i))) := by
  have found (k : Value) :
      (Table.get? (items.map fun i => (key i, first i)) k = none ∧
        Table.get? (items.map fun i => (key i, second i)) k = none) ∨
      ∃ i, Table.get? (items.map fun i => (key i, first i)) k = some (first i) ∧
        Table.get? (items.map fun i => (key i, second i)) k = some (second i) := by
    induction items with
    | nil => exact Or.inl ⟨rfl, rfl⟩
    | cons i rest ih =>
      by_cases here : (key i == k) = true
      · exact Or.inr ⟨i, by simp [Table.get?, here], by simp [Table.get?, here]⟩
      · simpa [Table.get?, here] using ih
  constructor
  · intro k _
    rcases found k with ⟨none, none'⟩ | ⟨i, some, some'⟩
    · rw [none, none']
    · rw [some, some']
      rfl
  · intro k v w _ hv hw
    rcases found k with ⟨none, _⟩ | ⟨i, some, some'⟩
    · rw [none] at hv
      cases hv
    · rw [some] at hv
      rw [some'] at hw
      cases hv
      cases hw
      exact h i

end Value

namespace Entity

/-- Variables that hold the same in every period. -/
theorem ofPeriods_alike {cells others : ByPeriod}
    (h : ∀ period, Table.get? others period = Table.get? cells period) :
    (ofPeriods cells).Alike (ofPeriods others) := by
  have found (key : Value) :
      (ofPeriods others).lookup? key = (ofPeriods cells).lookup? key := by
    have first := Table.get?_map_text (fun v : Value => v) cells key
    have second := Table.get?_map_text (fun v : Value => v) others key
    rw [funext h] at second
    exact second.trans first.symm
  constructor
  · intro key _
    exact congrArg Option.isSome (found key)
  · intro key v w _ hv hw
    have same : some w = some v := hw.symm.trans ((found key).trans hv)
    cases same
    exact .refl _

/-- Entities that hold the same are alike in a request. -/
theorem Alike.toValue {e other : Entity} (h : Alike e other) :
    e.toValue.Alike other.toValue := by
  have read (name : Value) := e.lookup?_toValue name
  have read' (name : Value) := other.lookup?_toValue name
  rw [h.members] at read'
  constructor
  · intro name hk
    change (other.toValue.lookup? name).isSome = (e.toValue.lookup? name).isSome
    have named :
        (Table.get? other.values name).isSome = (Table.get? e.values name).isSome :=
      (h.holds name hk).1
    rw [read, read', Option.isSome_or, Option.isSome_or, Option.isSome_map,
      Option.isSome_map, named]
    simp only [Option.isSome_map]
  · intro name v w hk hv hw
    change e.toValue.lookup? name = some v at hv
    change other.toValue.lookup? name = some w at hw
    rw [read] at hv
    rw [read'] at hw
    cases listed : name.text?.bind (Table.get? e.members) with
    | some ids =>
      rw [listed] at hv hw
      cases hv
      cases hw
      exact .refl _
    | none =>
      simp only [listed, Option.map_none, Option.none_or, Option.map_eq_some_iff] at hv hw
      obtain ⟨cells, held, rfl⟩ := hv
      obtain ⟨others, held', rfl⟩ := hw
      apply ofPeriods_alike
      intro period
      have same := (h.holds name hk).2 period
      simpa only [cell?, held, held', Option.bind_some] using same

theorem Alike.rounded {e other : Entity} (h : Alike e other) (day : Date) :
    Alike (e.rounded day) (other.rounded day) := by
  refine ⟨h.layout, h.refinements, h.members, ?_⟩
  intro name hk
  obtain ⟨named, cells⟩ := h.holds name hk
  constructor
  · rw [hasVariable_rounded, hasVariable_rounded, named]
  · intro period
    rw [cell?_rounded, cell?_rounded, cells]

end Entity

namespace Builder

theorem request_alike {b c : Builder}
    (h : ∀ kind, (b.entities.get kind).Alike (c.entities.get kind)) :
    b.request.Alike c.request := by
  unfold request PerKind.toList
  simp only [List.map_map, Function.comp_def]
  apply Value.Alike.items
  intro kind
  rw [(h kind).layout]
  exact Value.Alike.items [()] (fun _ => .text (b.entities.get kind).layout.id) fun _ =>
    (h kind).toValue

theorem rounded_alike {b c : Builder}
    (h : ∀ kind, (b.entities.get kind).Alike (c.entities.get kind)) (day : Date)
    (kind : EntityKind) :
    ((b.rounded day).entities.get kind).Alike ((c.rounded day).entities.get kind) := by
  simp only [rounded, PerKind.get_set]
  split
  · exact (h .individual).rounded day
  · exact h kind

end Builder

namespace Options

theorem delivered_alike (o : Options) (day : Date) {b c : Builder}
    (h : ∀ kind, (b.entities.get kind).Alike (c.entities.get kind)) :
    (o.delivered day b).Alike (o.delivered day c) := by
  unfold delivered
  split
  · exact Builder.request_alike (Builder.rounded_alike h day)
  · exact Builder.request_alike h

/-- Builders that hold the same, the strict ones with the same errors, lead to outcomes that
tell the same. -/
theorem report_alike (o : Options) (day : Date)
    {strict permissive strict' permissive' : Builder}
    (same : ∀ kind, (strict.entities.get kind).Alike (strict'.entities.get kind))
    (same' : ∀ kind, (permissive.entities.get kind).Alike (permissive'.entities.get kind))
    (errors : strict'.allErrors.Perm strict.allErrors) :
    (o.report day strict permissive).Alike (o.report day strict' permissive') := by
  by_cases clean : strict.allErrors = []
  · have clean' : strict'.allErrors = [] := by
      rw [clean] at errors
      exact errors.eq_nil
    simp only [report, clean, clean', if_true]
    exact ⟨rfl, rfl, .some (o.delivered_alike day same), .refl _⟩
  · have failed : strict'.allErrors ≠ [] := by
      intro clean'
      rw [clean'] at errors
      exact clean errors.symm.eq_nil
    have success : strict'.allErrors.isEmpty = strict.allErrors.isEmpty := by
      rw [List.isEmpty_eq_false_iff.mpr failed, List.isEmpty_eq_false_iff.mpr clean]
    simp only [report, clean, failed, if_false]
    split
    · exact ⟨success, rfl, .some (o.delivered_alike day same'), errors⟩
    · exact ⟨success, rfl, .none, errors⟩

end Options

end Questionnaire
