import Mathlib.Data.List.Forall2
import Questionnaire.Documents
import Questionnaire.Proofs.EntityForm
import Questionnaire.Proofs.KeyEquality

/-!
# Dates in answers

In the answers of a document a date becomes a text, and so does each date in a list, however
deep. What a map or a selection holds stays as it is, with its dates. Keys become texts, and
of entries whose keys have the same text the last one counts. Reading answers that have been
read changes nothing.
-/

namespace Questionnaire

namespace Value

/-- Is it a day, with or without a time of day? -/
def isDate : Value → Bool
  | .date _ => true
  | .moment _ => true
  | _ => false

/-- Is it a map or a selection? -/
def isCompound : Value → Bool
  | .map _ => true
  | .combobox _ _ => true
  | _ => false

/-- What a value is made of, at any depth, itself included. The keys of a map are parts of it. -/
inductive Part : Value → Value → Prop
  | self (v : Value) : Part v v
  | element {part item : Value} {items : List Value} (inside : item ∈ items)
      (deeper : Part part item) :
      Part part (.list items)
  | key {part k v : Value} {entries : List (Value × Value)} (inside : (k, v) ∈ entries)
      (deeper : Part part k) :
      Part part (.map entries)
  | entry {part k v : Value} {entries : List (Value × Value)} (inside : (k, v) ∈ entries)
      (deeper : Part part v) :
      Part part (.map entries)
  | label {part label value : Value} (deeper : Part part label) : Part part
      (.combobox label value)
  | value {part label value : Value} (deeper : Part part value) : Part part
      (.combobox label value)

/-- The part is in a map or a selection that the value is made of. -/
def Enclosed (part v : Value) : Prop :=
  ∃ c : Value, c.isCompound = true ∧ Part c v ∧ Part part c

/-- Dates, and those in lists, are written as texts. Lists keep their length and order, and
all else stays. -/
inductive WrittenOut : Value → Value → Prop
  | date (d : Date) : WrittenOut (.date d) (.text d.iso)
  | moment (m : Moment) : WrittenOut (.moment m) (.text m.iso)
  | list {items others : List Value} (each : List.Forall₂ WrittenOut items others) :
      WrittenOut (.list items) (.list others)
  | other {v : Value} (undated : v.isDate = false) (single : ∀ items, v ≠ .list items) :
      WrittenOut v v

variable {v w d : Value}

theorem Part.trans {first second third : Value} (part : Part first second)
    (part' : Part second third) : Part first third := by
  induction part' with
  | self => exact part
  | element inside _ ih => exact .element inside ih
  | key inside _ ih => exact .key inside ih
  | entry inside _ ih => exact .entry inside ih
  | label _ ih => exact .label ih
  | value _ ih => exact .value ih

theorem part_list {items : List Value} (other : v ≠ .list items) :
    Part v (.list items) ↔ ∃ item ∈ items, Part v item := by
  constructor
  · intro part
    cases part with
    | self => exact absurd rfl other
    | element inside deeper => exact ⟨_, inside, deeper⟩
  · rintro ⟨item, inside, deeper⟩
    exact .element inside deeper

/-- A value is a list, whose elements come before it, or not. -/
theorem induct_lists {P : Value → Prop}
    (list : ∀ items, (∀ item ∈ items, P item) → P (.list items))
    (other : ∀ v, (∀ items, v ≠ .list items) → P v) : ∀ v, P v
  | .list items => list items fun item _ => induct_lists list other item
  | .null => other _ nofun
  | .bool _ => other _ nofun
  | .int _ => other _ nofun
  | .float _ => other _ nofun
  | .text _ => other _ nofun
  | .map _ => other _ nofun
  | .date _ => other _ nofun
  | .moment _ => other _ nofun
  | .combobox _ _ => other _ nofun

theorem itemsWithoutDates_eq_map :
    ∀ items : List Value, itemsWithoutDates items = items.map withoutDates
  | [] => rfl
  | v :: rest => by rw [itemsWithoutDates, itemsWithoutDates_eq_map rest, List.map_cons]

theorem withoutDates_list (items : List Value) :
    (list items).withoutDates = .list (items.map withoutDates) := by
  rw [withoutDates, itemsWithoutDates_eq_map]

theorem withoutDates_of_undated (undated : v.isDate = false)
    (single : ∀ items, v ≠ .list items) : v.withoutDates = v := by
  cases v with
  | date d => cases undated
  | moment m => cases undated
  | list items => exact absurd rfl (single items)
  | _ => rfl

/-- What is written out has no date to write out. -/
theorem withoutDates_withoutDates (v : Value) :
    v.withoutDates.withoutDates = v.withoutDates := by
  induction v using induct_lists with
  | list items ih =>
    rw [withoutDates_list, withoutDates_list, List.map_map]
    exact congrArg _ (List.map_congr_left ih)
  | other v single =>
    cases v with
    | list items => exact absurd rfl (single items)
    | _ => rfl

/-- A value is written out in one way. -/
theorem writtenOut_iff : WrittenOut v w ↔ w = v.withoutDates := by
  induction v using induct_lists generalizing w with
  | list items ih =>
    constructor
    · intro written
      cases written with
      | list each =>
        have same : List.Forall₂ (fun item other => item.withoutDates = other) items _ :=
          ((List.forall₂_and_left _ _).mpr ⟨fun item inside => inside, each⟩).imp
            fun item other ⟨inside, written⟩ => ((ih item inside).mp written).symm
        rw [← List.forall₂_map_left_iff (f := withoutDates), List.forall₂_eq_eq_eq] at same
        rw [withoutDates_list, same]
      | other _ single => exact absurd rfl (single items)
    · rintro rfl
      rw [withoutDates_list]
      exact .list (List.forall₂_map_right_iff.mpr (List.forall₂_same.mpr fun item inside =>
        (ih item inside).mpr rfl))
  | other v single =>
    constructor
    · intro written
      cases written with
      | date d => rfl
      | moment m => rfl
      | list each => exact absurd rfl (single _)
      | other undated _ => exact (withoutDates_of_undated undated single).symm
    · rintro rfl
      cases undated : v.isDate with
      | false =>
        rw [withoutDates_of_undated undated single]
        exact .other undated single
      | true =>
        cases v with
        | date d => exact .date d
        | moment m => exact .moment m
        | _ => cases undated

/-- The dates that stay are those in a map or a selection. -/
theorem part_withoutDates (date : d.isDate = true) :
    Part d v.withoutDates ↔ Enclosed d v := by
  induction v using induct_lists with
  | list items ih =>
    have outside {items : List Value} : d ≠ .list items := by
      rintro rfl
      cases date
    rw [withoutDates_list, part_list outside]
    constructor
    · rintro ⟨_, written, deeper⟩
      obtain ⟨item, inside, rfl⟩ := List.mem_map.mp written
      obtain ⟨c, compound, part, held⟩ := (ih item inside).mp deeper
      exact ⟨c, compound, .element inside part, held⟩
    · rintro ⟨c, compound, part, held⟩
      have other : c ≠ .list items := by
        rintro rfl
        cases compound
      obtain ⟨item, inside, deeper⟩ := (part_list other).mp part
      exact ⟨_, List.mem_map_of_mem inside, (ih item inside).mpr ⟨c, compound,
        deeper, held⟩⟩
  | other v single =>
    cases shape : v.isCompound with
    | true =>
      have undated : v.isDate = false := by
        cases v with
        | map entries => rfl
        | combobox label value => rfl
        | _ => cases shape
      rw [withoutDates_of_undated undated single]
      constructor
      · intro held
        exact ⟨v, shape, .self v, held⟩
      · rintro ⟨c, _, part, held⟩
        exact held.trans part
    | false =>
      constructor
      · intro held
        cases v with
        | list items => exact absurd rfl (single items)
        | map entries => cases shape
        | combobox label value => cases shape
        | _ =>
          cases held
          cases date
      · rintro ⟨c, compound, part, _⟩
        cases part with
        | self => cases shape.symm.trans compound
        | element => exact absurd rfl (single _)
        | _ => cases shape

end Value

namespace Answers

open Value

/-- What the last entry whose key has the text says. -/
def latest? (entries : List (Value × Value)) (key : String) : Option Value :=
  (entries.filter fun entry => entry.1.display == key).getLast?.map Prod.snd

theorem get?_ofEntries_display (entries : List (Value × Value)) (key : String) :
    Table.get? (Table.ofEntries (entries.map fun (k, v) => (k.display, v.withoutDates))) key =
      (latest? entries key).map withoutDates := by
  have found (t : Table String Value) (j : String) (a : Value) :
      Table.get? (Table.put t j a) key = if j == key then some a else Table.get? t key := by
    simp [Table.get?_put_string]
  rw [Table.ofEntries, Table.get?_putAll found, List.filter_map, List.getLast?_map,
    Option.map_map]
  simp [latest?, Function.comp_def]

/-- The answers of a document can be read. Each has as its key the text of the keys of some
entries, and is what the last one of them says, written out: dates are texts, in lists too,
lists keep their length and order, and nothing else is changed. The dates that stay are
those in maps and selections. Reading the answers again gives the same. -/
theorem ofValue_writtenOut (entries : List (Value × Value)) :
    ∃ answers, ofValue (.map entries) = .ok answers ∧ (Table.keys answers).Nodup ∧
      (∀ key w, Table.get? answers key = some w ↔
        ∃ v, latest? entries key = some v ∧ v.WrittenOut w) ∧
      (∀ key v w, latest? entries key = some v → Table.get? answers key = some w →
        ∀ d : Value, d.isDate = true → (Part d w ↔ Enclosed d v)) ∧
      ofValue (.map (Value.ofTable answers)) = .ok answers := by
  have distinct :=
    Table.nodup_keys_ofEntries (entries.map fun (k, v) => (k.display, v.withoutDates))
  have found := get?_ofEntries_display entries
  generalize read : Table.ofEntries (entries.map fun (k, v) =>
    (k.display, v.withoutDates)) = answers at distinct found
  have done : ofValue (.map entries) = .ok answers := by rw [ofValue, read]
  have undated : ∀ entry ∈ answers, entry.2.withoutDates = entry.2 := by
    intro entry inside
    have held := Table.get?_of_mem distinct inside
    rw [found] at held
    obtain ⟨v, _, same⟩ := Option.map_eq_some_iff.mp held
    rw [← same, withoutDates_withoutDates]
  refine ⟨answers, done, distinct, ?_, ?_, ?_⟩
  · intro key w
    rw [found, Option.map_eq_some_iff]
    simp only [writtenOut_iff, eq_comm]
  · intro key v w last held d date
    rw [found, last, Option.map_some] at held
    rw [← Option.some.inj held]
    exact part_withoutDates date
  · have kept : (Value.ofTable answers).map (fun (k, v) => (k.display, v.withoutDates)) =
        answers := by
      rw [Value.ofTable, List.map_map]
      conv_rhs => rw [← List.map_id answers]
      exact List.map_congr_left fun entry inside => Prod.ext rfl (undated entry inside)
    rw [ofValue, kept, Table.ofEntries_self distinct]

/-- A day that was entered as the value of a selection stays a date. -/
theorem ofValue_selectedDay :
    let day : Value := .date ⟨2025, 10, 15, by decide⟩
    let selection : Value := .map [(.text "text", .text "15 octobre"), (.text "value", day)]
    ofValue (.map [(.text "date-entree", selection)]) = .ok [("date-entree", selection)] ∧
      day.isDate = true ∧ Part day selection := by
  intro day selection
  exact ⟨rfl, rfl, .entry (List.mem_cons_of_mem _ List.mem_cons_self) (.self day)⟩

end Answers

end Questionnaire
