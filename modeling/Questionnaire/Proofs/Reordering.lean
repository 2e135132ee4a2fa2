import Questionnaire.Proofs.KeyOrder
import Questionnaire.Yaml.Printer

/-!
# Values up to the order of entries

Two values are the same up to the order of entries if one becomes the other by exchanging
entries of maps, at any depth. Sorting the entries of every map picks one value of each such
class.
-/

namespace Questionnaire

namespace Value

/-- What documents hold: scalars, lists, and maps with distinct text keys. Floating-point
numbers are among the scalars where they are allowed. -/
inductive Plain (floats : Prop) : Value → Prop where
  | null : Plain floats .null
  | bool (b : Bool) : Plain floats (.bool b)
  | int (n : Int) : Plain floats (.int n)
  | float (x : Binary64) (allowed : floats) : Plain floats (.float x)
  | text (s : String) : Plain floats (.text s)
  | list {items : List Value} (parts : ∀ v ∈ items, Plain floats v) : Plain floats
      (.list items)
  | map {entries : List (Value × Value)} (keys : ∀ entry ∈ entries, entry.1.isText = true)
      (distinct : (entries.map Prod.fst).Nodup)
      (parts : ∀ entry ∈ entries, Plain floats entry.2) :
      Plain floats (.map entries)

/-- The same value but for the order of the entries of maps, at any depth. -/
inductive Reordered : Value → Value → Prop where
  | refl (v : Value) : Reordered v v
  | symm {v w : Value} : Reordered v w → Reordered w v
  | trans {u v w : Value} : Reordered u v → Reordered v w → Reordered u w
  | item (before : List Value) {v w : Value} (after : List Value) :
      Reordered v w → Reordered (.list (before ++ v :: after))
        (.list (before ++ w :: after))
  | entry (before : List (Value × Value)) (key : Value) {v w : Value}
      (after : List (Value × Value)) :
      Reordered v w → Reordered (.map (before ++ (key, v) :: after))
        (.map (before ++ (key, w) :: after))
  | perm {entries others : List (Value × Value)} : entries.Perm others → Reordered
      (.map entries) (.map others)

variable {floats : Prop}

theorem plain_list_iff {items : List Value} :
    Plain floats (.list items) ↔ ∀ v ∈ items, Plain floats v := by
  constructor
  · intro h
    cases h with
    | list parts => exact parts
  · exact Plain.list

theorem plain_map_iff {entries : List (Value × Value)} :
    Plain floats (.map entries) ↔ (∀ entry ∈ entries, entry.1.isText = true) ∧
      (entries.map Prod.fst).Nodup ∧ ∀ entry ∈ entries, Plain floats entry.2 := by
  constructor
  · intro h
    cases h with
    | map keys distinct parts => exact ⟨keys, distinct, parts⟩
  · rintro ⟨keys, distinct, parts⟩
    exact .map keys distinct parts

/-- Items that are the same up to the order of entries make lists that are. -/
theorem reordered_list (f : Value → Value) {items : List Value}
    (each : ∀ v ∈ items, Reordered v (f v)) :
    Reordered (.list items) (.list (items.map f)) := by
  have after (done : List Value) :
      Reordered (.list (done ++ items)) (.list (done ++ items.map f)) := by
    induction items generalizing done with
    | nil => exact .refl _
    | cons v rest ih =>
      have first := Reordered.item done rest (each v List.mem_cons_self)
      have others :=
        ih (fun w inside => each w (List.mem_cons_of_mem _ inside)) (done ++ [f v])
      simp only [List.append_assoc, List.singleton_append] at others
      exact first.trans others
  exact after []

theorem reordered_map (f : Value → Value) {entries : List (Value × Value)}
    (each : ∀ entry ∈ entries, Reordered entry.2 (f entry.2)) :
    Reordered (.map entries) (.map (entries.map fun entry => (entry.1, f entry.2))) := by
  have after (done : List (Value × Value)) : Reordered (.map (done ++ entries))
      (.map (done ++ entries.map fun entry => (entry.1, f entry.2))) := by
    induction entries generalizing done with
    | nil => exact .refl _
    | cons entry rest ih =>
      obtain ⟨key, v⟩ := entry
      have first := Reordered.entry done key rest (each (key, v) List.mem_cons_self)
      have others := ih (fun entry inside => each entry (List.mem_cons_of_mem _ inside))
        (done ++ [(key, f v)])
      simp only [List.append_assoc, List.singleton_append] at others
      exact first.trans others
  exact after []

end Value

namespace Yaml

open Value

theorem arrangeItems_eq_map (items : List Value) :
    arrangeItems items = items.map arrange := by
  induction items with
  | nil => rfl
  | cons v rest ih => rw [arrangeItems, ih, List.map_cons]

theorem arrangeEntries_eq_map (entries : List (Value × Value)) :
    arrangeEntries entries = entries.map fun entry => (entry.1, arrange entry.2) := by
  induction entries with
  | nil => rfl
  | cons entry rest ih => rw [arrangeEntries, ih, List.map_cons]

theorem arrange_list (items : List Value) :
    arrange (.list items) = .list (items.map arrange) := by
  rw [arrange, arrangeItems_eq_map]

/-- The keys of arranged entries are those that they had. -/
theorem map_fst_arranged (entries : List (Value × Value)) :
    (entries.map fun entry => (entry.1, arrange entry.2)).map Prod.fst =
      entries.map Prod.fst := by
  rw [List.map_map]
  rfl

/-- Entries with text keys are sorted. -/
theorem arrange_map {entries : List (Value × Value)}
    (keys : ∀ entry ∈ entries, entry.1.isText = true) :
    ∃ sorted, arrange (.map entries) = .map sorted ∧
      sorted.Perm (entries.map fun entry => (entry.1, arrange entry.2)) ∧
        InOrder Prod.fst sorted := by
  have texts : ∀ entry ∈ entries.map fun entry => (entry.1, arrange entry.2),
      entry.1.isText = true := by
    intro entry inside
    obtain ⟨before, there, rfl⟩ := List.mem_map.mp inside
    exact keys before there
  obtain ⟨sorted, done, perm, order⟩ := sortOn?_texts texts
  refine ⟨sorted, ?_, perm, order⟩
  rw [arrange, arrangeEntries_eq_map]
  simp only [done, Option.getD_some]

/-- There is only one way to sort entries with distinct keys. -/
theorem arrange_map_eq {entries sorted : List (Value × Value)}
    (keys : ∀ entry ∈ entries, entry.1.isText = true)
    (distinct : (entries.map Prod.fst).Nodup)
    (perm : sorted.Perm (entries.map fun entry => (entry.1, arrange entry.2)))
    (order : InOrder Prod.fst sorted) : arrange (.map entries) = .map sorted := by
  obtain ⟨others, arranged, perm', order'⟩ := arrange_map keys
  rw [arranged]
  refine congrArg Value.map (InOrder.unique ?_ (perm'.trans perm.symm) order' order)
  rw [(perm'.map Prod.fst).nodup_iff, map_fst_arranged]
  exact distinct

/-- Sorting changes nothing but the order of entries. -/
theorem reordered_arrange {floats : Prop} {v : Value} (h : v.Plain floats) :
    v.Reordered (arrange v) := by
  induction h with
  | null | bool | int | float | text => exact .refl _
  | list parts ih =>
    rw [arrange_list]
    exact reordered_list arrange ih
  | map keys distinct parts ih =>
    obtain ⟨sorted, arranged, perm, _⟩ := arrange_map keys
    rw [arranged]
    exact (reordered_map arrange ih).trans (.perm perm.symm)

/-- Values that are the same up to the order of entries are the same when sorted. -/
theorem arrange_congr {floats : Prop} {v w : Value} (h : v.Reordered w) :
    (v.Plain floats ↔ w.Plain floats) ∧ (v.Plain floats → arrange v = arrange w) := by
  induction h with
  | refl v => exact ⟨Iff.rfl, fun _ => rfl⟩
  | symm _ ih => exact ⟨ih.1.symm, fun plain => (ih.2 (ih.1.mpr plain)).symm⟩
  | trans _ _ ih ih' =>
    exact ⟨ih.1.trans ih'.1, fun plain => (ih.2 plain).trans (ih'.2 (ih.1.mp plain))⟩
  | item before after _ ih =>
    constructor
    · simp only [plain_list_iff, List.forall_mem_append, List.forall_mem_cons, ih.1]
    · intro plain
      simp only [plain_list_iff, List.forall_mem_append, List.forall_mem_cons] at plain
      simp only [arrange_list, List.map_append, List.map_cons, ih.2 plain.2.1]
  | entry before key after _ ih =>
    constructor
    · simp only [plain_map_iff, List.forall_mem_append, List.forall_mem_cons,
        List.map_append, List.map_cons, ih.1]
    · intro plain
      simp only [plain_map_iff, List.forall_mem_append, List.forall_mem_cons] at plain
      simp only [arrange, arrangeEntries_eq_map, List.map_append, List.map_cons,
        ih.2 plain.2.2.2.1]
  | @perm entries others perm =>
    have plain_iff :
        (Value.map entries).Plain floats ↔ (Value.map others).Plain floats := by
      simp only [plain_map_iff, perm.mem_iff, (perm.map Prod.fst).nodup_iff]
    refine ⟨plain_iff, ?_⟩
    intro plain
    obtain ⟨keys, distinct, _⟩ := plain_map_iff.mp plain
    obtain ⟨keys', _, _⟩ := plain_map_iff.mp (plain_iff.mp plain)
    obtain ⟨sorted, arranged, perm', order⟩ := arrange_map keys'
    rw [arranged]
    exact arrange_map_eq keys distinct (perm'.trans (perm.map _).symm) order

/-- Sorting picks one value among those that are the same up to the order of entries. -/
theorem arrange_eq_iff {floats : Prop} {v w : Value} (hv : v.Plain floats)
    (hw : w.Plain floats) : arrange v = arrange w ↔ v.Reordered w := by
  constructor
  · intro same
    have first := reordered_arrange hv
    rw [same] at first
    exact first.trans (reordered_arrange hw).symm
  · intro reordered
    exact (arrange_congr reordered).2 hv

end Yaml

end Questionnaire
