import Mathlib.Data.List.Forall2
import Mathlib.Data.List.Nodup
import Mathlib.Data.List.Perm.Basic
import Mathlib.Tactic.Common
import Questionnaire.Value.Order

/-!
# Sorting by keys

Sorting succeeds if and only if each key can be compared with those before it. Texts always
can. The result is a permutation in which no key comes after a later one; if the keys are
distinct texts there is only one such.
-/

namespace Questionnaire.Value

/-- Both are texts, and the first is not above the second. -/
def TextLE (v w : Value) : Prop := ∃ s t : String, v = .text s ∧ w = .text t ∧ s ≤ t

theorem TextLE.trans {u v w : Value} (h : TextLE u v) (h' : TextLE v w) : TextLE u w := by
  obtain ⟨r, s, rfl, rfl, first⟩ := h
  obtain ⟨_, t, ⟨⟩, rfl, second⟩ := h'
  exact ⟨r, t, rfl, rfl, String.le_trans first second⟩

theorem TextLE.antisymm {v w : Value} (h : TextLE v w) (h' : TextLE w v) : v = w := by
  obtain ⟨s, t, rfl, rfl, first⟩ := h
  obtain ⟨_, _, ⟨⟩, ⟨⟩, second⟩ := h'
  rw [String.le_antisymm first second]

/-- The second value can be compared with the first. -/
abbrev Compares (v w : Value) : Prop := (below? w v).isSome = true

/-- The two values can be compared, and the relation holds from the one that goes first to
the other. -/
def Places (R : Value → Value → Prop) (v w : Value) : Prop :=
  (below? w v = some true ∧ R w v) ∨ (below? w v = some false ∧ R v w)

theorem places_true_iff {v w : Value} : Places (fun _ _ => True) v w ↔ Compares v w := by
  rw [Places, Compares, Option.isSome_iff_exists, Bool.exists_bool]
  simp only [and_true, or_comm]

theorem Places.compares {R : Value → Value → Prop} {v w : Value} (h : Places R v w) :
    Compares v w := by
  rcases h with ⟨compared, _⟩ | ⟨compared, _⟩ <;> rw [Compares, compared] <;> rfl

theorem places_texts {v w : Value} (hv : v.isText = true) (hw : w.isText = true) :
    Places TextLE v w := by
  cases v with
  | text s =>
    cases w with
    | text t =>
      have compared : below? (.text t) (.text s) = some (decide (t < s)) := rfl
      by_cases less : t < s
      · left
        rw [compared, decide_eq_true less]
        exact ⟨rfl, t, s, rfl, rfl, Std.le_of_lt less⟩
      · right
        rw [compared, decide_eq_false less]
        exact ⟨rfl, s, t, rfl, rfl, String.not_lt.mp less⟩
    | _ => cases hw
  | _ => cases hv

theorem comparable_iff {values : List Value} :
    comparable values = true ↔ values.Pairwise Compares := by
  induction values with
  | nil => simp [comparable]
  | cons v rest ih => simp [comparable, ih]

variable {α : Type} {value : α → Value}

section Insertion

variable {R : Value → Value → Prop}

theorem exists_insertSorted {a : α} {sorted : List α}
    (each : ∀ b ∈ sorted, Places R (value b) (value a))
    (order : sorted.Pairwise fun b c => R (value b) (value c))
    (trans : ∀ u v w, R u v → R v w → R u w) :
    ∃ result, insertSorted value a sorted = some result ∧ result.Perm (a :: sorted) ∧
      result.Pairwise fun b c => R (value b) (value c) := by
  induction sorted with
  | nil => exact ⟨[a], rfl, .refl _, List.pairwise_singleton _ _⟩
  | cons b rest ih =>
    obtain ⟨here, later⟩ := List.forall_mem_cons.mp each
    obtain ⟨least, tail⟩ := List.pairwise_cons.mp order
    rcases here with ⟨compared, first⟩ | ⟨compared, first⟩
    · refine ⟨a :: b :: rest, by simp [insertSorted, compared], .refl _, ?_⟩
      refine List.pairwise_cons.mpr ⟨?_, order⟩
      intro c inside
      rcases List.mem_cons.mp inside with rfl | later
      · exact first
      · exact trans _ _ _ first (least c later)
    · obtain ⟨result, inserted, perm, sorted⟩ := ih later tail
      refine ⟨b :: result, by simp [insertSorted, compared, inserted], ?_, ?_⟩
      · exact (perm.cons b).trans (.swap a b rest)
      · refine List.pairwise_cons.mpr ⟨?_, sorted⟩
        intro c inside
        rcases List.mem_cons.mp (perm.mem_iff.mp inside) with rfl | later
        · exact first
        · exact least c later

theorem exists_foldlM_insertSorted {elements sorted : List α}
    (across : ∀ b ∈ sorted, ∀ a ∈ elements, Places R (value b) (value a))
    (each : elements.Pairwise fun a b => Places R (value a) (value b))
    (order : sorted.Pairwise fun b c => R (value b) (value c))
    (trans : ∀ u v w, R u v → R v w → R u w) :
    ∃ result, elements.foldlM (fun sorted a => insertSorted value a sorted) sorted =
      some result ∧
      result.Perm (sorted ++ elements) ∧ result.Pairwise fun b c =>
        R (value b) (value c) := by
  induction elements generalizing sorted with
  | nil => exact ⟨sorted, rfl, by simp, order⟩
  | cons a rest ih =>
    obtain ⟨first, others⟩ := List.pairwise_cons.mp each
    obtain ⟨next, inserted, perm, order'⟩ :=
      exists_insertSorted (fun b inside => across b inside a List.mem_cons_self) order trans
    have moved : ∀ b ∈ next, ∀ c ∈ rest, Places R (value b) (value c) := by
      intro b inside c later
      rcases List.mem_cons.mp (perm.mem_iff.mp inside) with rfl | earlier
      · exact first c later
      · exact across b earlier c (List.mem_cons_of_mem _ later)
    obtain ⟨result, folded, perm', sorted'⟩ := ih moved others order'
    refine ⟨result, ?_, perm'.trans ((perm.append_right rest).trans List.perm_middle.symm),
      sorted'⟩
    rw [List.foldlM_cons, inserted]
    exact folded

/-- Elements that can be compared with those before them can be sorted, and stand as the
comparisons say. -/
theorem exists_sorted {elements : List α}
    (each : elements.Pairwise fun a b => Places R (value a) (value b))
    (trans : ∀ u v w, R u v → R v w → R u w) :
    ∃ sorted, sortOn? value elements = some sorted ∧ sorted.Perm elements ∧
      sorted.Pairwise fun b c => R (value b) (value c) := by
  have compared : comparable (elements.map value) = true :=
    comparable_iff.mpr (List.pairwise_map.mpr (each.imp Places.compares))
  have nothing : ∀ b ∈ ([] : List α), ∀ a ∈ elements, Places R (value b) (value a) := nofun
  obtain ⟨sorted, folded, perm, order⟩ := exists_foldlM_insertSorted nothing each .nil trans
  exact ⟨sorted, by rw [sortOn?, if_pos compared, folded], perm, order⟩

end Insertion

/-! ### Sorting by texts -/

/-- The elements stand in the order of their values. -/
abbrev InOrder (value : α → Value) (elements : List α) : Prop :=
  elements.Pairwise fun a b => TextLE (value a) (value b)

/-- Elements whose values are texts can be sorted by them. -/
theorem sortOn?_texts {elements : List α}
    (texts : ∀ a ∈ elements, (value a).isText = true) :
    ∃ sorted, sortOn? value elements = some sorted ∧ sorted.Perm elements ∧
      InOrder value sorted := by
  have each : elements.Pairwise fun a b => Places TextLE (value a) (value b) :=
    List.pairwise_of_forall_mem_list fun a ha b hb => places_texts (texts a ha) (texts b hb)
  exact exists_sorted each fun _ _ _ => TextLE.trans

/-- Elements with distinct values stand in one order only. -/
theorem InOrder.unique {elements others : List α} (distinct : (elements.map value).Nodup)
    (perm : elements.Perm others) (order : InOrder value elements)
    (order' : InOrder value others) : elements = others := by
  refine List.Perm.eq_of_pairwise ?_ order order' perm
  intro a b ha hb first second
  exact List.inj_on_of_nodup_map distinct ha (perm.mem_iff.mpr hb) (first.antisymm second)

/-- What is in order by its values is so element by element. -/
theorem InOrder.forall₂ {β : Type} {other : β → Value} {elements : List α} {others : List β}
    (same : List.Forall₂ (fun a b => value a = other b) elements others)
    (order : InOrder value elements) : InOrder other others := by
  have values : elements.map value = others.map other :=
    List.forall₂_eq_eq_eq ▸ List.forall₂_map_left_iff.mpr
      (List.forall₂_map_right_iff.mpr same)
  rw [InOrder, ← List.pairwise_map] at order ⊢
  rw [← values]
  exact order

/-! ### When sorting fails -/

/-- Elements can be sorted if and only if each can be compared with those before it. -/
theorem exists_sortOn? {elements : List α} :
    (∃ sorted, sortOn? value elements = some sorted) ↔ elements.Pairwise fun a b =>
      Compares (value a) (value b) := by
  constructor
  · rintro ⟨sorted, done⟩
    unfold sortOn? at done
    split at done
    · rename_i compared
      exact List.pairwise_map.mp (comparable_iff.mp compared)
    · cases done
  · intro each
    obtain ⟨sorted, done, _⟩ :=
      exists_sorted (each.imp places_true_iff.mpr) fun _ _ _ _ _ => trivial
    exact ⟨sorted, done⟩

theorem perm_of_sortOn? {elements sorted : List α}
    (done : sortOn? value elements = some sorted) : sorted.Perm elements := by
  have each := exists_sortOn?.mp ⟨_, done⟩
  obtain ⟨result, same, perm, _⟩ :=
    exists_sorted (each.imp places_true_iff.mpr) fun _ _ _ _ _ => trivial
  cases done.symm.trans same
  exact perm

/-- Two elements that cannot be compared stop a sorting. -/
theorem exists_of_sortOn?_eq_none {elements : List α}
    (stopped : sortOn? value elements = none) :
    ∃ a b, [a, b].Sublist elements ∧ ¬ Compares (value a) (value b) := by
  have fails : ¬ elements.Pairwise fun a b => Compares (value a) (value b) := by
    rw [← exists_sortOn?, stopped]
    rintro ⟨sorted, done⟩
    cases done
  rw [List.pairwise_iff_forall_sublist] at fails
  by_contra all
  refine fails fun {a b} inside => ?_
  by_contra odd
  exact all ⟨a, b, inside, odd⟩

end Questionnaire.Value
