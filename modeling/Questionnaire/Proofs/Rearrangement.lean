import Mathlib.Data.List.Nodup
import Mathlib.Data.List.Perm.Basic

/-!
# Exchanging neighbours

A list is rearranged by exchanging neighbours, as far as these are free of each other. Every
permutation that keeps the order of any two elements that are not free of each other is such
a rearrangement.
-/

namespace Questionnaire

/-- The second list comes from the first by exchanging neighbours that are free of each other. -/
inductive Swaps {α : Type} (free : α → α → Prop) : List α → List α → Prop where
  | refl (l : List α) : Swaps free l l
  | cons (a : α) {l l' : List α} (tail : Swaps free l l') : Swaps free (a :: l) (a :: l')
  | swap {a b : α} (l : List α) (h : free a b) : Swaps free (a :: b :: l) (b :: a :: l)
  | trans {l l' l'' : List α} (first : Swaps free l l') (rest : Swaps free l' l'') :
      Swaps free l l''

namespace Swaps

variable {α β : Type} {free : α → α → Prop} {l l' : List α}

theorem perm (h : Swaps free l l') : l.Perm l' := by
  induction h with
  | refl l => exact .refl l
  | cons a _ ih => exact ih.cons a
  | swap l _ => exact .swap _ _ l
  | trans _ _ ih ih' => exact ih.trans ih'

theorem append_left (first : List α) (h : Swaps free l l') :
    Swaps free (first ++ l) (first ++ l') := by
  induction first with
  | nil => exact h
  | cons a rest ih => exact .cons a ih

theorem append_right (h : Swaps free l l') (rest : List α) :
    Swaps free (l ++ rest) (l' ++ rest) := by
  induction h with
  | refl l => exact .refl _
  | cons a _ ih => exact .cons a ih
  | swap l h => exact .swap _ h
  | trans _ _ ih ih' => exact ih.trans ih'

/-- An element moves to the front past elements that are free of it. -/
theorem toFront {a : α} {first : List α} (h : ∀ x ∈ first, free x a) (rest : List α) :
    Swaps free (first ++ a :: rest) (a :: (first ++ rest)) := by
  induction first with
  | nil => exact .refl _
  | cons x tail ih =>
    have moved : Swaps free (tail ++ a :: rest) (a :: (tail ++ rest)) :=
      ih fun y inside => h y (List.mem_cons_of_mem x inside)
    exact (moved.cons x).trans (.swap _ (h x List.mem_cons_self))

/-- Two blocks change places if their elements are free of each other. -/
theorem blocks {first second : List α} (h : ∀ x ∈ first, ∀ y ∈ second, free x y)
    (rest : List α) :
    Swaps free (first ++ (second ++ rest)) (second ++ (first ++ rest)) := by
  induction second with
  | nil => exact .refl _
  | cons y tail ih =>
    have front :
        Swaps free (first ++ y :: (tail ++ rest)) (y :: (first ++ (tail ++ rest))) :=
      toFront (fun x inside => h x inside y List.mem_cons_self) _
    have later : Swaps free (first ++ (tail ++ rest)) (tail ++ (first ++ rest)) :=
      ih fun x inside z there => h x inside z (List.mem_cons_of_mem y there)
    exact front.trans (later.cons y)

/-- Exchanging elements exchanges the blocks that they stand for. -/
theorem flatMap {free' : β → β → Prop} {f : α → List β}
    (respects : ∀ a b, free a b → ∀ x ∈ f a, ∀ y ∈ f b, free' x y) (h : Swaps free l l') :
    Swaps free' (l.flatMap f) (l'.flatMap f) := by
  induction h with
  | refl l => exact .refl _
  | cons a _ ih =>
    simp only [List.flatMap_cons]
    exact append_left (f a) ih
  | swap l h =>
    simp only [List.flatMap_cons]
    exact blocks (respects _ _ h) _
  | trans _ _ ih ih' => exact ih.trans ih'

theorem sublist_of_cons {a b y : α} {rest : List α} (other : a ≠ y)
    (h : [a, b].Sublist (y :: rest)) : [a, b].Sublist rest := by
  cases h with
  | cons _ tail => exact tail
  | cons_cons _ _ => exact absurd rfl other

/-- A permutation that keeps the order of any two elements that are not free of each other. -/
theorem of_perm {first second : List α} (distinct : first.Nodup) (perm : first.Perm second)
    (kept : ∀ a b, ¬free a b → [a, b].Sublist first → [a, b].Sublist second) :
    Swaps free first second := by
  induction second generalizing first with
  | nil =>
    rw [perm.eq_nil]
    exact .refl []
  | cons y rest ih =>
    obtain ⟨before, after, rfl⟩ := List.append_of_mem (perm.mem_iff.mpr List.mem_cons_self)
    have others : ∀ a ∈ before ++ after, a ≠ y := by
      rintro a inside rfl
      exact (List.nodup_middle.mp distinct).notMem inside
    -- what comes first in the new order was free of all that stood before it
    have free : ∀ x ∈ before, free x y := by
      intro x inside
      by_contra bound
      have ordered : [x, y].Sublist (before ++ y :: after) :=
        (List.singleton_sublist.mpr inside).append
        (List.singleton_sublist.mpr List.mem_cons_self)
      have later : [x, y].Sublist rest :=
        sublist_of_cons (others x (List.mem_append_left after inside))
          (kept x y bound ordered)
      have there : y ∈ rest := later.subset (by simp)
      exact (List.nodup_cons.mp (perm.nodup_iff.mp distinct)).1 there
    have front : Swaps _ (before ++ y :: after) (y :: (before ++ after)) :=
      toFront free after
    have perm' : (before ++ after).Perm rest := (List.perm_middle.symm.trans perm).cons_inv
    refine front.trans (.cons y (ih (List.nodup_middle.mp distinct).of_cons perm' ?_))
    intro a b bound ordered
    have inside : a ∈ before ++ after := ordered.subset List.mem_cons_self
    have still : (before ++ after).Sublist (before ++ y :: after) :=
      (List.Sublist.refl before).append (List.sublist_cons_self y after)
    exact sublist_of_cons (others a inside) (kept a b bound (ordered.trans still))

end Swaps

end Questionnaire
