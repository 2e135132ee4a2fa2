import Mathlib.Tactic.Common
import Questionnaire.Digits

/-!
# Results under a limit on digits

A guarded result is there if some numbers keep to the limit on digits, and refused if they
do not. What is put together from guarded results is guarded.
-/

namespace Questionnaire

namespace Value

variable {limit : Nat}

theorem within_list {items : List Value} :
    (Value.list items).Within limit ↔ ∀ v ∈ items, v.Within limit := by
  induction items with
  | nil => simp [Within, wholes, wholesOfItems]
  | cons v rest ih =>
    simp only [Within, wholes, wholesOfItems, List.forall_mem_append,
      List.forall_mem_cons] at ih ⊢
    rw [ih]

theorem within_map {entries : List (Value × Value)} :
    (Value.map entries).Within limit ↔
      ∀ entry ∈ entries, entry.1.Within limit ∧ entry.2.Within limit := by
  induction entries with
  | nil => simp [Within, wholes, wholesOfEntries]
  | cons entry rest ih =>
    simp only [Within, wholes, wholesOfEntries, List.forall_mem_append,
      List.forall_mem_cons] at ih ⊢
    rw [ih]

theorem within_int {n : Int} : (Value.int n).Within limit ↔ Digits.fit limit n = true := by
  simp [Within, wholes]

theorem within_of_isText {v : Value} (h : v.isText = true) : v.Within limit := by
  cases v with
  | text s => simp [Within, wholes]
  | _ => cases h

/-- The limit 0 is none. -/
theorem within_zero (v : Value) : v.Within 0 := by
  intro n _
  rfl

end Value

namespace Digits

variable {limit : Nat} {p q : Prop} {α β : Type}

/-- The result is `a` under a condition on digits, and refused without it. -/
structure Guarded (limit : Nat) (fits : Prop) (result : Except Failure α) (a : α) : Prop where
  ok : fits → result = .ok a
  refused : ¬fits → result = .error (tooMany limit)

theorem Guarded.of_ok {result : Except Failure α} {a : α} (fits : p) (h : result = .ok a) :
    Guarded limit p result a :=
  ⟨fun _ => h, fun beyond => absurd fits beyond⟩

theorem Guarded.bind {first : Except Failure α} {next : α → Except Failure β} {a : α}
    {b : β} (h : Guarded limit p first a) (h' : Guarded limit q (next a) b) :
    Guarded limit (p ∧ q) (first >>= next) b := by
  constructor
  · rintro ⟨fits, others⟩
    rw [h.ok fits]
    exact h'.ok others
  · intro beyond
    by_cases fits : p
    · rw [h.ok fits]
      exact h'.refused fun others => beyond ⟨fits, others⟩
    · rw [h.refused fits]
      rfl

theorem Guarded.map {first : Except Failure α} {a : α} (f : α → β)
    (h : Guarded limit p first a) : Guarded limit p (first.map f) (f a) := by
  constructor
  · intro fits
    rw [h.ok fits]
    rfl
  · intro beyond
    rw [h.refused beyond]
    rfl

theorem guarded_write (limit : Nat) (n : Int) :
    Guarded limit (fit limit n = true) (write limit n) (toString n) :=
  ⟨fun fits => if_pos fits, fun beyond => if_neg beyond⟩

end Digits

end Questionnaire
