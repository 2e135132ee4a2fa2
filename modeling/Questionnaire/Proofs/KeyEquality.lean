import Questionnaire.Entity

/-!
# Equality of keys

`==` on values compares quantities and is not equality: `1`, `1.0` and the truth value are
one key. On values that can be keys it is symmetric and transitive; it is reflexive there
but for a number that is none. Reading a table at a key needs no more than that, whatever
else the table holds.
-/

namespace Questionnaire

namespace Quantity

/-- Scaled numbers can be compared at any exponent below both. -/
theorem compareScaled_at {m e n f low : Int} (he : low ≤ e) (hf : low ≤ f) :
    compareScaled m e n f = compare (m * twoTo (e - low).toNat) (n *
      twoTo (f - low).toNat) := by
  have split : ∀ x : Int, min e f ≤ x →
      twoTo (x - low).toNat = twoTo (x - min e f).toNat * twoTo (min e f - low).toNat := by
    intro x hx
    have hsum : (x - low).toNat = (x - min e f).toNat + (min e f - low).toNat := by omega
    rw [hsum, twoTo_add]
  have hpos : (0 : Int) < twoTo (min e f - low).toNat := by
    have := twoTo_pos (min e f - low).toNat
    omega
  rw [split e (by omega), split f (by omega), compareScaled]
  push_cast
  rw [← Int.mul_assoc, ← Int.mul_assoc]
  -- a positive factor on both sides does not change the order
  rcases Int.lt_trichotomy (m * twoTo (e - min e f).toNat) (n *
    twoTo (f - min e f).toNat) with less | same | more
  · rw [Int.compare_eq_lt.mpr less, Int.compare_eq_lt.mpr
      ((Int.mul_lt_mul_right hpos).mpr less)]
  · rw [same]
    simp only [Std.ReflCmp.compare_self]
  · rw [Int.compare_eq_gt.mpr more, Int.compare_eq_gt.mpr
      ((Int.mul_lt_mul_right hpos).mpr more)]

/-- Equality of scaled numbers can be read at any exponent below both. -/
theorem compareScaled_eq_iff {m e n f low : Int} (he : low ≤ e) (hf : low ≤ f) :
    compareScaled m e n f = .eq ↔
      m * twoTo (e - low).toNat = n * twoTo (f - low).toNat := by
  rw [compareScaled_at he hf, Int.compare_eq_eq]

theorem equal_symm {a b : Quantity} (h : a.equal b = true) : b.equal a = true := by
  cases a with
  | undefined => simp [equal, compare?] at h
  | infinite s =>
    cases b with
    | undefined => simp [equal, compare?] at h
    | infinite t => cases s <;> cases t <;> simp_all [equal, compare?]
    | scaled n f => cases s <;> simp [equal, compare?] at h
  | scaled m e =>
    cases b with
    | undefined => simp [equal, compare?] at h
    | infinite t => cases t <;> simp [equal, compare?] at h
    | scaled n f =>
      simp only [equal, compare?, beq_iff_eq, Option.some.injEq] at h ⊢
      rw [compareScaled_eq_iff (Int.min_le_left e f) (Int.min_le_right e f)] at h
      rw [compareScaled_eq_iff (Int.min_le_right e f) (Int.min_le_left e f)]
      exact h.symm

theorem equal_trans {a b c : Quantity} (hab : a.equal b = true) (hbc : b.equal c = true) :
    a.equal c = true := by
  cases b with
  | undefined => simp [equal, compare?] at hbc
  | infinite t =>
    cases a with
    | undefined => simp [equal, compare?] at hab
    | infinite s => cases s <;> cases t <;> simp_all [equal, compare?]
    | scaled m e => cases t <;> simp [equal, compare?] at hab
  | scaled n f =>
    cases a with
    | undefined => simp [equal, compare?] at hab
    | infinite s => cases s <;> simp [equal, compare?] at hab
    | scaled m e =>
      cases c with
      | undefined => simp [equal, compare?] at hbc
      | infinite t => cases t <;> simp [equal, compare?] at hbc
      | scaled k g =>
        simp only [equal, compare?, beq_iff_eq, Option.some.injEq] at hab hbc ⊢
        have low : ∃ low : Int, low ≤ e ∧ low ≤ f ∧ low ≤ g :=
          ⟨min e (min f g), by omega, by omega, by omega⟩
        obtain ⟨low, he, hf, hg⟩ := low
        rw [compareScaled_eq_iff he hf] at hab
        rw [compareScaled_eq_iff hf hg] at hbc
        rw [compareScaled_eq_iff he hg]
        exact hab.trans hbc

end Quantity

namespace Value

theorem sameScalar_symm {v w : Value} (h : sameScalar v w = true) :
    sameScalar w v = true := by
  unfold sameScalar at h ⊢
  cases hv : v.quantity? with
  | some p =>
    cases hw : w.quantity? with
    | some q => simpa [hv, hw] using Quantity.equal_symm (by simpa [hv, hw] using h)
    | none => simp [hv, hw] at h
  | none =>
    cases hw : w.quantity? with
    | some q => simp [hv, hw] at h
    | none =>
      cases v <;> cases w <;> simp_all [Moment.same]

theorem sameScalar_trans {u v w : Value} (huv : sameScalar u v = true)
    (hvw : sameScalar v w = true) : sameScalar u w = true := by
  unfold sameScalar at huv hvw ⊢
  cases hv : v.quantity? with
  | some q =>
    cases hu : u.quantity? with
    | none => simp [hu, hv] at huv
    | some p =>
      cases hw : w.quantity? with
      | none => simp [hv, hw] at hvw
      | some r =>
        have hpq : p.equal q = true := by simpa [hu, hv] using huv
        have hqr : q.equal r = true := by simpa [hv, hw] using hvw
        simpa using Quantity.equal_trans hpq hqr
  | none =>
    cases hu : u.quantity? with
    | some p => simp [hu, hv] at huv
    | none =>
      cases hw : w.quantity? with
      | some r => simp [hv, hw] at hvw
      | none =>
        -- only points in time are left to compare
        cases v <;> cases u <;> simp_all
        cases w <;> simp_all [Moment.same]

/-- A value without parts, which is compared as a scalar. -/
def isPlain : Value → Bool
  | .list _ => false
  | .map _ => false
  | .combobox _ _ => false
  | _ => true

theorem same_of_isPlain {v : Value} (h : v.isPlain = true) (w : Value) :
    same v w = sameScalar v w := by
  cases v <;> simp_all [isPlain, same]

theorem isPlain_of_sameScalar {v w : Value} (h : sameScalar v w = true) :
    w.isPlain = true := by
  cases v <;> cases w <;> simp_all [sameScalar, quantity?, isPlain]

theorem isKey_of_isPlain {v : Value} (h : v.isPlain = true) : v.isKey = true := by
  cases v <;> simp_all [isPlain, isKey]

/-- What equals a value without parts has none either. -/
theorem plain_of_same {v w : Value} (hv : v.isPlain = true) (h : same v w = true) :
    w.isPlain = true ∧ sameScalar v w = true := by
  rw [same_of_isPlain hv] at h
  exact ⟨isPlain_of_sameScalar h, h⟩

/-- What equals a key is one, and the other way round. -/
theorem isKey_eq_of_same {v w : Value} (h : same v w = true) : v.isKey = w.isKey := by
  cases v with
  | combobox label value =>
    cases w with
    | combobox label' value' =>
      simp only [same, Bool.and_eq_true] at h
      simp only [isKey, isKey_eq_of_same h.1, isKey_eq_of_same h.2]
    | _ => simp [same] at h
  | list items => cases w <;> simp_all [same, isKey]
  | map entries => cases w <;> simp_all [same, isKey]
  | _ =>
    have hw := (plain_of_same rfl h).1
    rw [isKey_of_isPlain hw]
    rfl

theorem same_symm {v w : Value} (hk : v.isKey = true) (h : same v w = true) :
    same w v = true := by
  cases v with
  | combobox label value =>
    cases w with
    | combobox label' value' =>
      simp only [isKey, Bool.and_eq_true] at hk
      simp only [same, Bool.and_eq_true] at h ⊢
      exact ⟨same_symm hk.1 h.1, same_symm hk.2 h.2⟩
    | _ => simp [same] at h
  | list items => simp [isKey] at hk
  | map entries => simp [isKey] at hk
  | _ =>
    obtain ⟨hw, hs⟩ := plain_of_same rfl h
    rw [same_of_isPlain hw]
    exact sameScalar_symm hs

theorem same_trans {u v w : Value} (hk : u.isKey = true) (huv : same u v = true)
    (hvw : same v w = true) : same u w = true := by
  cases u with
  | combobox label value =>
    cases v with
    | combobox label' value' =>
      cases w with
      | combobox label'' value'' =>
        simp only [isKey, Bool.and_eq_true] at hk
        simp only [same, Bool.and_eq_true] at huv hvw ⊢
        exact ⟨same_trans hk.1 huv.1 hvw.1, same_trans hk.2 huv.2 hvw.2⟩
      | _ => simp [same] at hvw
    | _ => simp [same] at huv
  | list items => simp [isKey] at hk
  | map entries => simp [isKey] at hk
  | _ =>
    obtain ⟨hv, hs⟩ := plain_of_same rfl huv
    obtain ⟨hw, ht⟩ := plain_of_same hv hvw
    rw [same_of_isPlain rfl]
    exact sameScalar_trans hs ht

/-- Two values that equal one key are found alike: equal to a third one together or not at all. -/
theorem beq_congr {j k : Value} (hk : k.isKey = true) (hjk : (j == k) = true)
    (key : Value) : (key == j) = (key == k) := by
  have hj : j.isKey = true := (isKey_eq_of_same hjk).trans hk
  rw [Bool.eq_iff_iff]
  constructor
  · intro h
    exact same_trans ((isKey_eq_of_same h).trans hj) h hjk
  · intro h
    exact same_trans ((isKey_eq_of_same h).trans hk) h (same_symm hj hjk)

end Value

namespace Table

variable {α : Type}

theorem get?_congr (t : Table Value α) {j k : Value} (hk : k.isKey = true)
    (hjk : (j == k) = true) : get? t j = get? t k := by
  induction t with
  | nil => rfl
  | cons entry rest ih =>
    obtain ⟨key, a⟩ := entry
    simp only [get?, Value.beq_congr hk hjk key, ih]

/-- Reading a table at a key after a write to any value. -/
theorem get?_put_key (t : Table Value α) (j : Value) (a : α) {k : Value}
    (hk : k.isKey = true) : get? (put t j a) k = if j == k then some a else get? t k := by
  induction t with
  | nil => rfl
  | cons entry rest ih =>
    obtain ⟨key, b⟩ := entry
    by_cases hkey : (key == j) = true
    · have hsame : (key == k) = (j == k) := by
        rw [Bool.eq_iff_iff]
        constructor
        · intro h
          have hj : key.isKey = true := (Value.isKey_eq_of_same h).trans hk
          exact Value.same_trans ((Value.isKey_eq_of_same hkey).symm.trans hj)
            (Value.same_symm hj hkey) h
        · intro h
          rw [← Value.beq_congr hk h key]
          exact hkey
      by_cases hjk : (j == k) = true
      · simp [put, hkey, get?, hsame, hjk]
      · simp [put, hkey, get?, hsame, hjk]
    · by_cases hjk : (j == k) = true
      · have hne : ¬(key == k) = true := by rwa [← Value.beq_congr hk hjk key]
        simp [put, hkey, get?, hne, ih, hjk]
      · simp [put, hkey, get?, ih, hjk]

theorem get?_put_string (t : Table String α) (j k : String) (a : α) :
    get? (put t j a) k = if j = k then some a else get? t k := by
  by_cases h : j = k
  · subst h
    rw [get?_put_self, if_pos rfl]
  · rw [get?_put_of_ne t a h, if_neg h]

/-- In a table made of entries a key has its last entry, if writes are found under the keys
equal to their own. -/
theorem get?_putAll {κ : Type} [BEq κ] {k : κ}
    (found : ∀ (t : Table κ α) (j : κ) (a : α), get? (put t j a) k = if j == k then some a
      else get? t k)
    (t : Table κ α) (entries : List (κ × α)) :
    get? (putAll t entries) k =
      ((entries.filter fun entry => entry.1 == k).getLast?.map Prod.snd).or (get? t k) := by
  induction entries generalizing t with
  | nil => rfl
  | cons entry rest ih =>
    rw [putAll, List.foldl_cons]
    refine (ih _).trans ?_
    rw [found]
    by_cases here : (entry.1 == k) = true
    · rw [if_pos here, List.filter_cons, if_pos here, List.getLast?_cons]
      cases (rest.filter fun entry => entry.1 == k).getLast? <;> rfl
    · rw [if_neg here, List.filter_cons, if_neg here]

end Table

end Questionnaire
