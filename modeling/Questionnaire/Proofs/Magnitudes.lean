import Questionnaire.Decimal.Reading
import Questionnaire.Proofs.KeyEquality

/-!
# Magnitudes

Quantities are ordered exactly, so that one below a second that is below a third is below
the third. A number that is read has a mantissa below 2^53 and an exponent of at most 971;
the whole number that it is, if it is one, can therefore be turned back into a number. Whole
numbers from elsewhere can be too large for that.
-/

namespace Questionnaire

namespace Quantity

theorem less_trans {a b c : Quantity} (hab : a.less b = true) (hbc : b.less c = true) :
    a.less c = true := by
  cases b with
  | undefined => simp [less, compare?] at hbc
  | infinite t =>
    cases t with
    | true =>
      -- nothing is below the negative infinity
      cases a with
      | undefined => simp [less, compare?] at hab
      | infinite s => cases s <;> simp [less, compare?] at hab
      | scaled m e => simp [less, compare?] at hab
    | false =>
      cases c with
      | undefined => simp [less, compare?] at hbc
      | infinite s => cases s <;> simp [less, compare?] at hbc
      | scaled k g => simp [less, compare?] at hbc
  | scaled n f =>
    cases a with
    | undefined => simp [less, compare?] at hab
    | infinite s =>
      cases s with
      | false => simp [less, compare?] at hab
      | true =>
        cases c with
        | undefined => simp [less, compare?] at hbc
        | infinite t => cases t <;> simp_all [less, compare?]
        | scaled k g => simp [less, compare?]
    | scaled m e =>
      cases c with
      | undefined => simp [less, compare?] at hbc
      | infinite t => cases t <;> simp_all [less, compare?]
      | scaled k g =>
        simp only [less, compare?, beq_iff_eq, Option.some.injEq] at hab hbc ⊢
        obtain ⟨low, he, hf, hg⟩ : ∃ low : Int, low ≤ e ∧ low ≤ f ∧ low ≤ g :=
          ⟨min e (min f g), by omega, by omega, by omega⟩
        rw [compareScaled_at he hf, Int.compare_eq_lt] at hab
        rw [compareScaled_at hf hg, Int.compare_eq_lt] at hbc
        rw [compareScaled_at he hg, Int.compare_eq_lt]
        omega

end Quantity

namespace Binary64

/-- A quotient that is at most a whole number is not rounded beyond it. -/
theorem divideEven_le {n d k : Nat} (hd : 0 < d) (h : n ≤ k * d) : divideEven n d ≤ k := by
  have size : d * (n / d) + n % d = n := Nat.div_add_mod n d
  have bound : n / d ≤ k := Nat.div_le_of_le_mul (by rw [Nat.mul_comm]; exact h)
  by_cases whole : n / d = k
  · -- then nothing is left over
    have rest : n % d = 0 := by
      rw [whole, Nat.mul_comm] at size
      omega
    simp [divideEven, rest, hd, bound]
  · simp only [divideEven]
    split
    · exact bound
    · split
      · omega
      · have := Nat.mod_lt (n / d) (show 0 < 2 by omega)
        omega

/-- A quotient whose length fits into 53 bits behind the exponent is below 2^53 of its units. -/
theorem unscale_lt {n d : Nat} {e : Int} (hd : 0 < d)
    (h : (n.log2 : Int) < 53 + e + d.log2) :
    (unscale n d e).1 < twoTo 53 * (unscale n d e).2 := by
  have above : n < twoTo (n.log2 + 1) := Nat.lt_log2_self
  have below : twoTo d.log2 ≤ d := Nat.log2_self_le (by omega)
  have powers : twoTo (n.log2 + 1) * twoTo (-e).toNat ≤ twoTo 53 *
      (twoTo d.log2 * twoTo e.toNat) := by
    rw [← twoTo_add, ← twoTo_add, ← twoTo_add]
    apply twoTo_le_twoTo
    omega
  calc n * twoTo (-e).toNat
      < twoTo (n.log2 + 1) * twoTo (-e).toNat :=
        Nat.mul_lt_mul_of_pos_right above (twoTo_pos _)
    _ ≤ twoTo 53 * (twoTo d.log2 * twoTo e.toNat) := powers
    _ ≤ twoTo 53 * (d * twoTo e.toNat) :=
      Nat.mul_le_mul_left _ (Nat.mul_le_mul_right _ below)

/-- The mantissa and the exponent are within the upper bounds of the format. -/
def InRange : Binary64 → Prop
  | .finite _ m e => m < twoTo 53 ∧ e ≤ 971
  | _ => True

theorem inRange_normalize {negative : Bool} {m : Nat} {e : Int} (h : m ≤ twoTo 53) :
    (normalize negative m e).InRange := by
  have half : twoTo 52 < twoTo 53 := by decide
  unfold normalize
  split
  rename_i m' e' brought
  split
  · trivial
  · refine ⟨?_, by omega⟩
    split at brought <;> obtain ⟨rfl, rfl⟩ := Prod.mk.inj brought
    · exact half
    · omega

/-- No infinity is made at an exponent of the format, unless a mantissa of 2^53 carries to
the next one. -/
theorem exists_normalize {negative : Bool} {m : Nat} {e : Int} (he : e ≤ 971)
    (room : m = twoTo 53 → e ≠ 971) :
    ∃ m' e', normalize negative m e = .finite negative m' e' := by
  unfold normalize
  by_cases carried : m = twoTo 53
  · have below := room carried
    rw [if_pos carried]
    simp only
    rw [if_neg (by omega)]
    exact ⟨_, _, rfl⟩
  · rw [if_neg carried]
    simp only
    rw [if_neg (by omega)]
    exact ⟨_, _, rfl⟩

/-- The exponent that a quotient is given: the least of the format, or the one that leaves
53 bits. -/
def exponentOf (n d : Nat) : Int :=
  let guess := max ((n.log2 : Int) - d.log2 - 53) least
  if twoTo 53 ≤ (unscale n d guess).1 / (unscale n d guess).2 then guess + 1 else guess

theorem exponentOf_le (n d : Nat) :
    exponentOf n d ≤ max ((n.log2 : Int) - d.log2 - 53) least + 1 := by
  simp only [exponentOf]
  split <;> omega

theorem ofQuotient_eq {negative : Bool} {n d : Nat} (hn : n ≠ 0) :
    ofQuotient negative n d =
      normalize negative (divideEven (unscale n d (exponentOf n d)).1
        (unscale n d (exponentOf n d)).2)
        (exponentOf n d) := by
  rw [ofQuotient, if_neg hn]
  rfl

theorem unscale_pos {n d : Nat} (hd : 0 < d) (e : Int) : 0 < (unscale n d e).2 :=
  Nat.mul_pos hd (twoTo_pos _)

/-- Rounded, a quotient has at most 2^53 units. -/
theorem divideEven_unscale_le (n : Nat) {d : Nat} (hd : 0 < d) :
    divideEven (unscale n d (exponentOf n d)).1 (unscale n d (exponentOf n d)).2 ≤
      twoTo 53 := by
  apply divideEven_le (unscale_pos hd _)
  apply Nat.le_of_lt
  simp only [exponentOf]
  split
  · exact unscale_lt hd (by omega)
  · rename_i low
    exact (Nat.div_lt_iff_lt_mul (unscale_pos hd _)).mp (Nat.lt_of_not_le low)

theorem inRange_ofQuotient (negative : Bool) (n : Nat) {d : Nat} (hd : 0 < d) :
    (ofQuotient negative n d).InRange := by
  by_cases hn : n = 0
  · rw [ofQuotient, if_pos hn]
    exact ⟨twoTo_pos 53, by decide⟩
  · rw [ofQuotient_eq hn]
    exact inRange_normalize (divideEven_unscale_le n hd)

theorem inRange_ofDecimal (negative : Bool) (digits : Nat) (power : Int) :
    (ofDecimal negative digits power).InRange := by
  simp only [ofDecimal]
  split
  · exact ⟨twoTo_pos 53, by decide⟩
  · split
    · trivial
    · exact inRange_ofQuotient negative _ (tenTo_pos _)

/-- The size of the greatest finite number. -/
def greatest : Nat := (twoTo 53 - 1) * twoTo 971

theorem log2_lt_of_lt_twoTo {n k : Nat} (hn : n ≠ 0) (h : n < twoTo k) : n.log2 < k :=
  (Nat.log2_lt hn).mpr h

theorem log2_lt_of_le_greatest {n : Nat} (hn : n ≠ 0) (h : n ≤ greatest) :
    n.log2 < 1024 := by
  have below : n < twoTo 1024 := by
    calc n ≤ (twoTo 53 - 1) * twoTo 971 := h
      _ < twoTo 53 * twoTo 971 :=
        Nat.mul_lt_mul_of_pos_right (Nat.sub_one_lt_of_lt (twoTo_pos 53)) (twoTo_pos 971)
      _ = twoTo 1024 := (twoTo_add 53 971).symm
  exact log2_lt_of_lt_twoTo hn below

/-- A whole number up to the greatest finite number is not rounded to an infinity. -/
theorem exists_ofInt? {n : Int} (h : n.natAbs ≤ greatest) : ∃ x, ofInt? n = some x := by
  by_cases hn : n.natAbs = 0
  · rw [ofInt?, ofQuotient, if_pos hn]
    exact ⟨_, rfl⟩
  · have length := log2_lt_of_le_greatest hn h
    have exponent : exponentOf n.natAbs 1 ≤ 971 := by
      have bound := exponentOf_le n.natAbs 1
      have one : Nat.log2 1 = 0 := by decide
      rw [one, least] at bound
      omega
    obtain ⟨m, e, rounded⟩ :
        ∃ m e, ofQuotient (decide (n < 0)) n.natAbs 1 = .finite (decide (n < 0)) m e := by
      rw [ofQuotient_eq hn]
      apply exists_normalize exponent
      intro carried top
      -- at the greatest exponent the bound leaves no room for a carry
      rw [top] at carried
      have size : divideEven (unscale n.natAbs 1 971).1 (unscale n.natAbs 1 971).2 ≤
          twoTo 53 - 1 := by
        apply divideEven_le (unscale_pos (by omega) _)
        simpa [unscale, greatest] using h
      have := twoTo_pos 53
      omega
    rw [ofInt?, rounded]
    exact ⟨_, rfl⟩

/-- The whole number that a number in range is can be turned back into a number. -/
theorem exists_ofInt?_of_toInt? {x : Binary64} (inRange : x.InRange) {n : Int}
    (whole : x.toInt? = some n) : ∃ y, ofInt? n = some y := by
  cases x with
  | nan => cases whole
  | infinite negative => cases whole
  | finite negative m e =>
    obtain ⟨hm, he⟩ := inRange
    apply exists_ofInt?
    have size : n.natAbs = m * twoTo e.toNat / twoTo (-e).toNat := by
      simp only [toInt?] at whole
      split at whole
      · cases negative <;> cases whole <;>
          simp only [Bool.false_eq_true, if_false, if_true, Int.natAbs_neg,
            Int.natAbs_natCast]
      · cases whole
    calc n.natAbs
        = m * twoTo e.toNat / twoTo (-e).toNat := size
      _ ≤ m * twoTo e.toNat := Nat.div_le_self _ _
      _ ≤ (twoTo 53 - 1) * twoTo 971 :=
        Nat.mul_le_mul (by omega) (twoTo_le_twoTo (by omega))

end Binary64

/-- Numbers that are read are in range. -/
theorem Decimal.inRange_of_read? {text : List Char} {x : Binary64}
    (read : Decimal.read? text = some x) : x.InRange := by
  unfold Decimal.read? at read
  split at read
  split at read
  split at read
  split at read
  · cases read
  · obtain ⟨power, _, rfl⟩ := Option.map_eq_some_iff.mp read
    exact Binary64.inRange_ofDecimal _ _ _

/-- The value is no whole number that is too large for a floating-point number. -/
def Value.Fits : Value → Prop
  | .int n => (Binary64.ofInt? n).isSome = true
  | _ => True

instance (v : Value) : Decidable v.Fits := by
  unfold Value.Fits
  split <;> infer_instance

end Questionnaire
