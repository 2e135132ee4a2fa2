import Mathlib.Algebra.Ring.Nat
import Mathlib.Data.Prod.Lex
import Questionnaire.Calendar.Iso

/-!
# Ages and ISO dates

The age at a day is the number of years that have passed by then, month and day deciding
whether the last one is complete. A date is read again from its ISO form.
-/

namespace Questionnaire

namespace Text

theorem isDigit_of_mem_toDigits {n : Nat} {c : Char} (inside : c ∈ Nat.toDigits 10 n) :
    isDigit c = true := by
  have digit := Nat.isDigit_of_mem_toDigits (by decide) (by decide) inside
  simpa [Char.isDigit, isDigit, Char.le_def] using digit

theorem isDigit_of_mem_padded {width n : Nat} {c : Char}
    (inside : c ∈ (padded width n).toList) : isDigit c = true := by
  simp only [padded, String.toList_ofList, List.mem_append, List.mem_replicate] at inside
  rcases inside with ⟨_, rfl⟩ | inside
  · rfl
  · exact isDigit_of_mem_toDigits inside

theorem ofDigitChars_padded (width n : Nat) :
    Nat.ofDigitChars 10 (padded width n).toList 0 = n := by
  rw [padded, String.toList_ofList, Nat.ofDigitChars_append,
    Nat.ofDigitChars_replicate_zero, Nat.mul_zero, Nat.ofDigitChars_ten_toDigits]

/-- Numbers are told apart by their digits, whatever stands in front. -/
theorem padded_inj {width m n : Nat} : padded width m = padded width n ↔ m = n := by
  refine ⟨fun same => ?_, fun same => same ▸ rfl⟩
  rw [← ofDigitChars_padded width m, same, ofDigitChars_padded]

theorem length_padded {width n : Nat} (pos : 0 < width) (small : n < 10 ^ width) :
    (padded width n).toList.length = width := by
  have fits := (Nat.length_toDigits_le_iff (by decide) pos).mpr small
  simp only [padded, String.toList_ofList, List.length_append, List.length_replicate]
  omega

/-- Digits take a byte each. -/
theorem utf8ByteSize_ofList_of_digits {digits : List Char}
    (all : ∀ c ∈ digits, isDigit c = true) :
    (String.ofList digits).utf8ByteSize = digits.length := by
  induction digits with
  | nil => rfl
  | cons c digits ih =>
    have small : c.utf8Size = 1 := by
      have digit := all c List.mem_cons_self
      simp only [isDigit, Bool.and_eq_true, decide_eq_true_iff, Char.le_def] at digit
      rw [Char.utf8Size_eq_one_iff]
      exact UInt32.le_trans digit.2 (by decide)
    rw [String.ofList_cons, String.utf8ByteSize_append, String.utf8ByteSize_singleton,
      small, ih fun d inside => all d (List.mem_cons_of_mem _ inside), List.length_cons,
      Nat.add_comm]

theorem utf8ByteSize_padded {width n : Nat} (pos : 0 < width) (small : n < 10 ^ width) :
    (padded width n).utf8ByteSize = width := by
  have digits :=
    utf8ByteSize_ofList_of_digits fun c (inside : c ∈ (padded width n).toList) =>
    isDigit_of_mem_padded inside
  rwa [String.ofList_toList, length_padded pos small] at digits

end Text

namespace Date

/-! ### Ages -/

/-- The year, month and day so many years later, in the order of the calendar. A 29 February
may not exist there. -/
def yearsLater (d : Date) (years : ℤ) : ℤ ×ₗ ℕ ×ₗ ℕ :=
  toLex (d.year + years, toLex (d.month, d.day))

theorem beforeInYear_iff (d e : Date) :
    d.beforeInYear e = true ↔ d.month < e.month ∨ d.month = e.month ∧ d.day < e.day := by
  simp [beforeInYear]

/-- A birthday has come and the next one has not. -/
theorem eq_age_iff (birth today : Date) (years : ℤ) :
    years = birth.age today ↔
      birth.yearsLater years ≤ today.yearsLater 0 ∧
        today.yearsLater 0 < birth.yearsLater (years + 1) := by
  simp only [yearsLater, Prod.Lex.toLex_le_toLex, Prod.Lex.toLex_lt_toLex, age,
    beforeInYear_iff]
  split <;> omega

/-- Who is born on a 1 January is as old as the years apart. -/
theorem age_of_newYear {birth : Date} (month : birth.month = 1) (day : birth.day = 1)
    (today : Date) : birth.age today = today.year - birth.year := by
  obtain ⟨_, ⟨first, _⟩, start, _⟩ := today.valid
  have later : ¬ today.beforeInYear birth = true := by
    rw [beforeInYear_iff]
    omega
  simp [age, later]

/-! ### Dates in ISO form -/

/-- A run of digits is read as its number. -/
theorem digits?_append {digits : List Char} (all : ∀ c ∈ digits, Text.isDigit c = true)
    (rest : List Char) :
    digits? digits.length (digits ++ rest) = some (Nat.ofDigitChars 10 digits 0, rest) := by
  induction digits with
  | nil => rfl
  | cons c digits ih =>
    have later := ih fun d inside => all d (List.mem_cons_of_mem _ inside)
    have weighed : Nat.ofDigitChars 10 (c :: digits) 0 =
        10 ^ digits.length * (c.toNat - 48) + Nat.ofDigitChars 10 digits 0 := by
      rw [Nat.ofDigitChars_cons, Nat.mul_zero, Nat.zero_add]
      exact Nat.ofDigitChars_eq_ofDigitChars_zero
    rw [List.length_cons, List.cons_append, digits?, if_pos (all c List.mem_cons_self),
      later, weighed, Nat.mul_comm (10 ^ digits.length)]
    rfl

theorem digits?_padded {width n : Nat} (pos : 0 < width) (small : n < 10 ^ width)
    (rest : List Char) :
    digits? width ((Text.padded width n).toList ++ rest) = some (n, rest) := by
  have digits : ∀ c ∈ (Text.padded width n).toList, Text.isDigit c = true :=
    fun _ => Text.isDigit_of_mem_padded
  have read := digits?_append digits rest
  rwa [Text.length_padded pos small, Text.ofDigitChars_padded] at read

/-- Month and day are below 100. -/
theorem small_parts (d : Date) : d.year < 10 ^ 4 ∧ d.month < 10 ^ 2 ∧ d.day < 10 ^ 2 := by
  have length : monthLength d.year d.month ≤ 31 := by
    unfold monthLength
    split
    · split <;> omega
    · split <;> omega
  obtain ⟨⟨_, year⟩, ⟨_, month⟩, _, day⟩ := d.valid
  omega

/-- Every date is read from its ISO form. -/
theorem ofIso_iso (d : Date) : ofIso d.iso = .ok d := by
  obtain ⟨year, month, day⟩ := d.small_parts
  have size : d.iso.utf8ByteSize = 10 := by
    rw [iso]
    simp only [String.utf8ByteSize_append, Text.utf8ByteSize_padded (by decide) year,
      Text.utf8ByteSize_padded (by decide) month, Text.utf8ByteSize_padded (by decide) day]
    rfl
  have text : d.iso.toList = (Text.padded 4 d.year).toList ++
      '-' :: ((Text.padded 2 d.month).toList ++ '-' :: (Text.padded 2 d.day).toList) := by
    simp [iso]
  have readDay := digits?_padded (by decide) day []
  rw [List.append_nil] at readDay
  have readMonth := digits?_padded (by decide) month ('-' :: (Text.padded 2 d.day).toList)
  have parts : readMonth? d.year true
      ((Text.padded 2 d.month).toList ++ '-' :: (Text.padded 2 d.day).toList) =
        some (d.year, d.month, d.day) := by
    simp [readMonth?, readMonth, dash?, readDay]
  simp only [ofIso, size, text, digits?_padded (by decide) year]
  -- no week: the month starts with a digit
  cases start : (Text.padded 2 d.month).toList ++ '-' :: (Text.padded 2 d.day).toList with
  | nil => simp at start
  | cons c rest =>
    rw [start] at parts readMonth
    by_cases week : c = 'W'
    · subst week
      simp [digits?, Text.isDigit] at readMonth
    · simp [week, parts, ofParts_parts]

end Date

end Questionnaire
