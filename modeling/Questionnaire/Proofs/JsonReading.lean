import Mathlib.Data.List.Forall2
import Mathlib.Data.List.TakeDrop
import Mathlib.Tactic.Common
import Questionnaire.Json.Printer
import Questionnaire.Json.Reader
import Questionnaire.Proofs.IsoDates

/-!
# Reading written JSON

A text reads as a value if reading it gives the value back and leaves what follows. Written
texts and whole numbers do, and with their parts lists and maps between brackets, on one
line or laid out.
-/

namespace Questionnaire

namespace Table

/-- Entries with distinct text keys stay as they are read. -/
theorem ofEntries_of_distinct {entries : List (Value × Value)}
    (keys : ∀ entry ∈ entries, entry.1.isText = true)
    (distinct : (entries.map Prod.fst).Nodup) : ofEntries entries = entries := by
  apply ofEntries_of_apart
  refine (List.pairwise_map.mp distinct).imp_of_mem ?_
  intro entry other inside _ different
  cases key : entry.1 with
  | text s =>
    rw [key] at different
    exact Bool.eq_false_iff.mpr fun same => different ((Value.text_same s _).mp same).symm
  | _ => simpa [key, Value.isText] using keys entry inside

end Table

namespace Json

/-! ## White space -/

def IsBlank (text : List Char) : Prop := ∀ c ∈ text, isSpace c = true

theorem isBlank_lineBreak (style : Style) (depth : Nat) :
    IsBlank (lineBreak style depth) := by
  intro c inside
  unfold lineBreak at inside
  split at inside
  · cases inside
  · rcases List.mem_cons.mp inside with rfl | inside
    · rfl
    · rw [List.eq_of_mem_replicate inside]
      rfl

theorem skipSpace_append {blank : List Char} (h : IsBlank blank) (text : List Char) :
    skipSpace (blank ++ text) = skipSpace text :=
  List.dropWhile_append_of_pos h

theorem skipSpace_cons {c : Char} (h : isSpace c = false) (text : List Char) :
    skipSpace (c :: text) = c :: text := by
  simp [skipSpace, h]

/-- A separator is a comma and a blank. -/
theorem separator_eq (style : Style) (depth : Nat) :
    ∃ blank, IsBlank blank ∧ separator style depth = ',' :: blank := by
  unfold separator
  split
  · exact ⟨_, isBlank_lineBreak style depth, rfl⟩
  · refine ⟨[' '], ?_, rfl⟩
    intro c inside
    rw [List.mem_singleton.mp inside]
    rfl

/-! ## Texts -/

theorem hexValues?_hexDigits : ∀ n < 32, ∃ a b c d,
    Text.hexDigits 4 n = [a, b, c, d] ∧ hexValues? a b c d = some n := by
  intro n small
  refine ⟨_, _, _, _, rfl, ?_⟩
  revert n
  decide

/-- A character behind a backslash that stands for another one. -/
theorem readUnits_backslash {c : Char} {unit : Nat} (h : escaped? c = some unit)
    (text : List Char) :
    readUnits ('\\' :: c :: text) = (readUnits text).map fun (units, rest) =>
      (unit :: units, rest) := by
  have apart : c ≠ 'u' := by
    rintro rfl
    cases h
  rw [readUnits.eq_def]
  split <;> rename_i same <;> cases same
  · exact absurd rfl apart
  · rw [h]
    cases readUnits text <;> rfl
  · simp_all

theorem readUnits_plain {c : Char} (quote : c ≠ '"') (backslash : c ≠ '\\')
    (printed : ¬ c.toNat < 32) (text : List Char) :
    readUnits (c :: text) = (readUnits text).map fun (units, rest) =>
      (c.toNat :: units, rest) := by
  rw [readUnits.eq_def]
  split <;> rename_i same <;> cases same
  · exact absurd rfl quote
  · exact absurd rfl backslash
  · exact absurd rfl backslash
  · simp [printed, backslash]

/-- A character is written behind a backslash by a name or by its number, or as it is. -/
theorem escape_cases (c : Char) :
    (∃ d, escape c = ['\\', d] ∧ escaped? d = some c.toNat) ∨
    (escape c = '\\' :: 'u' :: Text.hexDigits 4 c.toNat ∧ c.toNat < 32) ∨
    (escape c = [c] ∧ c ≠ '"' ∧ c ≠ '\\' ∧ ¬c.toNat < 32) := by
  unfold escape
  split_ifs with quote backslash newline carriage tab backspace feed control
  · exact Or.inl ⟨'"', rfl, by rw [quote]; rfl⟩
  · exact Or.inl ⟨'\\', rfl, by rw [backslash]; rfl⟩
  · exact Or.inl ⟨'n', rfl, by rw [newline]; rfl⟩
  · exact Or.inl ⟨'r', rfl, by rw [carriage]; rfl⟩
  · exact Or.inl ⟨'t', rfl, by rw [tab]; rfl⟩
  · exact Or.inl ⟨'b', rfl, by rw [backspace]; rfl⟩
  · exact Or.inl ⟨'f', rfl, by rw [feed]; rfl⟩
  · exact Or.inr (Or.inl ⟨rfl, control⟩)
  · exact Or.inr (Or.inr ⟨rfl, quote, backslash, control⟩)

theorem readUnits_escape (c : Char) (text : List Char) :
    readUnits (escape c ++ text) = (readUnits text).map fun (units, rest) =>
      (c.toNat :: units, rest) := by
  rcases escape_cases c with
    ⟨d, written, named⟩ | ⟨written, control⟩ | ⟨written, quote, backslash, printed⟩
  · rw [written]
    exact readUnits_backslash named text
  · obtain ⟨h3, h2, h1, h0, digits, value⟩ := hexValues?_hexDigits c.toNat control
    rw [written, digits]
    cases h : readUnits text <;> simp [readUnits, value, h]
  · rw [written]
    exact readUnits_plain quote backslash printed text

theorem readUnits_escaped (text rest : List Char) :
    readUnits (text.flatMap escape ++ '"' :: rest) = some (text.map Char.toNat, rest) := by
  induction text with
  | nil => simp [readUnits]
  | cons c text ih =>
    rw [List.flatMap_cons, List.append_assoc, readUnits_escape, ih]
    rfl

/-- No character is half of one. -/
theorem isHigh_or_isLow_toNat (c : Char) : (isHigh c.toNat || isLow c.toNat) = false := by
  have valid : c.toNat < 0xd800 ∨ 0xdfff < c.toNat := by
    rcases c.valid with below | ⟨above, _⟩
    · exact Or.inl below
    · exact Or.inr above
  simp only [isHigh, isLow, Bool.or_eq_false_iff, Bool.and_eq_false_iff,
    decide_eq_false_iff_not]
  omega

theorem joinUnits_toNat (text : List Char) : joinUnits (text.map Char.toNat) = text := by
  have whole (c : Char) : charOf c.toNat = c := by
    rw [charOf, isHigh_or_isLow_toNat]
    exact Char.ofNat_toNat c
  induction text with
  | nil => rfl
  | cons c text ih =>
    cases text with
    | nil => simp [joinUnits, whole]
    | cons d text =>
      -- two numbers are put together only if the first is half of a character
      have notHigh : isHigh c.toNat = false :=
        (Bool.or_eq_false_iff.mp (isHigh_or_isLow_toNat c)).1
      simp only [List.map_cons, joinUnits, notHigh, Bool.false_and, Bool.false_eq_true,
        if_false, whole] at ih ⊢
      rw [ih]

/-- A written text is read back behind its opening quote. -/
theorem readText_escaped (s : String) (rest : List Char) :
    readText (s.toList.flatMap escape ++ '"' :: rest) = some (s, rest) := by
  simp only [readText, readUnits_escaped, Option.map_some, joinUnits_toNat,
    String.ofList_toList]

theorem writeText_append (s : String) (rest : List Char) :
    writeText s ++ rest = '"' :: (s.toList.flatMap escape ++ '"' :: rest) := by
  simp [writeText]

/-! ## Whole numbers -/

/-- What can follow a number without being read as a part of it. -/
def EndsNumber (rest : List Char) : Prop :=
  ∀ c ∈ rest.head?, Text.isDigit c = false ∧ c ≠ '.' ∧ c ≠ 'e' ∧ c ≠ 'E'

theorem endsNumber_nil : EndsNumber [] := by
  intro c h
  cases h

theorem endsNumber_comma (text : List Char) : EndsNumber (',' :: text) := by
  intro c h
  cases h
  decide

/-- Nor does what closes a list or a map continue a number, with white space before it. -/
theorem endsNumber_close {blank : List Char} (h : IsBlank blank) {last : Char}
    (bracket : last = ']' ∨ last = '\x7d') (rest : List Char) :
    EndsNumber (blank ++ last :: rest) := by
  intro c first
  cases blank with
  | nil =>
    cases first
    rcases bracket with rfl | rfl <;> decide
  | cons b blank =>
    cases first
    have space := h c List.mem_cons_self
    simp only [isSpace, Bool.or_eq_true, decide_eq_true_eq] at space
    rcases space with ((rfl | rfl) | rfl) | rfl <;> decide

theorem digitValue?_of_isDigit {c : Char} (h : Text.isDigit c = true) :
    Text.digitValue? c = some (c.toNat - 48) := by
  have bounds : 48 ≤ c.toNat ∧ c.toNat < 58 := by
    simp only [Text.isDigit, Bool.and_eq_true, decide_eq_true_eq, Char.le_def,
      UInt32.le_iff_toNat_le] at h
    have upper : c.toNat ≤ 57 := h.2
    exact ⟨h.1, by omega⟩
  simp [Text.digitValue?, Text.digitZeros, bounds]

/-- The digits of a number denote it. -/
theorem digitsValue_toDigits (n : Nat) : Text.digitsValue (Nat.toDigits 10 n) = n := by
  have digits :
      Text.digitsValue (Nat.toDigits 10 n) = Nat.ofDigitChars 10 (Nat.toDigits 10 n) 0 := by
    unfold Text.digitsValue Nat.ofDigitChars
    apply List.foldl_ext
    intro value c inside
    rw [digitValue?_of_isDigit (Text.isDigit_of_mem_toDigits inside)]
    rfl
  rw [digits, Nat.ofDigitChars_toDigits (by decide) (by decide)]

theorem head_toDigits {n : Nat} (positive : 0 < n) :
    (Nat.toDigits 10 n).head? ≠ some '0' := by
  induction n using Nat.strongRecOn with
  | ind n ih =>
    rw [Nat.toDigits_eq_if (by decide)]
    split
    · rename_i small
      have apart : ∀ m < 10, 0 < m → m.digitChar ≠ '0' := by decide
      simpa using apart n small positive
    · rw [List.head?_append_of_ne_nil _ Nat.toDigits_ne_nil]
      exact ih (n / 10) (by omega) (by omega)

/-- The digits of a number are read up to their end. -/
theorem readWhole_toDigits (n : Nat) {rest : List Char} (ends : EndsNumber rest) :
    readWhole (Nat.toDigits 10 n ++ rest) = some (Nat.toDigits 10 n, rest) := by
  rcases Nat.eq_zero_or_pos n with rfl | positive
  · rfl
  · -- digits that do not start with zero are taken up to the first other character
    have split :
        (Nat.toDigits 10 n ++ rest).span Text.isDigit = (Nat.toDigits 10 n, rest) := by
      have digits : ∀ c ∈ Nat.toDigits 10 n, Text.isDigit c = true :=
        fun c => Text.isDigit_of_mem_toDigits
      rw [List.span_eq_takeWhile_dropWhile, List.takeWhile_append_of_pos digits,
        List.dropWhile_append_of_pos digits]
      cases rest with
      | nil => simp
      | cons c rest => simp [(ends c rfl).1]
    have first := head_toDigits positive
    cases h : Nat.toDigits 10 n with
    | nil => exact absurd h Nat.toDigits_ne_nil
    | cons d digits =>
      rw [h] at first split
      rw [List.cons_append] at split ⊢
      unfold readWhole
      split
      · rename_i same
        cases same
        exact absurd rfl first
      · rw [split]
        rfl

theorem readFraction_of_ends {rest : List Char} (ends : EndsNumber rest) :
    readFraction rest = ([], rest) := by
  unfold readFraction
  split
  · exact absurd rfl (ends _ rfl).2.1
  · rfl

theorem readPower_of_ends {rest : List Char} (ends : EndsNumber rest) :
    readPower rest = ([], rest) := by
  cases rest with
  | nil => rfl
  | cons c rest =>
    obtain ⟨_, _, small, large⟩ := ends c rfl
    simp [readPower, small, large]

theorem toList_ofNat (m : Nat) : (toString (Int.ofNat m)).toList = Nat.toDigits 10 m :=
  Nat.toList_repr

theorem toList_negSucc (m : Nat) :
    (toString (Int.negSucc m)).toList = '-' :: Nat.toDigits 10 (m + 1) := by
  have written : toString (Int.negSucc m) = "-" ++ (m + 1).repr := rfl
  rw [written, String.toList_append, Nat.toList_repr]
  rfl

theorem exists_digits (m : Nat) :
    ∃ d digits, Nat.toDigits 10 m = d :: digits ∧ Text.isDigit d = true := by
  obtain ⟨d, digits, h⟩ :=
    List.exists_cons_of_ne_nil (Nat.toDigits_ne_nil (n := m) (b := 10))
  refine ⟨d, digits, h, Text.isDigit_of_mem_toDigits (n := m) ?_⟩
  rw [h]
  exact List.mem_cons_self

/-- Digits are read as a number, with its sign, if no fraction and no power of ten follows. -/
theorem readNumber_int (n : Int) {rest : List Char} (ends : EndsNumber rest) :
    readNumber ((toString n).toList ++ rest) = some (.int n, rest) := by
  have fraction := readFraction_of_ends ends
  have power := readPower_of_ends ends
  cases n with
  | ofNat m =>
    have whole := readWhole_toDigits m ends
    have value := digitsValue_toDigits m
    obtain ⟨d, digits, h, digit⟩ := exists_digits m
    have minus : d ≠ '-' := by
      rintro rfl
      cases digit
    rw [toList_ofNat, h, List.cons_append]
    rw [h, List.cons_append] at whole
    rw [h] at value
    simp [readNumber, minus, whole, fraction, power, value]
  | negSucc m =>
    have whole := readWhole_toDigits (m + 1) ends
    have value := digitsValue_toDigits (m + 1)
    rw [toList_negSucc, List.cons_append]
    simp [readNumber, whole, fraction, power, value, Int.negSucc_eq]

/-- A written number starts with a digit, or with a sign and a digit. -/
theorem exists_digit (n : Int) : ∃ d digits, Text.isDigit d = true ∧
    ((toString n).toList = d :: digits ∨ (toString n).toList = '-' :: d :: digits) := by
  cases n with
  | ofNat m =>
    obtain ⟨d, digits, h, digit⟩ := exists_digits m
    exact ⟨d, digits, digit, Or.inl ((toList_ofNat m).trans h)⟩
  | negSucc m =>
    obtain ⟨d, digits, h, digit⟩ := exists_digits (m + 1)
    exact ⟨d, digits, digit, Or.inr (by rw [toList_negSucc, h])⟩

theorem ne_of_isDigit {c d : Char} (h : Text.isDigit d = true)
    (other : Text.isDigit c = false) : c ≠ d := by
  rintro rfl
  rw [h] at other
  cases other

/-- A written number does not start with a name. -/
theorem readScalar_int (n : Int) {rest : List Char} (ends : EndsNumber rest) :
    readScalar ((toString n).toList ++ rest) = some (.int n, rest) := by
  have number := readNumber_int n ends
  obtain ⟨d, digits, digit, written⟩ := exists_digit n
  have apart {c : Char} (other : Text.isDigit c = false) : c ≠ d :=
    ne_of_isDigit digit other
  have unnamed : ∀ name ∈ ["null", "true", "false", "NaN", "Infinity", "-Infinity"],
      after? name.toList ((toString n).toList ++ rest) = none := by
    rcases written with written | written <;> rw [written] <;>
      simp [after?, apart, Text.isDigit]
  simp only [List.mem_cons, List.not_mem_nil, or_false, forall_eq_or_imp,
    forall_eq] at unnamed
  obtain ⟨h1, h2, h3, h4, h5, h6⟩ := unnamed
  simp only [readScalar, List.findSome?, h1, h2, h3, h4, h5, h6, Option.map_none, number]

/-! ## Values -/

/-- What reads one thing at the start of a text, with some fuel, and leaves the rest. -/
abbrev Reader (α : Type) : Type := Nat → List Char → Option (α × List Char)

/-- The text is read as the thing, whatever follows, and does not look like white space or
the end of a list or a map. -/
structure ReadsBy {α : Type} (reader : Reader α) (text : List Char) (a : α) : Prop where
  starts : ∃ c tail, text = c :: tail ∧ isSpace c = false ∧ c ≠ ']' ∧ c ≠ '\x7d'
  back : ∀ fuel rest, text.length ≤ fuel → EndsNumber rest →
    reader fuel (text ++ rest) = some (a, rest)

abbrev Reads : List Char → Value → Prop := ReadsBy readValue

theorem ReadsBy.skipSpace {α : Type} {reader : Reader α} {text : List Char} {a : α}
    (h : ReadsBy reader text a) (rest : List Char) :
    Json.skipSpace (text ++ rest) = text ++ rest := by
  obtain ⟨c, tail, rfl, solid, _⟩ := h.starts
  exact skipSpace_cons solid (tail ++ rest)

/-- A text is not empty, so that some fuel is there. -/
theorem reads_of_succ {text : List Char} {v : Value}
    (starts : ∃ c tail, text = c :: tail ∧ isSpace c = false ∧ c ≠ ']' ∧ c ≠ '\x7d')
    (back : ∀ fuel rest, text.length ≤ fuel + 1 → EndsNumber rest →
      readValue (fuel + 1) (text ++ rest) = some (v, rest)) : Reads text v := by
  refine ⟨starts, ?_⟩
  intro fuel rest enough ends
  obtain ⟨c, tail, rfl, _⟩ := starts
  cases fuel with
  | zero => cases enough
  | succ fuel => exact back fuel rest enough ends

theorem reads_null : Reads ['n', 'u', 'l', 'l'] .null :=
  reads_of_succ ⟨_, _, rfl, by decide⟩ fun _ _ _ _ => rfl

theorem reads_bool (b : Bool) :
    Reads (if b then ['t', 'r', 'u', 'e'] else ['f', 'a', 'l', 's', 'e']) (.bool b) := by
  cases b with
  | true => exact reads_of_succ ⟨_, _, rfl, by decide⟩ fun _ _ _ _ => rfl
  | false => exact reads_of_succ ⟨_, _, rfl, by decide⟩ fun _ _ _ _ => rfl

theorem reads_int (n : Int) : Reads (toString n).toList (.int n) := by
  obtain ⟨d, digits, digit, written⟩ := exists_digit n
  have apart {c : Char} (other : Text.isDigit c = false) : d ≠ c :=
    (ne_of_isDigit digit other).symm
  refine reads_of_succ ?_ ?_
  · rcases written with written | written
    · exact ⟨d, digits, written, by simp [isSpace, apart, Text.isDigit], apart rfl, apart rfl⟩
    · exact ⟨'-', d :: digits, written, by decide⟩
  · intro fuel rest _ ends
    have scalar := readScalar_int n ends
    rcases written with written | written <;> rw [written] at scalar ⊢
    · simpa [readValue, apart, Text.isDigit] using scalar
    · simpa [readValue] using scalar

theorem reads_text (s : String) : Reads (writeText s) (.text s) := by
  refine reads_of_succ ⟨_, _, rfl, by decide⟩ ?_
  intro fuel rest _ _
  rw [writeText_append, readValue, readText_escaped]
  rfl

/-! ## Lists and maps -/

/-- How the parts of a list or of a map are read: one after the other, with commas between
them, up to a character that closes them. -/
structure Repeats {α : Type} (one : Reader α) (many : Reader (List α)) (last : Char) : Prop where
  close : ∀ {fuel text a rest tail}, one fuel text = some (a, rest) →
    skipSpace rest = last :: tail →
    many (fuel + 1) text = some ([a], tail)
  next : ∀ {fuel text a rest tail as after}, one fuel text = some (a, rest) →
    skipSpace rest = ',' :: tail →
    many fuel (skipSpace tail) = some (as, after) →
      many (fuel + 1) text = some (a :: as, after)

theorem repeats_readItems : Repeats readValue readItems ']' := by
  constructor
  · intro fuel text v rest tail read closed
    simp [readItems, read, closed]
  · intro fuel text v rest tail items after read comma more
    simp [readItems, read, comma, more]

/-- One entry of a map. -/
def readEntry : Reader (Value × Value)
  | fuel, '"' :: rest => do
      let (key, rest) ← readText rest
      let rest ← after? [':'] (skipSpace rest)
      let (v, rest) ← readValue fuel (skipSpace rest)
      return ((.text key, v), rest)
  | _, _ => none

/-- What reading an entry goes through. -/
theorem readEntry_eq_some {fuel : Nat} {text rest : List Char} {entry : Value × Value}
    (h : readEntry fuel text = some (entry, rest)) :
    ∃ inner key afterKey afterColon, text = '"' :: inner ∧
      readText inner = some (key, afterKey) ∧
      after? [':'] (skipSpace afterKey) = some afterColon ∧
      readValue fuel (skipSpace afterColon) = some (entry.2, rest) ∧
        entry.1 = .text key := by
  unfold readEntry at h
  split at h
  · rename_i inner
    simp only [Option.bind_eq_bind, Option.bind_eq_some_iff, Prod.exists, Option.pure_def,
      Option.some.injEq, Prod.mk.injEq] at h
    obtain ⟨key, afterKey, keyRead, afterColon, colon, v, left, read, rfl, rfl⟩ := h
    exact ⟨inner, key, afterKey, afterColon, rfl, keyRead, colon, read, rfl⟩
  · cases h

theorem repeats_readEntries : Repeats readEntry readEntries '\x7d' := by
  constructor
  · rintro fuel text ⟨k, v⟩ rest tail read closed
    obtain ⟨inner, key, afterKey, afterColon, rfl, keyRead, colon, read, rfl⟩ :=
      readEntry_eq_some read
    simp [readEntries, keyRead, colon, read, closed]
  · rintro fuel text ⟨k, v⟩ rest tail entries after read comma more
    obtain ⟨inner, key, afterKey, afterColon, rfl, keyRead, colon, read, rfl⟩ :=
      readEntry_eq_some read
    simp [readEntries, keyRead, colon, read, comma, more]

/-- A key, a colon, a blank and a value are read as an entry. -/
theorem readsBy_entry (key : String) {part : List Char} {v : Value} (h : Reads part v) :
    ReadsBy readEntry (writeText key ++ ':' :: ' ' :: part) (.text key, v) := by
  refine ⟨⟨_, _, rfl, by decide⟩, ?_⟩
  intro fuel rest enough ends
  have read := h.back fuel rest (by simp at enough; omega) ends
  have value : skipSpace (' ' :: (part ++ rest)) = part ++ rest := h.skipSpace rest
  rw [List.append_assoc, writeText_append]
  simp [readEntry, readText_escaped, skipSpace_cons, isSpace, after?, value, read]

theorem intercalate_cons (between part : List Char) (parts : List (List Char)) :
    ∃ tail, between.intercalate (part :: parts) = part ++ tail := by
  cases parts with
  | nil => exact ⟨[], by simp⟩
  | cons next parts => exact ⟨between ++ between.intercalate (next :: parts), by simp⟩

/-- Parts that are read one by one are read together. -/
theorem Repeats.readsMany {α : Type} {one : Reader α} {many : Reader (List α)} {last : Char}
    (h : Repeats one many last) (bracket : last = ']' ∨ last = '\x7d')
    {blank close : List Char} (hb : IsBlank blank) (hc : IsBlank close)
    {parts : List (List Char)} {as : List α} (all : List.Forall₂ (ReadsBy one) parts as)
    (there : parts ≠ []) :
    ∀ fuel rest, ((',' :: blank).intercalate parts).length < fuel →
      many fuel ((',' :: blank).intercalate parts ++ (close ++ last :: rest)) =
        some (as, rest) := by
  have closing (rest : List Char) : skipSpace (close ++ last :: rest) = last :: rest := by
    rw [skipSpace_append hc]
    rcases bracket with rfl | rfl <;> rfl
  induction all with
  | nil => exact absurd rfl there
  | @cons part a parts as first others ih =>
    intro fuel rest enough
    cases fuel with
    | zero => cases enough
    | succ fuel =>
      -- the last part ends at what closes, another one at its comma
      cases others with
      | nil =>
        rw [List.intercalate_singleton] at enough ⊢
        exact h.close (first.back fuel _ (by omega) (endsNumber_close hc bracket rest))
          (closing rest)
      | @cons part' a' parts as second others =>
        rw [List.intercalate_cons_cons] at enough ⊢
        simp only [List.length_append, List.length_cons] at enough
        obtain ⟨tail, starts⟩ := intercalate_cons (',' :: blank) part' parts
        have more := ih (List.cons_ne_nil _ _) fuel rest (by omega)
        simp only [List.append_assoc, List.cons_append]
        refine h.next (first.back fuel _ (by omega) (endsNumber_comma _))
          (skipSpace_cons rfl _) ?_
        rw [skipSpace_append hb, starts, List.append_assoc, second.skipSpace,
          ← List.append_assoc, ← starts]
        exact more

/-- Parts between brackets, on one line or laid out, are read together behind the opening
bracket. -/
theorem Repeats.reads_enclose {α : Type} {one : Reader α} {many : Reader (List α)}
    {last : Char} (h : Repeats one many last) (bracket : last = ']' ∨ last = '\x7d')
    (style : Style) (depth : Nat) (first : Char) {parts : List (List Char)} {as : List α}
    (all : List.Forall₂ (ReadsBy one) parts as) (there : parts ≠ []) :
    ∃ text, enclose style depth first last parts = first :: text ∧
      ∀ fuel rest, text.length ≤ fuel → ∃ c tail, skipSpace (text ++ rest) = c :: tail ∧
        c ≠ ']' ∧ c ≠ '\x7d' ∧
        many fuel (c :: tail) = some (as, rest) := by
  cases all with
  | nil => exact absurd rfl there
  | @cons part a parts as begins others =>
    obtain ⟨blank, hb, separated⟩ := separator_eq style depth
    have ho := isBlank_lineBreak style depth
    have hc := isBlank_lineBreak style (depth - 1)
    refine ⟨lineBreak style depth ++ ((',' :: blank).intercalate (part :: parts) ++
      (lineBreak style (depth - 1) ++ [last])), by simp [enclose, separated], ?_⟩
    intro fuel rest enough
    simp only [List.length_append, List.length_cons] at enough
    have read := h.readsMany bracket hb hc (.cons begins others) there fuel rest (by omega)
    obtain ⟨tail, starts⟩ := intercalate_cons (',' :: blank) part parts
    obtain ⟨c, more, rfl, solid, unclosed⟩ := begins.starts
    rw [starts] at read ⊢
    simp only [List.cons_append, List.append_assoc, List.nil_append] at read ⊢
    rw [skipSpace_append ho, skipSpace_cons solid]
    exact ⟨c, _, rfl, unclosed.1, unclosed.2, read⟩

theorem reads_list (style : Style) (depth : Nat) {parts : List (List Char)}
    {items : List Value} (all : List.Forall₂ Reads parts items) :
    Reads (enclose style depth '[' ']' parts) (.list items) := by
  by_cases there : parts = []
  · subst there
    cases all
    exact reads_of_succ ⟨_, _, rfl, by decide⟩ fun _ _ _ _ => rfl
  · obtain ⟨text, enclosed, read⟩ :=
      repeats_readItems.reads_enclose (Or.inl rfl) style depth '[' all there
    rw [enclosed]
    refine reads_of_succ ⟨_, _, rfl, by decide⟩ ?_
    intro fuel rest enough _
    obtain ⟨c, tail, skipped, unclosed, _, read⟩ :=
      read fuel rest (Nat.le_of_succ_le_succ enough)
    simp [readValue, skipped, unclosed, read]

theorem reads_map (style : Style) (depth : Nat) {parts : List (List Char)}
    {entries : List (Value × Value)} (all : List.Forall₂ (ReadsBy readEntry) parts entries)
    (keys : ∀ entry ∈ entries, entry.1.isText = true)
    (distinct : (entries.map Prod.fst).Nodup) :
    Reads (enclose style depth '\x7b' '\x7d' parts) (.map entries) := by
  by_cases there : parts = []
  · subst there
    cases all
    exact reads_of_succ ⟨_, _, rfl, by decide⟩ fun _ _ _ _ => rfl
  · obtain ⟨text, enclosed, read⟩ :=
      repeats_readEntries.reads_enclose (Or.inr rfl) style depth '\x7b' all there
    rw [enclosed]
    refine reads_of_succ ⟨_, _, rfl, by decide⟩ ?_
    intro fuel rest enough _
    obtain ⟨c, tail, skipped, _, unclosed, read⟩ :=
      read fuel rest (Nat.le_of_succ_le_succ enough)
    simp [readValue, skipped, unclosed, read, Table.ofEntries_of_distinct keys distinct]

/-- A document is read as the value of its text. -/
theorem read?_of_reads {text : List Char} {v : Value} (h : Reads text v) :
    read? (String.ofList text) = some v := by
  have read := h.back (text.length + 1) [] (Nat.le_succ _) endsNumber_nil
  have start := h.skipSpace []
  have done : skipSpace [] = [] := rfl
  rw [List.append_nil] at read start
  simp [read?, start, read, done]

end Json

end Questionnaire
