import Questionnaire.Text.Blank
import Questionnaire.Text.Split

/-!
# Cutting and joining

The pieces that a text is cut into have no separator left in them, and joining them gives
back the text. Cutting gives back the pieces that were joined, if the separator occurs in
none of them and none of them runs into it. Blanks at the ends of a text stay at the ends of
its pieces.
-/

namespace Questionnaire.Text

/-- What is said of all characters of a text is decided on these, before trying every
character there is. -/
instance (priority := 2000) decidableForallMem (text : List Char) (p : Char → Prop)
    [DecidablePred p] : Decidable (∀ c ∈ text, p c) :=
  List.decidableBAll p text

/-- A text occurs in another one exactly if it is a part of it. -/
theorem occursIn_iff {part text : List Char} :
    occursIn part text = true ↔ part <:+: text := by
  induction text with
  | nil => simp [occursIn]
  | cons c text ih =>
    rw [List.infix_cons_iff, occursIn, Bool.or_eq_true, ih, List.isPrefixOf_iff_prefix]

theorem occursIn_eq_false {part text : List Char} :
    occursIn part text = false ↔ ¬ part <:+: text := by
  rw [← occursIn_iff, Bool.not_eq_true]

/-- A prefix without a character ends before it. -/
theorem prefix_append_cons {part : List Char} {c : Char} (h : c ∉ part)
    (before after : List Char) : part <+: before ++ c :: after ↔ part <+: before := by
  induction before generalizing part with
  | nil =>
    cases part with
    | nil => simp
    | cons d rest =>
      have apart : d ≠ c := by
        rintro rfl
        exact h List.mem_cons_self
      simp [List.cons_prefix_cons, apart]
  | cons d before ih =>
    cases part with
    | nil => simp
    | cons e rest =>
      rw [List.cons_append, List.cons_prefix_cons, List.cons_prefix_cons,
        ih fun inside => h (List.mem_cons_of_mem _ inside)]

/-- A part without a character lies on one side of it. -/
theorem infix_append_cons {part : List Char} {c : Char} (h : c ∉ part) (filled : part ≠ [])
    (before after : List Char) :
    part <:+: before ++ c :: after ↔ part <:+: before ∨ part <:+: after := by
  induction before with
  | nil =>
    have start := prefix_append_cons h [] after
    rw [List.nil_append] at start ⊢
    rw [List.infix_cons_iff, start]
    simp [filled]
  | cons d before ih =>
    have start := prefix_append_cons h (d :: before) after
    rw [List.cons_append] at start ⊢
    rw [List.infix_cons_iff, start, ih, List.infix_cons_iff, or_assoc]

/-- A part whose first character does not come back in it starts at that character or ends
before it. -/
theorem infix_append_of_head {head : Char} {rest before after : List Char}
    (h : head ∉ rest) :
    head :: rest <:+: before ++ head :: after ↔ head :: rest <:+: before ∨
      head :: rest <:+: head :: after := by
  induction before with
  | nil => simp
  | cons d before ih =>
    have start := prefix_append_cons h before after
    rw [List.cons_append, List.infix_cons_iff, List.infix_cons_iff, List.cons_prefix_cons,
      List.cons_prefix_cons, start, ih, or_assoc]

/-- Characters that a part does not have can be dropped before it. -/
theorem infix_append_left {part pad : List Char} (h : ∀ c ∈ pad, c ∉ part)
    (filled : part ≠ []) (text : List Char) : part <:+: pad ++ text ↔ part <:+: text := by
  induction pad with
  | nil => rfl
  | cons c pad ih =>
    have step := infix_append_cons (h c List.mem_cons_self) filled [] (pad ++ text)
    rw [List.nil_append] at step
    rw [List.cons_append, step, ih fun d hd => h d (List.mem_cons_of_mem _ hd)]
    simp [filled]

/-- Characters that a part does not have can be dropped behind it. -/
theorem infix_append_right {part pad : List Char} (h : ∀ c ∈ pad, c ∉ part)
    (filled : part ≠ []) (text : List Char) : part <:+: text ++ pad ↔ part <:+: text := by
  cases pad with
  | nil => rw [List.append_nil]
  | cons c pad =>
    have alone := infix_append_left (fun d hd => h d (List.mem_cons_of_mem _ hd)) filled []
    rw [List.append_nil] at alone
    rw [infix_append_cons (h c List.mem_cons_self) filled, alone]
    simp [filled]

/-- Characters other than the first one of a part can be dropped before it. -/
theorem infix_append_of_headless {head : Char} {rest pad : List Char} (h : head ∉ pad)
    (text : List Char) : head :: rest <:+: pad ++ text ↔ head :: rest <:+: text := by
  induction pad with
  | nil => rfl
  | cons c pad ih =>
    have apart : head ≠ c := by
      rintro rfl
      exact h List.mem_cons_self
    rw [List.cons_append, List.infix_cons_iff, List.cons_prefix_cons,
      ih fun inside => h (List.mem_cons_of_mem _ inside)]
    simp [apart]

/-- A part that has no character of the separator occurs in no joined text, if in none of
its pieces. -/
theorem not_infix_join {part sep : List Char} (h : ∀ c ∈ sep, c ∉ part) (filled : part ≠ [])
    (filled' : sep ≠ []) {texts : List (List Char)}
    (free : ∀ text ∈ texts, ¬ part <:+: text) : ¬ part <:+: join sep texts := by
  induction texts with
  | nil => simpa [join] using filled
  | cons text rest ih =>
    have first := free text List.mem_cons_self
    have later := ih fun t ht => free t (List.mem_cons_of_mem _ ht)
    cases rest with
    | nil => exact first
    | cons next rest =>
      obtain ⟨c, tail, rfl⟩ := List.exists_cons_of_ne_nil filled'
      rw [join, List.append_assoc, List.cons_append,
        infix_append_cons (h c List.mem_cons_self) filled,
        infix_append_left (fun d hd => h d (List.mem_cons_of_mem _ hd)) filled, not_or]
      · exact ⟨first, later⟩
      · exact List.cons_ne_nil _ _

theorem mem_join {sep : List Char} {texts : List (List Char)} {c : Char}
    (h : c ∈ join sep texts) : c ∈ sep ∨ ∃ text ∈ texts, c ∈ text := by
  induction texts with
  | nil => cases h
  | cons text rest ih =>
    cases rest with
    | nil => exact Or.inr ⟨text, List.mem_cons_self, h⟩
    | cons next rest =>
      rw [join, List.mem_append, List.mem_append] at h
      · rcases h with (h | h) | h
        · exact Or.inr ⟨text, List.mem_cons_self, h⟩
        · exact Or.inl h
        · rcases ih h with h | ⟨other, inside, h⟩
          · exact Or.inl h
          · exact Or.inr ⟨other, List.mem_cons_of_mem _ inside, h⟩
      · exact List.cons_ne_nil _ _

theorem mem_join_of_mem (sep : List Char) {texts : List (List Char)} {text : List Char}
    (inside : text ∈ texts) {c : Char} (h : c ∈ text) : c ∈ join sep texts := by
  induction texts with
  | nil => cases inside
  | cons first rest ih =>
    cases rest with
    | nil =>
      rw [List.mem_singleton.mp inside] at h
      exact h
    | cons next rest =>
      rw [join, List.mem_append]
      · rcases List.mem_cons.mp inside with rfl | later
        · exact Or.inl (List.mem_append_left _ h)
        · exact Or.inr (ih later)
      · exact List.cons_ne_nil _ _

/-- A doubled character does not come about where a text ends in another one. -/
theorem not_infix_pair_append {c : Char} {text : List Char} (h : ¬ [c, c] <:+: text)
    (ends : text.getLast? ≠ some c) : ¬ [c, c] <:+: text ++ [c] := by
  intro inside
  rw [List.infix_concat_iff] at inside
  rcases inside with ending | inside
  · obtain ⟨before, same⟩ := ending
    have cut : before ++ [c] = text := by
      have reshaped : (before ++ [c]) ++ [c] = text ++ [c] := by simpa using same
      exact List.append_cancel_right reshaped
    rw [← cut] at ends
    simp at ends
  · exact h inside

theorem pieces_skip (sep : List Char) (skipped text : List Char) :
    pieces sep skipped.length (skipped ++ text) = pieces sep 0 text := by
  induction skipped with
  | nil => rfl
  | cons c skipped ih => exact ih

/-- A text that the separator does not occur in is one piece. -/
theorem pieces_of_not_infix {sep text : List Char} (h : ¬ sep <:+: text) :
    pieces sep 0 text = (text, []) := by
  induction text with
  | nil => rfl
  | cons c text ih =>
    rw [List.infix_cons_iff, not_or] at h
    have start : sep.isPrefixOf (c :: text) = false := by
      rw [← Bool.not_eq_true, List.isPrefixOf_iff_prefix]
      exact h.1
    simp only [pieces, start, Bool.false_eq_true, if_false, ih h.2]

theorem splitOn_of_not_infix {sep text : List Char} (h : ¬ sep <:+: text) :
    splitOn sep text = [text] := by
  rw [splitOn, pieces_of_not_infix h]

/-- The first piece starts behind what is skipped, the others are cut out behind it. -/
theorem pieces_parts (sep : List Char) (skip : Nat) (text : List Char) :
    (pieces sep skip text).1 <+: text.drop skip ∧ ∀ piece ∈ (pieces sep skip text).2,
      piece <:+: text := by
  induction text generalizing skip with
  | nil => simp [pieces]
  | cons c text ih =>
    cases skip with
    | succ skip =>
      obtain ⟨first, later⟩ := ih skip
      exact ⟨first, fun piece inside => List.infix_cons (later piece inside)⟩
    | zero =>
      by_cases start : sep.isPrefixOf (c :: text) = true
      · obtain ⟨first, later⟩ := ih (sep.length - 1)
        simp only [pieces, start, if_true]
        refine ⟨List.nil_prefix, ?_⟩
        intro piece inside
        apply List.infix_cons
        rcases List.mem_cons.mp inside with rfl | inside
        · exact first.isInfix.trans (List.drop_suffix _ text).isInfix
        · exact later piece inside
      · obtain ⟨first, later⟩ := ih 0
        simp only [pieces, start, Bool.false_eq_true, if_false]
        exact ⟨(List.prefix_cons_inj c).mpr first, fun piece inside =>
          List.infix_cons (later piece inside)⟩

/-- Every piece that a text is cut into is a part of it. -/
theorem infix_of_mem_splitOn {sep text piece : List Char}
    (inside : piece ∈ splitOn sep text) : piece <:+: text := by
  obtain ⟨first, later⟩ := pieces_parts sep 0 text
  rcases List.mem_cons.mp inside with rfl | inside
  · exact first.isInfix
  · exact later piece inside

/-- No separator is left in what a text is cut into. -/
theorem pieces_free {sep : List Char} (filled : sep ≠ []) (skip : Nat) (text : List Char) :
    ∀ piece ∈ (pieces sep skip text).1 :: (pieces sep skip text).2, ¬ sep <:+: piece := by
  induction text generalizing skip with
  | nil => simpa [pieces] using filled
  | cons c text ih =>
    cases skip with
    | succ skip => exact ih skip
    | zero =>
      by_cases start : sep.isPrefixOf (c :: text) = true
      · simp only [pieces, start, if_true, List.forall_mem_cons]
        refine ⟨by simpa using filled, List.forall_mem_cons.mp (ih (sep.length - 1))⟩
      · obtain ⟨first, later⟩ := List.forall_mem_cons.mp (ih 0)
        simp only [pieces, start, Bool.false_eq_true, if_false, List.forall_mem_cons]
        refine ⟨?_, later⟩
        rw [List.infix_cons_iff, not_or]
        refine ⟨?_, first⟩
        -- a separator at the start of the piece would be one at the start of the text
        intro begins
        apply start
        rw [List.isPrefixOf_iff_prefix]
        exact begins.trans ((List.prefix_cons_inj c).mpr (pieces_parts sep 0 text).1)

theorem not_infix_of_mem_splitOn {sep text piece : List Char} (filled : sep ≠ [])
    (inside : piece ∈ splitOn sep text) : ¬ sep <:+: piece :=
  pieces_free filled 0 text piece inside

theorem join_cons_cons (sep : List Char) (c : Char) (piece : List Char)
    (rest : List (List Char)) :
    join sep ((c :: piece) :: rest) = c :: join sep (piece :: rest) := by
  cases rest <;> rfl

/-- Joining the pieces gives back what is behind the skipped characters. -/
theorem join_pieces {sep : List Char} (filled : sep ≠ []) (skip : Nat) (text : List Char) :
    join sep ((pieces sep skip text).1 :: (pieces sep skip text).2) = text.drop skip := by
  induction text generalizing skip with
  | nil => simp [pieces, join]
  | cons c text ih =>
    cases skip with
    | succ skip => exact ih skip
    | zero =>
      by_cases start : sep.isPrefixOf (c :: text) = true
      · simp only [pieces, start, if_true, join, ih, List.nil_append, List.drop_zero]
        obtain ⟨behind, same⟩ := List.isPrefixOf_iff_prefix.mp start
        obtain ⟨d, tail, rfl⟩ := List.exists_cons_of_ne_nil filled
        rw [List.cons_append, List.cons.injEq] at same
        simp [← same.1, ← same.2]
      · simp only [pieces, start, Bool.false_eq_true, if_false, join_cons_cons, ih,
          List.drop_zero]

/-- Joining undoes cutting. -/
theorem join_splitOn {sep : List Char} (filled : sep ≠ []) (text : List Char) :
    join sep (splitOn sep text) = text :=
  join_pieces filled 0 text

/-- A piece ends at the separator behind it, unless the separator begins earlier. -/
theorem pieces_append {sep piece : List Char} (filled : sep ≠ [])
    (h : ¬ sep <:+: piece ++ sep.dropLast) (rest : List Char) :
    pieces sep 0 (piece ++ sep ++ rest) = (piece, (pieces sep 0 rest).1 ::
      (pieces sep 0 rest).2) := by
  induction piece with
  | nil =>
    obtain ⟨c, tail, rfl⟩ := List.exists_cons_of_ne_nil filled
    have start : (c :: tail).isPrefixOf (c :: (tail ++ rest)) = true := by
      rw [List.isPrefixOf_iff_prefix, List.cons_prefix_cons]
      exact ⟨rfl, List.prefix_append tail rest⟩
    simp only [List.nil_append, List.cons_append, pieces, start, if_true, List.length_cons,
      Nat.add_sub_cancel, pieces_skip]
  | cons d piece ih =>
    rw [List.cons_append, List.infix_cons_iff, not_or] at h
    -- a separator that begins in the piece would be over before the separator behind it is
    have start : sep.isPrefixOf (d :: (piece ++ sep ++ rest)) = false := by
      rw [← Bool.not_eq_true, List.isPrefixOf_iff_prefix]
      intro begins
      have shorter : d :: (piece ++ sep.dropLast) <+: d :: (piece ++ sep ++ rest) := by
        rw [List.cons_prefix_cons, List.append_assoc, List.prefix_append_right_inj]
        exact ⟨rfl, (List.dropLast_prefix sep).trans (List.prefix_append sep rest)⟩
      refine h.1 (List.prefix_of_prefix_length_le begins shorter ?_)
      have positive := List.length_pos_iff.mpr filled
      simp only [List.length_cons, List.length_append, List.length_dropLast]
      omega
    simp only [List.cons_append, pieces, start, Bool.false_eq_true, if_false, ih h.2]

/-- Cutting gives back the pieces that were joined. -/
theorem splitOn_join {sep : List Char} (filled : sep ≠ []) {parts : List (List Char)}
    (any : parts ≠ []) (free : ∀ piece ∈ parts, ¬ sep <:+: piece)
    (apart : ∀ piece ∈ parts.dropLast, ¬ sep <:+: piece ++ sep.dropLast) :
    splitOn sep (join sep parts) = parts := by
  induction parts with
  | nil => exact absurd rfl any
  | cons piece rest ih =>
    cases rest with
    | nil =>
      exact splitOn_of_not_infix (free piece List.mem_cons_self)
    | cons next rest =>
      have first :=
        pieces_append filled (apart piece List.mem_cons_self) (join sep (next :: rest))
      have tail :=
        ih (List.cons_ne_nil _ _) (fun p hp => free p (List.mem_cons_of_mem _ hp))
        (fun p hp => apart p (List.mem_cons_of_mem _ hp))
      simp only [join, splitOn] at first tail ⊢
      rw [first]
      simp only [tail]

/-- Blanks and nothing else. -/
def Blank (text : List Char) : Prop := ∀ c ∈ text, isBlank c = true

/-- A text that neither starts nor ends with a blank, and is not empty. -/
structure Tight (text : List Char) : Prop where
  starts : ∃ c rest, text = c :: rest ∧ isBlank c = false
  ends : ∃ rest c, text = rest ++ [c] ∧ isBlank c = false

theorem dropWhile_blank {blanks : List Char} (h : Blank blanks) (text : List Char) :
    (blanks ++ text).dropWhile isBlank = text.dropWhile isBlank :=
  List.dropWhile_append_of_pos h

theorem trim_append_left {blanks : List Char} (h : Blank blanks) (text : List Char) :
    trim (blanks ++ text) = trim text := by
  simp only [trim, trimBy, dropWhile_blank h]

theorem trim_append_right {blanks : List Char} (h : Blank blanks) (text : List Char) :
    trim (text ++ blanks) = trim text := by
  have reversed : Blank blanks.reverse := by
    intro c hc
    exact h c (List.mem_reverse.mp hc)
  simp only [trim, trimBy, List.dropWhile_append]
  split
  · rename_i nothing
    have none : text.dropWhile isBlank = [] := List.isEmpty_iff.mp nothing
    have blanks' := dropWhile_blank h []
    rw [List.append_nil] at blanks'
    simp [blanks', none]
  · rw [List.reverse_append, dropWhile_blank reversed]

theorem trim_of_tight {text : List Char} (h : Tight text) : trim text = text := by
  obtain ⟨⟨c, rest, rfl, starts⟩, before, d, same, ends⟩ := h
  have head : (c :: rest).dropWhile isBlank = c :: rest :=
    List.dropWhile_cons_of_neg (by simp [starts])
  rw [trim, trimBy, head, same, List.reverse_append, List.reverse_singleton,
    List.singleton_append, List.dropWhile_cons_of_neg (by simp [ends])]
  simp

theorem trim_length_le (text : List Char) : (trim text).length ≤ text.length := by
  have first := ((text.dropWhile isBlank).reverse.dropWhile_sublist isBlank).length_le
  have second := (text.dropWhile_sublist isBlank).length_le
  rw [List.length_reverse] at first
  simp only [trim, trimBy, List.length_reverse]
  omega

theorem blank_singleton {c : Char} (h : isBlank c = true) : Blank [c] := by
  intro d hd
  rw [List.mem_singleton.mp hd]
  exact h

/-- A text that trimming leaves alone is tight, unless it is empty. -/
theorem tight_of_trim {text : List Char} (filled : text ≠ []) (h : trim text = text) :
    Tight text := by
  constructor
  · obtain ⟨c, rest, same⟩ := List.exists_cons_of_ne_nil filled
    refine ⟨c, rest, same, ?_⟩
    apply Bool.eq_false_iff.mpr
    intro blank
    have shorter : trim text = trim rest := by
      rw [same]
      exact trim_append_left (blank_singleton blank) rest
    have length := trim_length_le rest
    rw [← shorter, h, same, List.length_cons] at length
    omega
  · obtain ⟨rest, c, same⟩ : ∃ rest c, text = rest ++ [c] :=
      ⟨text.dropLast, text.getLast filled, (List.dropLast_concat_getLast filled).symm⟩
    refine ⟨rest, c, same, ?_⟩
    apply Bool.eq_false_iff.mpr
    intro blank
    have shorter : trim text = trim rest := by
      rw [same]
      exact trim_append_right (blank_singleton blank) rest
    have length := trim_length_le rest
    rw [← shorter, h, same, List.length_append, List.length_singleton] at length
    omega

theorem Tight.append {first last : List Char} (h : Tight first) (h' : Tight last)
    (middle : List Char) : Tight (first ++ middle ++ last) := by
  obtain ⟨⟨c, rest, rfl, starts⟩, _⟩ := h
  obtain ⟨_, before, d, rfl, ends⟩ := h'
  refine ⟨⟨c, rest ++ middle ++ (before ++ [d]), ?_, starts⟩, c :: rest ++ middle ++ before,
    d, ?_, ends⟩
  · simp
  · simp

/-- A text is its trimmed self between blanks. -/
theorem exists_trim (text : List Char) :
    ∃ left right, Blank left ∧ Blank right ∧ text = left ++ trim text ++ right := by
  have all {text : List Char} : Blank (text.takeWhile isBlank) := by
    intro c hc
    exact List.all_eq_true.mp List.all_takeWhile c hc
  refine ⟨text.takeWhile isBlank,
    ((text.dropWhile isBlank).reverse.takeWhile isBlank).reverse, all, ?_, ?_⟩
  · intro c hc
    exact all c (List.mem_reverse.mp hc)
  · rw [List.append_assoc, trim, trimBy, ← List.reverse_append,
      List.takeWhile_append_dropWhile, List.reverse_reverse,
      List.takeWhile_append_dropWhile]

theorem trim_infix (text : List Char) : trim text <:+: text := by
  obtain ⟨left, right, _, _, same⟩ := exists_trim text
  exact ⟨left, right, same.symm⟩

theorem trim_trim (text : List Char) : trim (trim text) = trim text := by
  obtain ⟨left, right, blankLeft, blankRight, same⟩ := exists_trim text
  calc trim (trim text)
      = trim (left ++ trim text ++ right) := by
        rw [trim_append_right blankRight, trim_append_left blankLeft]
    _ = trim text := by rw [← same]

theorem trim_ne_nil {text : List Char} {c : Char} (inside : c ∈ text)
    (h : isBlank c = false) : trim text ≠ [] := by
  obtain ⟨left, right, blankLeft, blankRight, same⟩ := exists_trim text
  intro nothing
  rw [nothing, List.append_nil] at same
  rw [same, List.mem_append] at inside
  have blank : isBlank c = true := by
    rcases inside with inside | inside
    · exact blankLeft c inside
    · exact blankRight c inside
  rw [h] at blank
  cases blank

/-- Blanks before a text go to its first piece. -/
theorem pieces_append_left {sep : List Char} (filled : sep ≠ []) {blanks : List Char}
    (h : ∀ c ∈ blanks, c ∉ sep) (text : List Char) :
    pieces sep 0 (blanks ++ text) = (blanks ++ (pieces sep 0 text).1,
      (pieces sep 0 text).2) := by
  induction blanks with
  | nil => rfl
  | cons c blanks ih =>
    obtain ⟨d, tail, rfl⟩ := List.exists_cons_of_ne_nil filled
    have apart : d ≠ c := by
      rintro rfl
      exact h d List.mem_cons_self List.mem_cons_self
    have start : (d :: tail).isPrefixOf (c :: (blanks ++ text)) = false := by
      rw [← Bool.not_eq_true, List.isPrefixOf_iff_prefix, List.cons_prefix_cons]
      rintro ⟨same, _⟩
      exact apart same
    simp only [List.cons_append, pieces, start, Bool.false_eq_true, if_false,
      ih fun c hc => h c (List.mem_cons_of_mem _ hc)]

/-- Blanks behind a text go to its last piece. -/
theorem pieces_append_right {sep : List Char} (filled : sep ≠ []) {blanks : List Char}
    (h : ∀ c ∈ blanks, c ∉ sep) (skip : Nat) (text : List Char)
    (enough : skip ≤ text.length) :
    ∃ first last, (pieces sep skip text).1 :: (pieces sep skip text).2 = first ++ [last] ∧
      (pieces sep skip (text ++ blanks)).1 :: (pieces sep skip (text ++ blanks)).2 =
        first ++ [last ++ blanks] := by
  induction text generalizing skip with
  | nil =>
    have none : skip = 0 := Nat.le_zero.mp enough
    subst none
    have alone := pieces_append_left filled h []
    rw [List.append_nil] at alone
    exact ⟨[], [], rfl, by rw [List.nil_append, alone]; simp [pieces]⟩
  | cons c text ih =>
    cases skip with
    | succ skip => exact ih skip (by simpa using enough)
    | zero =>
      have same : sep.isPrefixOf (c :: (text ++ blanks)) = sep.isPrefixOf (c :: text) := by
        cases blanks with
        | nil => rw [List.append_nil]
        | cons d blanks =>
          rw [Bool.eq_iff_iff, List.isPrefixOf_iff_prefix, List.isPrefixOf_iff_prefix,
            ← List.cons_append]
          exact prefix_append_cons (h d List.mem_cons_self) (c :: text) blanks
      cases start : sep.isPrefixOf (c :: text) with
      | true =>
        rw [start] at same
        have length := (List.isPrefixOf_iff_prefix.mp start).length_le
        rw [List.length_cons] at length
        obtain ⟨first, last, cut, cut'⟩ := ih (sep.length - 1) (by omega)
        refine ⟨[] :: first, last, ?_, ?_⟩
        · simp only [pieces, start, if_true, cut, List.cons_append]
        · simp only [List.cons_append, pieces, same, if_true, cut']
      | false =>
        rw [start] at same
        obtain ⟨first, last, cut, cut'⟩ := ih 0 (Nat.zero_le _)
        simp only [List.cons_append, pieces, start, same, Bool.false_eq_true, if_false]
        cases first with
        | nil =>
          simp only [List.nil_append, List.cons.injEq] at cut cut'
          exact ⟨[], c :: last, by simp [cut], by simp [cut']⟩
        | cons piece first =>
          simp only [List.cons_append, List.cons.injEq] at cut cut'
          exact ⟨(c :: piece) :: first, last, by simp [cut], by simp [cut']⟩

/-- Trimming a text before it is cut makes no difference to its trimmed pieces. -/
theorem splitOn_trim {sep : List Char} (filled : sep ≠ [])
    (solid : ∀ c ∈ sep, isBlank c = false) (text : List Char) :
    (splitOn sep (trim text)).map trim = (splitOn sep text).map trim := by
  obtain ⟨left, right, blankLeft, blankRight, same⟩ := exists_trim text
  have apart {blanks : List Char} (h : Blank blanks) : ∀ c ∈ blanks, c ∉ sep := by
    intro c hc inside
    have blank := h c hc
    rw [solid c inside] at blank
    cases blank
  obtain ⟨first, last, cut, cut'⟩ :=
    pieces_append_right filled (apart blankRight) 0 (left ++ trim text)
    (Nat.zero_le _)
  have moved := pieces_append_left filled (apart blankLeft) (trim text)
  calc (splitOn sep (trim text)).map trim
      = (splitOn sep (left ++ trim text)).map trim := by
        simp only [splitOn, moved, List.map_cons, trim_append_left blankLeft]
    _ = (splitOn sep (left ++ trim text ++ right)).map trim := by
        simp only [splitOn, cut, cut', List.map_append, List.map_cons,
          trim_append_right blankRight]
    _ = (splitOn sep text).map trim := by rw [← same]

end Questionnaire.Text
