import Questionnaire.Proofs.ConditionText
import Questionnaire.Proofs.KeyEquality

/-!
# Conditions are read as they are written

The evaluator cuts a text at `||`, the pieces at `&&`, and reads each piece by its mark or
its symbol. On a text that was written from a condition this gives back the condition, so
that the evaluator computes what the condition says.
-/

namespace Questionnaire.Condition

open Text

theorem mem_spaces {n : Nat} {c : Char} (h : c ∈ spaces n) : c = ' ' :=
  List.eq_of_mem_replicate h

theorem blank_spaces (n : Nat) : Blank (spaces n) := by
  intro c hc
  rw [mem_spaces hc]
  decide

theorem tight_of_solid {text : List Char} (h : Solid text) : Tight text :=
  tight_of_trim h.1 h.2

theorem trim_spaces {text : List Char} (h : Tight text) (left right : Nat) :
    trim (spaces left ++ text ++ spaces right) = text := by
  rw [trim_append_right (blank_spaces right), trim_append_left (blank_spaces left),
    trim_of_tight h]

/-- Spaces around a text do not matter to a part that has none. -/
theorem infix_spaces {part : List Char} (h : ' ' ∉ part) (filled : part ≠ [])
    (text : List Char) (left right : Nat) :
    part <:+: spaces left ++ text ++ spaces right ↔ part <:+: text := by
  have apart (n : Nat) : ∀ c ∈ spaces n, c ∉ part := by
    intro c hc
    rw [mem_spaces hc]
    exact h
  rw [infix_append_right (apart right) filled, infix_append_left (apart left) filled]

/-- The signs that stand around ids and atoms occur in no mark. -/
theorem not_mem_mark {mark : List Char} (h : mark ∈ marks) :
    mark ≠ [] ∧ ' ' ∉ mark ∧ ',' ∉ mark ∧ ')' ∉ mark ∧ ∀ c ∈ mark, isQuote c = false := by
  revert mark
  decide

theorem eq_of_isQuote {c : Char} (h : isQuote c = true) : c = '"' ∨ c = '\'' := by
  simpa [isQuote] using h

theorem tight_of_quotes {opening closing : Char} (ho : isQuote opening = true)
    (hc : isQuote closing = true) (middle : List Char) :
    Tight (opening :: middle ++ [closing]) := by
  have solid {c : Char} (h : isQuote c = true) : isBlank c = false := by
    rcases eq_of_isQuote h with rfl | rfl <;> decide
  exact ⟨⟨opening, middle ++ [closing], rfl, solid ho⟩, opening :: middle, closing,
    rfl, solid hc⟩

namespace Item

theorem tight_bare {i : Item} (h : i.Valid) : Tight i.bare := by
  unfold bare
  cases quotes : i.quotes with
  | none => exact tight_of_solid (h.unquoted quotes).1
  | some pair =>
    obtain ⟨opening, closing⟩ := pair
    obtain ⟨ho, hc⟩ := h.quoted opening closing quotes
    exact tight_of_quotes ho hc _

theorem unquote_bare {i : Item} (h : i.Valid) : unquote i.bare = i.id.toList := by
  unfold bare
  cases quotes : i.quotes with
  | none => exact (h.unquoted quotes).2
  | some pair =>
    obtain ⟨opening, closing⟩ := pair
    obtain ⟨ho, hc⟩ := h.quoted opening closing quotes
    have line : closing ≠ '\n' := by
      rcases eq_of_isQuote hc with rfl | rfl <;> decide
    have last : ¬ ((opening :: i.id.toList) ++ [closing]).getLast? = some '\n' := by
      rw [List.getLast?_concat]
      intro same
      exact line (Option.some.inj same)
    simp only [unquote, last, if_false]
    simp [unquoteLine, ho, hc, h.filled, h.line]

/-- What is between the commas is read as the id. -/
theorem read_text {i : Item} (h : i.Valid) :
    String.ofList (unquote (trim i.text)) = i.id := by
  rw [text, trim_spaces (tight_bare h), unquote_bare h, String.ofList_toList]

theorem mem_text {i : Item} (h : i.Valid) {c : Char} (hc : c ∈ i.text) :
    c ∈ i.id.toList ∨ c = ' ' ∨ isQuote c = true := by
  simp only [text, List.mem_append] at hc
  rcases hc with (hc | hc) | hc
  · exact Or.inr (Or.inl (mem_spaces hc))
  · unfold bare at hc
    cases quotes : i.quotes with
    | none =>
      rw [quotes] at hc
      exact Or.inl hc
    | some pair =>
      obtain ⟨opening, closing⟩ := pair
      obtain ⟨ho, hq⟩ := h.quoted opening closing quotes
      simp only [quotes, List.cons_append, List.mem_cons, List.mem_append, List.not_mem_nil,
        or_false] at hc
      rcases hc with rfl | hc | rfl
      · exact Or.inr (Or.inr ho)
      · exact Or.inl hc
      · exact Or.inr (Or.inr hq)
  · exact Or.inr (Or.inl (mem_spaces hc))

theorem comma_text {i : Item} (h : i.Valid) : ',' ∉ i.text := by
  intro hc
  rcases mem_text h hc with hc | hc | hc
  · exact h.comma hc
  · exact absurd hc (by decide)
  · exact absurd hc (by decide)

theorem line_text {i : Item} (h : i.Valid) : '\n' ∉ i.text := by
  intro hc
  rcases mem_text h hc with hc | hc | hc
  · exact h.line hc
  · exact absurd hc (by decide)
  · exact absurd hc (by decide)

theorem free_text {i : Item} (h : i.Valid) : Free i.text := by
  intro mark hm
  obtain ⟨filled, space, _, _, quote⟩ := not_mem_mark hm
  rw [text, infix_spaces space filled, bare]
  cases quotes : i.quotes with
  | none => exact h.free mark hm
  | some pair =>
    obtain ⟨opening, closing⟩ := pair
    obtain ⟨ho, hc⟩ := h.quoted opening closing quotes
    have apart {c : Char} (hq : isQuote c = true) : ∀ d ∈ [c], d ∉ mark := by
      intro d hd inside
      rw [List.mem_singleton.mp hd] at inside
      rw [quote c inside] at hq
      cases hq
    rw [infix_append_right (apart hc) filled]
    intro inside
    apply h.free mark hm
    exact (infix_append_left (apart ho) filled _).mp inside

end Item

/-- The ids are read as they are written. -/
theorem readArguments_join {items : List Item} (filled : items ≠ [])
    (valid : ∀ item ∈ items, item.Valid) :
    readArguments (join [','] (items.map Item.text)) = items.map Item.id := by
  have free : ∀ text ∈ items.map Item.text, ¬ [','] <:+: text := by
    intro text ht inside
    obtain ⟨item, hi, rfl⟩ := List.mem_map.mp ht
    exact Item.comma_text (valid item hi) (inside.subset List.mem_cons_self)
  rw [readArguments, splitOn_join (by simp) (by simpa using filled) free
    (fun text ht => by simpa using free text (List.dropLast_subset _ ht)), List.map_map]
  exact List.map_congr_left fun item hi => Item.read_text (valid item hi)

/-- Without its mark a text has no call. -/
theorem callParts?_of_not_infix {mark text : List Char} (h : ¬ mark <:+: text) :
    callParts? mark text = none := by
  induction text with
  | nil => rfl
  | cons c text ih =>
    rw [List.infix_cons_iff, not_or] at h
    have start : mark.isPrefixOf text = false := by
      rw [← Bool.not_eq_true, List.isPrefixOf_iff_prefix]
      intro begins
      exact h.2 begins.isInfix
    simp only [callParts?, ih h.2, start, Bool.false_eq_true, if_false]

/-- A call is cut at its mark, if that is the only one. -/
theorem callParts?_append {head : Char} {body key rest argument : List Char}
    (filled : key ≠ []) (sole : ¬ head :: body <:+: body ++ rest)
    (ends : argument? rest = some argument) :
    callParts? (head :: body) (key ++ (head :: body ++ rest)) = some (key, argument) := by
  have none : callParts? (head :: body) (head :: body ++ rest) = none := by
    have start : (head :: body).isPrefixOf (body ++ rest) = false := by
      rw [← Bool.not_eq_true, List.isPrefixOf_iff_prefix]
      intro begins
      exact sole begins.isInfix
    simp only [List.cons_append, callParts?, callParts?_of_not_infix sole, start,
      Bool.false_eq_true, if_false]
  induction key with
  | nil => exact absurd rfl filled
  | cons c key ih =>
    cases key with
    | nil =>
      have start : (head :: body).isPrefixOf (head :: body ++ rest) = true := by
        rw [List.isPrefixOf_iff_prefix]
        exact List.prefix_append _ _
      rw [List.singleton_append, callParts?, none]
      simp only [start, if_true, List.drop_left, ends, Option.map_some]
    | cons d key => rw [List.cons_append, callParts?, ih (List.cons_ne_nil _ _)]

theorem argument?_append {argument : List Char} (filled : argument ≠ []) :
    argument? (argument ++ [')']) = some argument := by
  simp [argument?, filled]

theorem arguments_ne_nil {items : List Item} (filled : items ≠ [])
    (valid : ∀ item ∈ items, item.Valid) : join [','] (items.map Item.text) ≠ [] := by
  cases items with
  | nil => exact absurd rfl filled
  | cons item rest =>
    have text : item.text ≠ [] := by
      obtain ⟨⟨c, tail, bare, _⟩, _⟩ := Item.tight_bare (valid item List.mem_cons_self)
      simp [Item.text, bare]
    cases rest with
    | nil => exact text
    | cons next rest => simp [join, text]

/-- The ids of a membership test are the argument of a call. -/
theorem Atom.ValidMembership.call {key : String} {items : List Item}
    (h : Atom.ValidMembership key items) :
    ValidCall key.toList (join [','] (items.map Item.text)) := by
  constructor
  · rw [h.solid.2]
    exact h.solid.1
  · exact h.line
  · exact h.free
  · exact arguments_ne_nil h.filled h.valid
  · intro inside
    rcases mem_join inside with inside | ⟨text, ht, inside⟩
    · exact absurd inside (by decide)
    · obtain ⟨item, hi, rfl⟩ := List.mem_map.mp ht
      exact Item.line_text (h.valid item hi) inside
  · intro mark known
    obtain ⟨filled, _, comma, _⟩ := not_mem_mark known
    refine not_infix_join (by simpa using comma) filled (by simp) ?_
    intro text ht
    obtain ⟨item, hi, rfl⟩ := List.mem_map.mp ht
    exact Item.free_text (h.valid item hi) mark known

/-- The marks of the membership tests, by what follows their first character. -/
def includesBody : List Char := ['i', 'n', 'c', 'l', 'u', 'd', 'e', 's', '(']

def excludesBody : List Char := ['e', 'x', 'c', 'l', 'u', 'd', 'e', 's', '(']

theorem includesMark_eq : includesMark.toList = '.' :: includesBody := by decide

theorem excludesMark_eq : excludesMark.toList = '.' :: excludesBody := by decide

section Calls

variable {key argument : List Char}

theorem ValidCall.filledKey (h : ValidCall key argument) : key ≠ [] := by
  rintro rfl
  exact h.named rfl

/-- No mark occurs behind the opening bracket. -/
theorem ValidCall.closed (h : ValidCall key argument) : Free (argument ++ [')']) := by
  intro mark known
  obtain ⟨filled, _, _, bracket, _⟩ := not_mem_mark known
  rw [infix_append_right (by simpa using bracket) filled]
  exact h.free' mark known

/-- A call is read as its key and the ids in its argument. -/
theorem readMembership?_call {mark : String} {body : List Char}
    (same : mark.toList = '.' :: body) (known : mark.toList ∈ marks) (once : '.' ∉ body)
    (line : '\n' ∉ mark.toList) (h : ValidCall key argument) :
    readMembership? mark (callText mark key argument) = some (String.ofList (trim key),
      readArguments argument) := by
  have line' : '\n' ∉ callText mark key argument := by
    simp [callText, h.line, h.line', line]
  have sole : ¬ '.' :: body <:+: body ++ (argument ++ [')']) := by
    rw [infix_append_of_headless once, ← same]
    exact h.closed _ known
  have cut :
      callParts? ('.' :: body) (callText mark key argument) = some (key, argument) := by
    rw [callText, same, List.append_assoc]
    exact callParts?_append h.filledKey sole (argument?_append h.filled)
  rw [readMembership?, same, cut]
  simp [line']

/-- A sign that shares no character with the mark of a call does not occur in it. -/
theorem not_infix_callText {mark : String} {sign : List Char} (known : sign ∈ marks)
    (apart : ∀ c ∈ mark.toList, c ∉ sign) (written : mark.toList ≠ [])
    (h : ValidCall key argument) : ¬ sign <:+: callText mark key argument := by
  have filled := (not_mem_mark known).1
  obtain ⟨head, body, same⟩ := List.exists_cons_of_ne_nil written
  rw [same] at apart
  rw [callText, same, List.append_assoc, List.cons_append,
    infix_append_cons (apart head List.mem_cons_self) filled,
    infix_append_left (fun c hc => apart c (List.mem_cons_of_mem _ hc)) filled, not_or]
  exact ⟨h.free sign known, h.closed sign known⟩

theorem not_includes_excludesCall (h : ValidCall key argument) :
    ¬ includesMark.toList <:+: callText excludesMark key argument := by
  have known : includesMark.toList ∈ marks := by decide
  have once : '.' ∉ includesBody := by decide
  have once' : '.' ∉ excludesBody := by decide
  have key' := h.free _ known
  have rest := h.closed _ known
  rw [includesMark_eq] at key' rest ⊢
  rw [callText, excludesMark_eq, List.append_assoc, List.cons_append,
    infix_append_of_head once, List.infix_cons_iff, infix_append_of_headless once', not_or,
    not_or]
  refine ⟨key', ?_, rest⟩
  intro begins
  have first := (List.cons_prefix_cons.mp begins).2
  rw [includesBody, excludesBody, List.cons_append, List.cons_prefix_cons] at first
  exact absurd first.1 (by decide)

theorem occursIn_callText (mark : String) (key argument : List Char) :
    occursIn mark.toList (callText mark key argument) = true := by
  rw [occursIn_iff]
  exact ⟨key, _, rfl⟩

variable (ev : Evaluator) (answers : Answers)

theorem evaluateAtom_includesCall (h : ValidCall key argument) :
    ev.evaluateAtom answers (callText includesMark key argument) =
      .ok (selects (readArguments argument)
        (Table.get? answers (String.ofList (trim key)))) := by
  rw [Evaluator.evaluateAtom, if_pos (occursIn_callText _ _ _),
    readMembership?_call includesMark_eq (by decide) (by decide) (by decide) h]

theorem evaluateAtom_excludesCall (h : ValidCall key argument) :
    ev.evaluateAtom answers (callText excludesMark key argument) =
      .ok (!selects (readArguments argument)
        (Table.get? answers (String.ofList (trim key)))) := by
  have other :
      ¬ occursIn includesMark.toList (callText excludesMark key argument) = true := by
    rw [occursIn_iff]
    exact not_includes_excludesCall h
  rw [Evaluator.evaluateAtom, if_neg other, if_pos (occursIn_callText _ _ _),
    readMembership?_call excludesMark_eq (by decide) (by decide) (by decide) h]

end Calls

theorem selects_iff (ids : List String) (answer : Option Value) :
    selects ids answer = true ↔ Selected ids answer := by
  cases answer with
  | none => simp [selects, Selected]
  | some v =>
    cases v with
    | text s => simp [selects, Selected]
    | list items =>
      simp only [selects, Selected, List.any_eq_true, Value.same_text]
      constructor
      · rintro ⟨id, inside, item, held, rfl⟩
        exact ⟨id, inside, held⟩
      · rintro ⟨id, inside, held⟩
        exact ⟨id, inside, _, held, rfl⟩
    | _ => simp [selects, Selected]

theorem tight_callText (mark : String) {key : List Char}
    (starts : ∃ c rest, key = c :: rest ∧ isBlank c = false) (argument : List Char) :
    Tight (callText mark key argument) := by
  obtain ⟨c, rest, rfl, solid⟩ := starts
  constructor
  · exact ⟨c, _, rfl, solid⟩
  · exact ⟨c :: rest ++ mark.toList ++ argument, ')', by simp [callText], by decide⟩

/-- The evaluator gives a truth value, and it is that of the statement. -/
def Decides (result : Except Failure Bool) (statement : Prop) : Prop :=
  ∃ b, result = .ok b ∧ (b = true ↔ statement)

theorem evaluateAtom_includes (ev : Evaluator) (answers : Answers) {key : String}
    {items : List Item} (h : Atom.ValidMembership key items) :
    Decides (ev.evaluateAtom answers (Atom.includes key items).text)
      ((Atom.includes key items).Holds ev answers) := by
  have read := evaluateAtom_includesCall ev answers h.call
  rw [h.solid.2, String.ofList_toList, readArguments_join h.filled h.valid] at read
  exact ⟨_, read, selects_iff _ _⟩

theorem evaluateAtom_excludes (ev : Evaluator) (answers : Answers) {key : String}
    {items : List Item} (h : Atom.ValidMembership key items) :
    Decides (ev.evaluateAtom answers (Atom.excludes key items).text)
      ((Atom.excludes key items).Holds ev answers) := by
  have read := evaluateAtom_excludesCall ev answers h.call
  rw [h.solid.2, String.ofList_toList, readArguments_join h.filled h.valid] at read
  refine ⟨_, read, ?_⟩
  rw [Bool.not_eq_true', ← Bool.not_eq_true, selects_iff]
  rfl

/-- Longer symbols are looked for first. -/
theorem symbols_pairwise (ev : Evaluator) :
    ev.symbols.Pairwise fun s t => t.length ≤ s.length := by
  have trans : ∀ a b c : String, decide (b.length ≤ a.length) = true →
      decide (c.length ≤ b.length) = true → decide (c.length ≤ a.length) = true := by
    simp only [decide_eq_true_eq]
    intro a b c
    omega
  have total : ∀ a b : String, (decide (b.length ≤ a.length) ||
      decide (a.length ≤ b.length)) = true := by
    simp only [Bool.or_eq_true, decide_eq_true_eq]
    intro a b
    omega
  exact (List.pairwise_mergeSort trans total _).imp fun h => of_decide_eq_true h

theorem symbols_filled {ev : Evaluator} (named : ∀ op ∈ ev.custom, op.symbol ≠ "")
    {symbol : String} (known : symbol ∈ ev.symbols) : symbol ≠ "" := by
  rcases List.mem_append.mp (mem_symbols.mp known) with builtin | custom
  · revert builtin
    simp only [Relation.all, List.map_cons, List.map_nil, Relation.symbol, List.mem_cons,
      List.not_mem_nil, or_false]
    rintro (rfl | rfl | rfl | rfl | rfl | rfl) <;> decide
  · obtain ⟨op, inside, rfl⟩ := List.mem_map.mp custom
    exact named op inside

/-- A text is cut at the first symbol that cuts it in two. -/
theorem cutComparison_of_sole {text left right : List Char} {symbol : String}
    {symbols : List String} (sorted : symbols.Pairwise fun s t => t.length ≤ s.length)
    (known : symbol ∈ symbols) (filled : ∀ other ∈ symbols, other ≠ "")
    (whole : ∀ other ∈ symbols, symbol.length ≤ other.length → other ≠ symbol →
      splitOn other.toList text = [text])
    (cut : splitOn symbol.toList text = [left, right]) :
    cutComparison text symbols = .ok (some (symbol, trim left, trim right)) := by
  induction symbols with
  | nil => cases known
  | cons first rest ih =>
    have first' : first.isEmpty = false := by
      simpa using filled first List.mem_cons_self
    rw [List.pairwise_cons] at sorted
    by_cases same : first = symbol
    · subst same
      simp only [cutComparison, first', Bool.false_eq_true, if_false, cut]
    · have later : symbol ∈ rest := by
        rcases List.mem_cons.mp known with here | later
        · exact absurd here.symm same
        · exact later
      have uncut := whole first List.mem_cons_self (sorted.1 symbol later) same
      simp only [cutComparison, first', Bool.false_eq_true, if_false, uncut]
      exact ih sorted.2 later (fun other inside =>
        filled other (List.mem_cons_of_mem _ inside))
        fun other inside => whole other (List.mem_cons_of_mem _ inside)

/-- A text is cut in two at a separator that occurs in one place. -/
theorem splitOn_of_sole {sep left right : List Char} (filled : sep ≠ [])
    (sole : ∀ first last, left ++ sep ++ right = first ++ sep ++ last → first = left) :
    splitOn sep (left ++ sep ++ right) = [left, right] := by
  have positive := List.length_pos_iff.mpr filled
  have inLeft : ¬ sep <:+: left ++ sep.dropLast := by
    rintro ⟨first, last, same⟩
    have whole :
        left ++ sep ++ right = first ++ sep ++ (last ++ [sep.getLast filled] ++ right) := by
      calc left ++ sep ++ right
          = (left ++ sep.dropLast) ++ [sep.getLast filled] ++ right := by
            rw [List.append_assoc left sep.dropLast, List.dropLast_concat_getLast]
        _ = first ++ sep ++ (last ++ [sep.getLast filled] ++ right) := by
            rw [← same]
            simp only [List.append_assoc]
    have length := congrArg List.length same
    rw [sole _ _ whole] at length
    simp only [List.length_append, List.length_dropLast] at length
    omega
  have inRight : ¬ sep <:+: right := by
    rintro ⟨first, last, same⟩
    have whole : left ++ sep ++ right = (left ++ sep ++ first) ++ sep ++ last := by
      rw [← same]
      simp only [List.append_assoc]
    have length := congrArg List.length (sole _ _ whole)
    simp only [List.length_append] at length
    omega
  have joined : left ++ sep ++ right = join sep [left, right] := rfl
  rw [joined]
  refine splitOn_join filled (by simp) ?_ ?_
  · intro piece inside
    simp only [List.mem_cons, List.not_mem_nil, or_false] at inside
    rcases inside with rfl | rfl
    · intro occurs
      exact inLeft (occurs.trans (List.prefix_append _ _).isInfix)
    · exact inRight
  · intro piece inside
    simp only [List.dropLast_cons_cons, List.dropLast_singleton,
      List.mem_singleton] at inside
    rw [inside]
    exact inLeft

theorem tight_comparisonText {ev : Evaluator} {key : String} {before : Nat}
    {symbol : String} {after : Nat} {literal : String}
    (h : Atom.ValidComparison ev key before symbol after literal) :
    Tight (Atom.comparisonText key before symbol after literal) := by
  have tight := (tight_of_solid h.solid).append (tight_of_solid h.solid') (spaces before ++
    symbol.toList ++ spaces after)
  simpa [Atom.comparisonText] using tight

/-- A comparison is cut at its symbol. -/
theorem cutComparison_text {ev : Evaluator} (named : ∀ op ∈ ev.custom, op.symbol ≠ "")
    {key : String} {before : Nat} {symbol : String} {after : Nat} {literal : String}
    (h : Atom.ValidComparison ev key before symbol after literal) :
    cutComparison (Atom.comparisonText key before symbol after literal) ev.symbols =
      .ok (some (symbol, key.toList, literal.toList)) := by
  have filled : ∀ other ∈ ev.symbols, other ≠ "" := by
    intro other known
    exact symbols_filled named known
  have written : symbol.toList ≠ [] := by
    simpa using filled symbol h.known
  have cut : splitOn symbol.toList (Atom.comparisonText key before symbol after literal) =
      [key.toList ++ spaces before, spaces after ++ literal.toList] := by
    apply splitOn_of_sole written
    intro first last same
    exact (h.sole symbol h.known (Nat.le_refl _) first last same).2
  have whole : ∀ other ∈ ev.symbols, symbol.length ≤ other.length → other ≠ symbol →
      splitOn other.toList (Atom.comparisonText key before symbol after literal) =
        [Atom.comparisonText key before symbol after literal] := by
    intro other known longer apart
    have free :
        ¬ other.toList <:+: Atom.comparisonText key before symbol after literal := by
      rintro ⟨first, last, same⟩
      exact apart (h.sole other known longer first last same.symm).1
    exact splitOn_of_not_infix free
  rw [cutComparison_of_sole (symbols_pairwise ev) h.known filled whole cut,
    trim_append_right (blank_spaces before), trim_append_left (blank_spaces after),
    h.solid.2, h.solid'.2]

theorem compare_of_gives {ev : Evaluator} {symbol : String} {answer literal : Value}
    {b : Bool} (h : ev.Gives symbol answer literal b) (text : List Char) :
    ev.compare text symbol answer literal = .ok b := by
  unfold Evaluator.Gives at h
  unfold Evaluator.compare
  cases custom : ev.custom? symbol with
  | none =>
    rw [custom] at h
    exact h
  | some op =>
    rw [custom] at h
    simp only at h
    simp only [h]

/-- An operator gives one truth value at most. -/
theorem gives_unique {ev : Evaluator} {symbol : String} {answer literal : Value}
    {b c : Bool} (h : ev.Gives symbol answer literal b)
    (h' : ev.Gives symbol answer literal c) : b = c := by
  have same := (compare_of_gives h []).symm.trans (compare_of_gives h' [])
  cases same
  rfl

theorem evaluateAtom_comparison {ev : Evaluator} (named : ∀ op ∈ ev.custom, op.symbol ≠ "")
    {answers : Answers} {key : String} {before : Nat} {symbol : String} {after : Nat}
    {literal : String} (h : Atom.ValidComparison ev key before symbol after literal)
    (settled : (Atom.comparison key before symbol after literal).Settled ev answers) :
    Decides (ev.evaluateAtom answers (Atom.comparison key before symbol after literal).text)
      ((Atom.comparison key before symbol after literal).Holds ev answers) := by
  have noIncludes :
      ¬ occursIn includesMark.toList (Atom.comparisonText key before symbol after literal) =
        true := by
    rw [occursIn_iff]
    exact h.free _ (by decide)
  have noExcludes :
      ¬ occursIn excludesMark.toList (Atom.comparisonText key before symbol after literal) =
        true := by
    rw [occursIn_iff]
    exact h.free _ (by decide)
  rw [Atom.text, Evaluator.evaluateAtom, if_neg noIncludes, if_neg noExcludes,
    Evaluator.evaluateComparison, cutComparison_text named h]
  simp only [bind, Except.bind, String.ofList_toList]
  cases found : Table.get? answers key with
  | none =>
    refine ⟨false, rfl, ?_⟩
    simp [Atom.Holds, found]
  | some answer =>
    by_cases null : answer = .null
    · subst null
      refine ⟨false, rfl, ?_⟩
      simp [Atom.Holds, found]
    · obtain ⟨b, gives⟩ := settled answer found null
      refine ⟨b, ?_, ?_⟩
      · cases answer with
        | null => exact absurd rfl null
        | _ => exact compare_of_gives gives _
      · constructor
        · rintro rfl
          exact ⟨answer, found, null, gives⟩
        · rintro ⟨other, found', _, gives'⟩
          rw [found] at found'
          cases found'
          exact gives_unique gives gives'

/-- The evaluator on an atom. -/
theorem evaluateAtom_text {ev : Evaluator} (named : ∀ op ∈ ev.custom, op.symbol ≠ "")
    {answers : Answers} {atom : Atom} (valid : atom.Valid ev)
    (settled : atom.Settled ev answers) :
    Decides (ev.evaluateAtom answers atom.text) (atom.Holds ev answers) := by
  cases atom with
  | includes key items => exact evaluateAtom_includes ev answers valid
  | excludes key items => exact evaluateAtom_excludes ev answers valid
  | comparison key before symbol after literal =>
    exact evaluateAtom_comparison named valid settled

theorem tight_text {ev : Evaluator} {atom : Atom} (valid : atom.Valid ev) :
    Tight atom.text := by
  cases atom with
  | includes key items => exact tight_callText _ (tight_of_solid valid.solid).starts _
  | excludes key items => exact tight_callText _ (tight_of_solid valid.solid).starts _
  | comparison key before symbol after literal => exact tight_comparisonText valid

theorem mem_marks_of_sign {sign : List Char} (h : sign = orSign ∨ sign = andSign) :
    sign ∈ marks := by
  rcases h with rfl | rfl <;> decide

/-- Neither sign occurs in an atom. -/
theorem not_infix_text {ev : Evaluator} {atom : Atom} (valid : atom.Valid ev)
    {sign : List Char} (h : sign = orSign ∨ sign = andSign) : ¬ sign <:+: atom.text := by
  have known := mem_marks_of_sign h
  cases atom with
  | includes key items =>
    have membership : Atom.ValidMembership key items := valid
    apply not_infix_callText known ?_ (by decide) membership.call
    rcases h with rfl | rfl <;> decide
  | excludes key items =>
    have membership : Atom.ValidMembership key items := valid
    apply not_infix_callText known ?_ (by decide) membership.call
    rcases h with rfl | rfl <;> decide
  | comparison key before symbol after literal =>
    have comparison : Atom.ValidComparison ev key before symbol after literal := valid
    exact comparison.free sign known

theorem decides_allM {α β : Type} (f : α → Except Failure Bool) (g : β → α) (P : β → Prop)
    (items : List β) (h : ∀ b ∈ items, Decides (f (g b)) (P b)) :
    Decides ((items.map g).allM f) (∀ b ∈ items, P b) := by
  induction items with
  | nil => exact ⟨true, rfl, by simp⟩
  | cons first rest ih =>
    obtain ⟨b, result, value⟩ := h first List.mem_cons_self
    obtain ⟨c, result', value'⟩ := ih fun b hb => h b (List.mem_cons_of_mem _ hb)
    simp only [List.map_cons, List.allM, result, bind, Except.bind]
    cases b with
    | true =>
      refine ⟨c, result', ?_⟩
      rw [value', List.forall_mem_cons]
      constructor
      · intro later
        exact ⟨value.mp rfl, later⟩
      · rintro ⟨_, later⟩
        exact later
    | false =>
      refine ⟨false, rfl, ?_⟩
      rw [List.forall_mem_cons]
      constructor
      · intro no
        cases no
      · rintro ⟨now, _⟩
        exact value.mpr now

theorem decides_anyM {α β : Type} (f : α → Except Failure Bool) (g : β → α) (P : β → Prop)
    (items : List β) (h : ∀ b ∈ items, Decides (f (g b)) (P b)) :
    Decides ((items.map g).anyM f) (∃ b ∈ items, P b) := by
  induction items with
  | nil => exact ⟨false, rfl, by simp⟩
  | cons first rest ih =>
    obtain ⟨b, result, value⟩ := h first List.mem_cons_self
    obtain ⟨c, result', value'⟩ := ih fun b hb => h b (List.mem_cons_of_mem _ hb)
    simp only [List.map_cons, List.anyM, result, bind, Except.bind]
    cases b with
    | true =>
      refine ⟨true, rfl, ?_⟩
      constructor
      · intro _
        exact ⟨first, List.mem_cons_self, value.mp rfl⟩
      · intro _
        rfl
    | false =>
      refine ⟨c, result', ?_⟩
      rw [value']
      constructor
      · rintro ⟨b, inside, holds⟩
        exact ⟨b, List.mem_cons_of_mem _ inside, holds⟩
      · rintro ⟨b, inside, holds⟩
        rcases List.mem_cons.mp inside with rfl | later
        · exact absurd (value.mpr holds) (by decide)
        · exact ⟨b, later, holds⟩

theorem trim_part {ev : Evaluator} {part : Part} (valid : part.atom.Valid ev) :
    trim part.text = part.atom.text :=
  trim_spaces (tight_text valid) part.left part.right

theorem not_infix_part {ev : Evaluator} {part : Part} (valid : part.atom.Valid ev)
    {sign : List Char} (h : sign = orSign ∨ sign = andSign) : ¬ sign <:+: part.text := by
  obtain ⟨filled, space, _⟩ := not_mem_mark (mem_marks_of_sign h)
  rw [Part.text, infix_spaces space filled]
  exact not_infix_text valid h

/-- Cutting at a doubled sign gives back the pieces, if none of them ends in half of it. -/
theorem splitOn_join_pair {c : Char} {texts : List (List Char)} (filled : texts ≠ [])
    (free : ∀ text ∈ texts, ¬ [c, c] <:+: text)
    (ends : ∀ text ∈ texts.dropLast, text.getLast? ≠ some c) :
    splitOn [c, c] (join [c, c] texts) = texts := by
  apply splitOn_join (by simp) filled free
  intro text inside
  exact not_infix_pair_append (free text (List.dropLast_subset _ inside)) (ends text inside)

/-- The evaluator on an alternative. -/
theorem evaluateConjunction_text {ev : Evaluator} (named : ∀ op ∈ ev.custom, op.symbol ≠ "")
    {answers : Answers} {parts : List Part} (filled : parts ≠ [])
    (valid : ∀ part ∈ parts, part.atom.Valid ev)
    (ends : ∀ part ∈ parts.dropLast, part.text.getLast? ≠ some '&')
    (settled : ∀ part ∈ parts, part.atom.Settled ev answers) :
    Decides (ev.evaluateConjunction answers (trim (Expression.conjunctionText parts)))
      (∀ part ∈ parts, part.atom.Holds ev answers) := by
  have cut : splitOn andSign (Expression.conjunctionText parts) = parts.map Part.text := by
    refine splitOn_join_pair (by simpa using filled) ?_ ?_
    · intro text inside
      obtain ⟨part, hp, rfl⟩ := List.mem_map.mp inside
      exact not_infix_part (valid part hp) (Or.inr rfl)
    · intro text inside
      rw [← List.map_dropLast] at inside
      obtain ⟨part, hp, rfl⟩ := List.mem_map.mp inside
      exact ends part hp
  have pieces : (splitOn andSign (trim (Expression.conjunctionText parts))).map trim =
      parts.map fun part => part.atom.text := by
    rw [splitOn_trim (by decide) (by decide), cut, List.map_map]
    exact List.map_congr_left fun part hp => trim_part (valid part hp)
  change Decides (((splitOn andSign (trim (Expression.conjunctionText parts))).map
    trim).allM (ev.evaluateAtom answers)) _
  rw [pieces]
  exact decides_allM _ _ _ parts fun part hp =>
    evaluateAtom_text named (valid part hp) (settled part hp)

/-- The evaluator on what is written. -/
theorem evaluateAlternatives_text {ev : Evaluator}
    (named : ∀ op ∈ ev.custom, op.symbol ≠ "") {answers : Answers} {e : Expression}
    (valid : e.Valid ev)
    (settled : ∀ parts ∈ e, ∀ part ∈ parts, part.atom.Settled ev answers) :
    Decides (ev.evaluateAlternatives answers (trim e.text))
      (∃ parts ∈ e, ∀ part ∈ parts, part.atom.Holds ev answers) := by
  have cut : splitOn orSign e.text = e.map Expression.conjunctionText := by
    refine splitOn_join_pair (by simpa using valid.filled) ?_ ?_
    · intro text inside
      obtain ⟨parts, hp, rfl⟩ := List.mem_map.mp inside
      refine not_infix_join (by decide) (by decide) (by decide) ?_
      intro text inside
      obtain ⟨part, there, rfl⟩ := List.mem_map.mp inside
      exact not_infix_part (valid.atoms parts hp part there) (Or.inl rfl)
    · intro text inside
      rw [← List.map_dropLast] at inside
      obtain ⟨parts, hp, rfl⟩ := List.mem_map.mp inside
      exact valid.alternatives parts hp
  have pieces : (splitOn orSign (trim e.text)).map trim =
      e.map fun parts => trim (Expression.conjunctionText parts) := by
    rw [splitOn_trim (by decide) (by decide), cut, List.map_map]
    rfl
  change Decides (((splitOn orSign (trim e.text)).map trim).anyM
    (ev.evaluateConjunction answers)) _
  rw [pieces]
  exact decides_anyM _ _ _ e fun parts hp =>
    evaluateConjunction_text named (valid.parts parts hp)
    (valid.atoms parts hp) (valid.conjunctions parts hp) (settled parts hp)

theorem trim_expression_ne_nil {ev : Evaluator} {e : Expression} (valid : e.Valid ev) :
    trim e.text ≠ [] := by
  obtain ⟨parts, rest, rfl⟩ := List.exists_cons_of_ne_nil valid.filled
  obtain ⟨part, more, rfl⟩ :=
    List.exists_cons_of_ne_nil (valid.parts parts List.mem_cons_self)
  obtain ⟨⟨c, tail, text, solid⟩, _⟩ :=
    tight_text (valid.atoms _ List.mem_cons_self part List.mem_cons_self)
  have inAtom : c ∈ part.text := by
    simp [Part.text, text]
  have inConjunction : c ∈ Expression.conjunctionText (part :: more) :=
    mem_join_of_mem andSign (List.mem_map.mpr ⟨part, List.mem_cons_self, rfl⟩) inAtom
  exact trim_ne_nil (mem_join_of_mem orSign (List.mem_map.mpr ⟨_, List.mem_cons_self, rfl⟩)
    inConjunction) solid

/-- The evaluator computes what a condition says: on the text of a condition, strict or not,
it gives a truth value if no operator fails, and it is true exactly if all atoms of some
alternative hold. -/
theorem evaluate_print (ev : Evaluator) (named : ∀ op ∈ ev.custom, op.symbol ≠ "")
    (answers : Answers) (e : Expression) (valid : e.Valid ev)
    (settled : ∀ parts ∈ e, ∀ part ∈ parts, part.atom.Settled ev answers) :
    ∃ b, ev.evaluate e.print answers = .ok b ∧
      (b = true ↔ ∃ parts ∈ e, ∀ part ∈ parts, part.atom.Holds ev answers) := by
  obtain ⟨b, result, value⟩ := evaluateAlternatives_text named valid settled
  refine ⟨b, ?_, value⟩
  have filled : (trim e.text).isEmpty = false := by
    simpa using trim_expression_ne_nil valid
  rw [Evaluator.evaluate, Expression.print, String.toList_ofList]
  simp only [filled, Bool.false_eq_true, if_false, result]
  rfl

/-- An evaluator that fails on malformed conditions and knows `===`. -/
def exactEvaluator : Evaluator where
  strict := true
  custom := [⟨"===", fun answer literal => .ok (answer == literal)⟩]

/-- `age >=18 && services.includes("logement", 'bourse')||statut=== etudiant` -/
def servicesCondition : Expression :=
  [[⟨0, .comparison "age" 1 ">=" 0 "18", 1⟩,
      ⟨1, .includes "services" [⟨"logement", some ('"', '"'), 0, 0⟩,
        ⟨"bourse", some ('\'', '\''), 1, 0⟩], 0⟩],
    [⟨0, .comparison "statut" 0 "===" 1 "etudiant", 0⟩]]

def servicesAnswers : Answers :=
  [("age", .int 25), ("services", .list [.text "bourse"]), ("statut", .text "salarie")]

theorem evaluate_print_services :
    (∀ op ∈ exactEvaluator.custom, op.symbol ≠ "") ∧
      servicesCondition.Valid exactEvaluator ∧
      (∀ parts ∈ servicesCondition, ∀ part ∈ parts,
        part.atom.Settled exactEvaluator servicesAnswers) ∧
      ∃ b, exactEvaluator.evaluate servicesCondition.print servicesAnswers = .ok b ∧
        (b = true ↔ ∃ parts ∈ servicesCondition, ∀ part ∈ parts,
          part.atom.Holds exactEvaluator servicesAnswers) := by
  have named : ∀ op ∈ exactEvaluator.custom, op.symbol ≠ "" := by simp [exactEvaluator]
  have age : Atom.ValidComparison exactEvaluator "age" 1 ">=" 0 "18" :=
    Atom.validComparison_of_apart (by decide) (by decide) (by decide) (by decide) (by decide)
  have status : Atom.ValidComparison exactEvaluator "statut" 0 "===" 1 "etudiant" :=
    Atom.validComparison_of_apart (by decide) (by decide) (by decide) (by decide) (by decide)
  have services : Atom.ValidMembership "services"
      [⟨"logement", some ('"', '"'), 0, 0⟩, ⟨"bourse", some ('\'', '\''), 1, 0⟩] := by
    refine ⟨by decide, by decide, by decide, by simp, ?_⟩
    simp only [List.forall_mem_cons, List.not_mem_nil, false_implies,
      implies_true, and_true]
    exact ⟨Item.valid_of_quotes rfl rfl rfl (by decide) (by decide) (by decide) (by decide),
      Item.valid_of_quotes rfl rfl rfl (by decide) (by decide) (by decide) (by decide)⟩
  have valid : servicesCondition.Valid exactEvaluator := by
    refine ⟨by simp [servicesCondition], by simp [servicesCondition], ?_, ?_, ?_⟩
    · simp [servicesCondition, Atom.Valid, age, status, services]
    · decide
    · decide
  have settled : ∀ parts ∈ servicesCondition, ∀ part ∈ parts,
      part.atom.Settled exactEvaluator servicesAnswers := by
    simp only [servicesCondition, List.forall_mem_cons, List.not_mem_nil, false_implies,
      implies_true, and_true]
    refine ⟨⟨?_, trivial⟩, ?_⟩
    · intro answer found _
      cases found
      exact ⟨true, rfl⟩
    · intro answer found _
      exact ⟨_, rfl⟩
  exact ⟨named, valid, settled, evaluate_print exactEvaluator named servicesAnswers
    servicesCondition valid settled⟩

end Questionnaire.Condition
