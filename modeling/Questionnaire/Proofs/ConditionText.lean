import Questionnaire.Condition.Evaluator
import Questionnaire.Proofs.Cutting

/-!
# The texts of conditions

A condition is a list of alternatives, each a list of atoms, with any number of spaces
around the signs between them. What follows is how conditions are written, which of them can
be told apart again, and what they mean. Reading is left to the evaluator.
-/

namespace Questionnaire.Condition

def orSign : List Char := ['|', '|']

def andSign : List Char := ['&', '&']

/-- The texts that take a condition apart. -/
def marks : List (List Char) := [orSign, andSign, includesMark.toList, excludesMark.toList]

/-- None of the marks occurs in the text. -/
def Free (text : List Char) : Prop := ∀ mark ∈ marks, ¬ mark <:+: text

instance (text : List Char) : Decidable (Free text) :=
  decidable_of_iff (∀ mark ∈ marks, Text.occursIn mark text = false)
    ⟨fun h mark hm => Text.occursIn_eq_false.mp (h mark hm), fun h mark hm =>
      Text.occursIn_eq_false.mpr (h mark hm)⟩

/-- A text that is there and does not start or end with a blank. -/
def Solid (text : List Char) : Prop := text ≠ [] ∧ Text.trim text = text

instance (text : List Char) : Decidable (Solid text) := inferInstanceAs (Decidable (_ ∧ _))

def spaces (n : Nat) : List Char := List.replicate n ' '

/-- An id of a membership test as it is written: bare or in quotes, between spaces. -/
structure Item where
  id : String
  quotes : Option (Char × Char)
  before : Nat
  after : Nat

namespace Item

def bare (i : Item) : List Char :=
  match i.quotes with
  | some (opening, closing) => opening :: i.id.toList ++ [closing]
  | none => i.id.toList

def text (i : Item) : List Char := spaces i.before ++ i.bare ++ spaces i.after

/-- Ids are in one line and have no comma. Without quotes they must not look as if they had
some. -/
structure Valid (i : Item) : Prop where
  filled : i.id.toList ≠ []
  comma : ',' ∉ i.id.toList
  line : '\n' ∉ i.id.toList
  free : Free i.id.toList
  quoted : ∀ opening closing, i.quotes = some (opening, closing) → isQuote opening = true ∧
    isQuote closing = true
  unquoted : i.quotes = none → Solid i.id.toList ∧ unquote i.id.toList = i.id.toList

theorem valid_of_quotes {i : Item} {opening closing : Char}
    (quotes : i.quotes = some (opening, closing)) (ho : isQuote opening = true)
    (hc : isQuote closing = true) (filled : i.id.toList ≠ []) (comma : ',' ∉ i.id.toList)
    (line : '\n' ∉ i.id.toList) (free : Free i.id.toList) : i.Valid := by
  refine ⟨filled, comma, line, free, ?_, ?_⟩
  · intro o c same
    rw [quotes] at same
    cases same
    exact ⟨ho, hc⟩
  · intro none
    rw [quotes] at none
    cases none

end Item

inductive Atom where
  | includes (key : String) (items : List Item)
  | excludes (key : String) (items : List Item)
  | comparison (key : String) (before : Nat) (symbol : String) (after : Nat)
      (literal : String)

/-- The symbols of an evaluator are those that every evaluator knows and its own. -/
theorem mem_symbols {ev : Evaluator} {symbol : String} :
    symbol ∈ ev.symbols ↔ symbol ∈ Relation.all.map Relation.symbol ++
      ev.custom.map (·.symbol) := by
  simp only [Evaluator.symbols, List.mem_mergeSort, List.mem_append, List.mem_filter]
  by_cases builtin : symbol ∈ Relation.all.map Relation.symbol
  · simp [builtin]
  · simp [builtin]

/-- A call: a key, a mark, and whatever stands before the closing bracket. -/
def callText (mark : String) (key argument : List Char) : List Char :=
  key ++ mark.toList ++ (argument ++ [')'])

/-- Key and argument are there, in one line and without marks. Nothing is said about the ids
in the argument. -/
structure ValidCall (key argument : List Char) : Prop where
  named : Text.trim key ≠ []
  line : '\n' ∉ key
  free : Free key
  filled : argument ≠ []
  line' : '\n' ∉ argument
  free' : Free argument

namespace Atom

def membershipText (mark key : String) (items : List Item) : List Char :=
  key.toList ++ mark.toList ++ (Text.join [','] (items.map Item.text) ++ [')'])

def comparisonText (key : String) (before : Nat) (symbol : String) (after : Nat)
    (literal : String) : List Char :=
  (key.toList ++ spaces before) ++ symbol.toList ++ (spaces after ++ literal.toList)

def text : Atom → List Char
  | .includes key items => membershipText includesMark key items
  | .excludes key items => membershipText excludesMark key items
  | .comparison key before symbol after literal =>
      comparisonText key before symbol after literal

structure ValidMembership (key : String) (items : List Item) : Prop where
  solid : Solid key.toList
  line : '\n' ∉ key.toList
  free : Free key.toList
  filled : items ≠ []
  valid : ∀ item ∈ items, item.Valid

/-- No symbol that is looked for before the one of the comparison, or as early, occurs in
it, and that one occurs nowhere else. -/
structure ValidComparison (ev : Evaluator) (key : String) (before : Nat) (symbol : String)
    (after : Nat) (literal : String) : Prop where
  solid : Solid key.toList
  solid' : Solid literal.toList
  free : Free (comparisonText key before symbol after literal)
  known : symbol ∈ ev.symbols
  sole : ∀ other ∈ ev.symbols, symbol.length ≤ other.length → ∀ first last,
    comparisonText key before symbol after literal = first ++ other.toList ++ last →
      other = symbol ∧ first = key.toList ++ spaces before

/-- A text that shares no character with what is around another one occurs there as that
one, if it is not shorter. -/
theorem sole_of_apart {left middle right other first last : List Char} (filled : other ≠ [])
    (longer : middle.length ≤ other.length) (apartLeft : ∀ c ∈ left, c ∉ other)
    (apartRight : ∀ c ∈ right, c ∉ other)
    (same : left ++ middle ++ right = first ++ other ++ last) :
    other = middle ∧ first = left := by
  rw [List.append_assoc, List.append_assoc, List.append_eq_append_iff] at same
  -- the other text does not start on the left
  obtain ⟨between, rfl, rest⟩ : ∃ between, first = left ++ between ∧
      middle ++ right = between ++ (other ++ last) := by
    rcases same with same | ⟨between, rfl, rest⟩
    · exact same
    · cases between with
      | nil => exact ⟨[], by simp, by simpa using rest.symm⟩
      | cons c between =>
        obtain ⟨d, tail, rfl⟩ := List.exists_cons_of_ne_nil filled
        simp only [List.cons_append, List.cons.injEq] at rest
        exact absurd List.mem_cons_self (rest.1 ▸ apartLeft c (by simp))
  -- and it does not end on the right
  rw [← List.append_assoc, List.append_eq_append_iff] at rest
  have whole : ∃ behind, middle = between ++ other ++ behind := by
    rcases rest with ⟨behind, whole, rfl⟩ | ⟨behind, whole, _⟩
    · rcases List.eq_nil_or_concat behind with rfl | ⟨front, c, rfl⟩
      · exact ⟨[], by simpa using whole.symm⟩
      · obtain ⟨init, d, rfl⟩ : ∃ init d, other = init ++ [d] :=
          ⟨other.dropLast, other.getLast filled, (List.dropLast_concat_getLast filled).symm⟩
        rw [← List.append_assoc, List.concat_eq_append, ← List.append_assoc] at whole
        have ends := (List.append_inj' whole rfl).2
        simp only [List.cons.injEq, and_true] at ends
        subst ends
        exact absurd (List.mem_append_right _ List.mem_cons_self) (apartRight d (by simp))
    · exact ⟨behind, whole⟩
  obtain ⟨behind, rfl⟩ := whole
  simp only [List.length_append] at longer
  have nothing : between = [] ∧ behind = [] := by
    constructor <;> refine List.length_eq_zero_iff.mp ?_ <;> omega
  simp [nothing]

/-- A comparison can be read if its key, its spaces and its literal share no character with
a symbol. -/
theorem validComparison_of_apart {ev : Evaluator} {key : String} {before : Nat}
    {symbol : String} {after : Nat} {literal : String} (solid : Solid key.toList)
    (solid' : Solid literal.toList)
    (free : Free (comparisonText key before symbol after literal))
    (known : symbol ∈ Relation.all.map Relation.symbol ++ ev.custom.map (·.symbol))
    (apart : ∀ other ∈ Relation.all.map Relation.symbol ++ ev.custom.map (·.symbol),
      other ≠ "" ∧ ∀ c ∈ key.toList ++ [' '] ++ literal.toList, c ∉ other.toList) :
    ValidComparison ev key before symbol after literal := by
  refine ⟨solid, solid', free, mem_symbols.mpr known, ?_⟩
  intro other inside longer first last same
  obtain ⟨filled, apart⟩ := apart other (mem_symbols.mp inside)
  simp only [List.mem_append, List.mem_singleton] at apart
  have length : symbol.toList.length ≤ other.toList.length := by
    simpa only [String.length_toList] using longer
  have left : ∀ c ∈ key.toList ++ spaces before, c ∉ other.toList := by
    intro c hc
    rcases List.mem_append.mp hc with hc | hc
    · exact apart c (Or.inl (Or.inl hc))
    · exact apart c (Or.inl (Or.inr (List.eq_of_mem_replicate hc)))
  have right : ∀ c ∈ spaces after ++ literal.toList, c ∉ other.toList := by
    intro c hc
    rcases List.mem_append.mp hc with hc | hc
    · exact apart c (Or.inl (Or.inr (List.eq_of_mem_replicate hc)))
    · exact apart c (Or.inr hc)
  obtain ⟨same, start⟩ := sole_of_apart (by simpa using filled) length left right same
  exact ⟨String.toList_inj.mp same, start⟩

def Valid (ev : Evaluator) : Atom → Prop
  | .includes key items => ValidMembership key items
  | .excludes key items => ValidMembership key items
  | .comparison key before symbol after literal =>
      ValidComparison ev key before symbol after literal

end Atom

/-- An atom between spaces. -/
structure Part where
  left : Nat
  atom : Atom
  right : Nat

def Part.text (p : Part) : List Char := spaces p.left ++ p.atom.text ++ spaces p.right

/-- Alternatives, each of them parts that have to hold together. -/
abbrev Expression : Type := List (List Part)

namespace Expression

def conjunctionText (parts : List Part) : List Char :=
  Text.join andSign (parts.map Part.text)

def text (e : Expression) : List Char := Text.join orSign (e.map conjunctionText)

/-- The text of a condition. -/
def print (e : Expression) : String := String.ofList e.text

/-- Nothing is empty, the atoms can be read, and no text ends in half of the sign that
follows it. -/
structure Valid (ev : Evaluator) (e : Expression) : Prop where
  filled : e ≠ []
  parts : ∀ parts ∈ e, parts ≠ []
  atoms : ∀ parts ∈ e, ∀ part ∈ parts, part.atom.Valid ev
  conjunctions : ∀ parts ∈ e, ∀ part ∈ parts.dropLast, part.text.getLast? ≠ some '&'
  alternatives : ∀ parts ∈ e.dropLast, (conjunctionText parts).getLast? ≠ some '|'

end Expression

/-- One of the ids is the answer, or an element of it. -/
def Selected (ids : List String) : Option Value → Prop
  | some (.text s) => s ≠ "" ∧ s ∈ ids
  | some (.list items) => ∃ id ∈ ids, Value.text id ∈ items
  | _ => False

/-- The operator of a symbol gives a truth value for an answer and a literal. -/
def Evaluator.Gives (ev : Evaluator) (symbol : String) (answer literal : Value) (b : Bool) :
    Prop :=
  match ev.custom? symbol with
  | some op => op.apply answer literal = .ok b
  | none => compareBy symbol answer literal = .ok b

namespace Atom

/-- What an atom says about the answers. -/
def Holds (ev : Evaluator) (answers : Answers) : Atom → Prop
  | .includes key items => Selected (items.map Item.id) (Table.get? answers key)
  | .excludes key items => ¬ Selected (items.map Item.id) (Table.get? answers key)
  | .comparison key _ symbol _ literal =>
      ∃ answer, Table.get? answers key = some answer ∧ answer ≠ .null ∧
        ev.Gives symbol answer (readLiteral literal.toList) true

/-- No operator fails on the answers. -/
def Settled (ev : Evaluator) (answers : Answers) : Atom → Prop
  | .comparison key _ symbol _ literal =>
      ∀ answer, Table.get? answers key = some answer → answer ≠ .null →
        ∃ b, ev.Gives symbol answer (readLiteral literal.toList) b
  | _ => True

end Atom

end Questionnaire.Condition
