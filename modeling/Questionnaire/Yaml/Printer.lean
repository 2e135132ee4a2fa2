import Questionnaire.Digits
import Questionnaire.Value.Order
import Questionnaire.Yaml.Scalar
import Questionnaire.Yaml.ScalarStyle

/-!
# Writing YAML

Maps and lists are written as blocks, one entry on a line, empty ones as brackets. A list in
a map is not indented further than its key. Keys are sorted where that is asked for and
possible.
-/

namespace Questionnaire.Yaml

/-- The text of a scalar, the width of its tag, and whether the text has its meaning without
quotes. -/
structure ScalarForm where
  text : List Char
  tagWidth : Nat
  readsBack : Bool := true

/-- A floating-point number has a point. -/
def floatForm : Binary64 → List Char
  | .nan => ".nan".toList
  | .infinite negative => (if negative then "-.inf" else ".inf").toList
  | x =>
      let text := x.display.toList
      if text.contains '.' then text
      else text.takeWhile (· ≠ 'e') ++ '.' :: '0' :: text.dropWhile (· ≠ 'e')

/-- The form of a value that is neither list nor map. -/
def scalarForm : Value → ScalarForm
  | .null => ⟨"null".toList, 6, true⟩
  | .bool b => ⟨(if b then "true" else "false").toList, 6, true⟩
  | .int n => ⟨(toString n).toList, 5, true⟩
  | .float x => ⟨floatForm x, 7, true⟩
  | .date d => ⟨d.iso.toList, 11, true⟩
  | .moment m => ⟨(m.isoWith " ").toList, 11, true⟩
  | .text s => ⟨s.toList, 5, Kind.ofPlain s = .text⟩
  | _ => ⟨[], 0, true⟩

mutual

/-- What keeps a value from being written, the first in the order of its parts: a selection
with its label, or a whole number with too many digits. -/
def fault? (digits : Nat) : Value → Option Failure
  | .combobox _ _ => some (.misuse .unwritable)
  | .int n => if Digits.fit digits n then none else some (Digits.tooMany digits)
  | .list items => faultOfItems? digits items
  | .map entries => faultOfEntries? digits entries
  | _ => none

def faultOfItems? (digits : Nat) : List Value → Option Failure
  | [] => none
  | v :: rest => fault? digits v <|> faultOfItems? digits rest

def faultOfEntries? (digits : Nat) : List (Value × Value) → Option Failure
  | [] => none
  | (k, v) :: rest => fault? digits k <|> fault? digits v <|> faultOfEntries? digits rest

end

mutual

/-- The value with the entries of all maps sorted by key, where the keys can be. -/
def arrange : Value → Value
  | .list items => .list (arrangeItems items)
  | .map entries =>
      let entries := arrangeEntries entries
      .map ((Value.sortOn? Prod.fst entries).getD entries)
  | v => v

def arrangeItems : List Value → List Value
  | [] => []
  | v :: rest => arrange v :: arrangeItems rest

def arrangeEntries : List (Value × Value) → List (Value × Value)
  | [] => []
  | (k, v) :: rest => (k, arrange v) :: arrangeEntries rest

end

/-- Where a value stands: alone, in a list, or behind a key. -/
inductive Position where
  | root
  | item
  | behindKey
  deriving DecidableEq

/-- Write a scalar; its lines are continued two columns behind the indentation. -/
def writeLeaf (isKey : Bool) (indent : Option Nat) (v : Value) (p : Pen) : Pen :=
  let form := scalarForm v
  let style := ScalarStyle.choose isKey form.readsBack form.text
  p.writeScalar style (!isKey) ((indent.map (· + 2)).getD 2) form.text

/-- Does a key fit on its line before the colon? -/
def isSimpleKey (v : Value) : Bool :=
  let form := scalarForm v
  form.tagWidth + form.text.length < 128 && !form.text.isEmpty && !form.text.any isLineEnd

def writeBrackets (first last : Char) (p : Pen) : Pen :=
  (p.indicator first true false).indicator last false false

def deeper (indent : Option Nat) : Nat := (indent.map (· + 2)).getD 0

mutual

def writeValue (indent : Option Nat) (position : Position) : Value → Pen → Pen
  | .list items, p =>
      if items.isEmpty then writeBrackets '[' ']' p
      else
        let isFlush := position = .behindKey && !p.atIndent
        writeItems (if isFlush then indent.getD 0 else deeper indent) items p
  | .map entries, p =>
      if entries.isEmpty then writeBrackets '\x7b' '\x7d' p
        else writeEntries (deeper indent) entries p
  | v, p => writeLeaf false indent v p

def writeItems (indent : Nat) : List Value → Pen → Pen
  | [], p => p
  | v :: rest, p =>
      let p := (p.toIndent indent).indicator '-' true true
      writeItems indent rest (writeValue (some indent) .item v p)

def writeEntries (indent : Nat) : List (Value × Value) → Pen → Pen
  | [], p => p
  | (k, v) :: rest, p =>
      let p := p.toIndent indent
      let p :=
        if isSimpleKey k then (writeLeaf true (some indent) k p).indicator ':' false false
        else
          let p := writeLeaf false (some indent) k (p.indicator '?' true true)
          (p.toIndent indent).indicator ':' true true
      writeEntries indent rest (writeValue (some indent) .behindKey v p)

end

/-- Is a value at the top written without quotes? Then the document needs a mark at its end. -/
def endsOpen : Value → Bool
  | .list _ => false
  | .map _ => false
  | v =>
      let form := scalarForm v
      ScalarStyle.choose false form.readsBack form.text = .plain

/-- The document of a value, with a limit on the digits of whole numbers. -/
def print (sorted : Bool) (v : Value) (digits : Nat := Digits.standard) :
    Except Failure String :=
  let v := if sorted then arrange v else v
  match fault? digits v with
  | some failure => .error failure
  | none =>
      let p := (writeValue none .root v {}).toIndent 0
      .ok (p.text ++ (if endsOpen v then "...\n" else ""))

end Questionnaire.Yaml
