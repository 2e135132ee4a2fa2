import Questionnaire.Decimal.Shortest
import Questionnaire.Digits
import Questionnaire.Text.Quoted
import Questionnaire.Value.Order

/-!
# Writing JSON

Characters are written as they are, except quotes, backslashes and control characters. Keys
that are numbers, truth values or null become texts. A document can be laid out over lines
and its entries sorted by key; sorting fails on keys that have no order. Whole numbers with
too many digits are refused.
-/

namespace Questionnaire.Json

/-- How a document is written: the width of an indentation, if it is laid out, whether
entries are sorted, and the limit on the digits of whole numbers. -/
structure Style where
  indent : Option Nat := none
  sorted : Bool := false
  digits : Nat := Digits.standard

def escape (c : Char) : List Char :=
  if c = '"' then ['\\', '"']
  else if c = '\\' then ['\\', '\\']
  else if c = '\n' then ['\\', 'n']
  else if c = '\r' then ['\\', 'r']
  else if c = '\t' then ['\\', 't']
  else if c.toNat = 8 then ['\\', 'b']
  else if c.toNat = 12 then ['\\', 'f']
  else if c.toNat < 32 then '\\' :: 'u' :: Text.hexDigits 4 c.toNat
  else [c]

def writeText (s : String) : List Char := '"' :: s.toList.flatMap escape ++ ['"']

def floatText : Binary64 → String
  | .nan => "NaN"
  | .infinite negative => if negative then "-Infinity" else "Infinity"
  | x => x.display

def keyText (digits : Nat) : Value → Except Failure String
  | .text s => .ok s
  | .null => .ok "null"
  | .bool b => .ok (if b then "true" else "false")
  | .int n => Digits.write digits n
  | .float x => .ok (floatText x)
  | _ => .error (.misuse .kind)

/-- A line break and the indentation of a depth, where a document is laid out. -/
def lineBreak (style : Style) (depth : Nat) : List Char :=
  match style.indent with
  | none => []
  | some width => '\n' :: List.replicate (width * depth) ' '

def separator (style : Style) (depth : Nat) : List Char :=
  if style.indent.isSome then ',' :: lineBreak style depth else [',', ' ']

/-- Parts between brackets; the depth is that of the parts. -/
def enclose (style : Style) (depth : Nat) (first last : Char) (parts : List (List Char)) :
    List Char :=
  if parts.isEmpty then [first, last]
  else
    first :: lineBreak style depth ++ ((separator style depth).intercalate parts)
      ++ lineBreak style (depth - 1) ++ [last]

/-- An entry as it is written, if it can be, with the key it came from. Entries are sorted
before any of them is written, so that the first failure is that of the first one in order.
-/
structure Entry where
  key : Value
  text : Except Failure (List Char)

/-- The entries in the order in which they are written. -/
def arrange (style : Style) (entries : List Entry) : Except Failure (List Entry) :=
  if style.sorted then (Value.sortOn? Entry.key entries).elim (.error (.misuse .kind)) .ok
    else .ok entries

mutual

def write (style : Style) (depth : Nat) : Value → Except Failure (List Char)
  | .null => .ok ['n', 'u', 'l', 'l']
  | .bool b => .ok (if b then ['t', 'r', 'u', 'e'] else ['f', 'a', 'l', 's', 'e'])
  | .int n => (Digits.write style.digits n).map String.toList
  | .float x => .ok (floatText x).toList
  | .text s => .ok (writeText s)
  | .list items => do
      let parts ← writeItems style (depth + 1) items
      return enclose style (depth + 1) '[' ']' parts
  | .map entries => do
      let inOrder ← arrange style (writeEntries style (depth + 1) entries)
      let parts ← inOrder.mapM Entry.text
      return enclose style (depth + 1) '\x7b' '\x7d' parts
  | _ => .error (.misuse .kind)

def writeItems (style : Style) (depth : Nat) :
    List Value → Except Failure (List (List Char))
  | [] => .ok []
  | v :: rest => do
      let part ← write style depth v
      let parts ← writeItems style depth rest
      return part :: parts

def writeEntries (style : Style) (depth : Nat) : List (Value × Value) → List Entry
  | [] => []
  | (k, v) :: rest =>
      let text := do
        let key ← keyText style.digits k
        let part ← write style depth v
        return writeText key ++ ':' :: ' ' :: part
      ⟨k, text⟩ :: writeEntries style depth rest

end

def print (style : Style) (v : Value) : Except Failure String :=
  (write style 0 v).map String.ofList

end Questionnaire.Json
