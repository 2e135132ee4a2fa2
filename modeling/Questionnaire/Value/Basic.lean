import Questionnaire.Calendar.Moment
import Questionnaire.Decimal.Binary64
import Questionnaire.Table

/-!
# Values

What answers, options and documents hold. Equality is that of the quantities denoted: a
truth value counts as 0 or 1, whole and floating-point numbers are equal if they are the
same number, and maps are equal whatever the order of their entries.
-/

namespace Questionnaire

/-- A value of a survey or of a document. A `combobox` is a selection with its visible label. -/
inductive Value where
  | null
  | bool (b : Bool)
  | int (n : Int)
  | float (x : Binary64)
  | text (s : String)
  | list (items : List Value)
  | map (entries : List (Value × Value))
  | date (d : Date)
  | moment (m : Moment)
  | combobox (label value : Value)
  deriving Repr, Inhabited

namespace Value

/-- The exact size of a number or truth value. -/
def quantity? : Value → Option Quantity
  | .bool b => some (.ofInt (if b then 1 else 0))
  | .int n => some (.ofInt n)
  | .float x => some x.quantity
  | _ => none

def sameScalar (v w : Value) : Bool :=
  match v.quantity?, w.quantity? with
  | some p, some q => p.equal q
  | none, none =>
      match v, w with
      | .null, .null => true
      | .text s, .text t => s == t
      | .date d, .date e => d = e
      | .moment m, .moment n => m.same n
      | _, _ => false
  | _, _ => false

mutual

def same : Value → Value → Bool
  | .list items, w => (match w with | .list others => sameItems items others | _ => false)
  | .map entries, w =>
      (match w with
        | .map others => entries.length == others.length && sameEntries entries others
        | _ => false)
  | .combobox label value, w =>
      (match w with
        | .combobox label' value' => same label label' && same value value'
        | _ => false)
  | v, w => sameScalar v w

def sameItems : List Value → List Value → Bool
  | [], others => others.isEmpty
  | v :: rest, others =>
      (match others with
        | [] => false
        | w :: others => same v w && sameItems rest others)

/-- Every entry has an equal one among the others. -/
def sameEntries : List (Value × Value) → List (Value × Value) → Bool
  | [], _ => true
  | (k, v) :: rest, others =>
      others.any (fun entry => same k entry.1 && same v entry.2) && sameEntries rest others

end

instance : BEq Value := ⟨same⟩

/-- What counts as true where a truth value is asked for. -/
def truthy : Value → Bool
  | .null => false
  | .bool b => b
  | .int n => n != 0
  | .float x => !x.isZero
  | .text s => !s.isEmpty
  | .list items => !items.isEmpty
  | .map entries => !entries.isEmpty
  | .date _ => true
  | .moment _ => true
  | .combobox _ _ => true

/-- Can the value be a key? Lists and maps cannot, nor what holds one. -/
def isKey : Value → Bool
  | .list _ => false
  | .map _ => false
  | .combobox label value => isKey label && isKey value
  | _ => true

/-- The name of a value's kind, as messages give it. -/
def kindName : Value → String
  | .null => "NoneType"
  | .bool _ => "bool"
  | .int _ => "int"
  | .float _ => "float"
  | .text _ => "str"
  | .list _ => "list"
  | .map _ => "dict"
  | .date _ => "date"
  | .moment _ => "datetime"
  | .combobox _ _ => "ComboboxAnswer"

def isNull : Value → Bool
  | .null => true
  | _ => false

def isText : Value → Bool
  | .text _ => true
  | _ => false

def text? : Value → Option String
  | .text s => some s
  | _ => none

def field? (key : String) (entries : List (Value × Value)) : Option Value :=
  Table.get? (entries : Table Value Value) (.text key)

theorem same_text (v : Value) (s : String) : (v == .text s) = true ↔ v = .text s := by
  cases v <;>
    simp [BEq.beq, same, sameScalar, quantity?]

theorem text_same (s : String) (v : Value) : (Value.text s == v) = true ↔ v = .text s := by
  cases v <;>
    simp [BEq.beq, same, sameScalar, quantity?]
  exact eq_comm

end Value

end Questionnaire
