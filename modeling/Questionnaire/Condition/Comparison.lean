import Questionnaire.Condition.Literal
import Questionnaire.Failure

/-!
# Comparisons

An answer is compared with a literal. Two texts are compared as texts; once a number or a
truth value takes part, both sides are read as numbers. Order is always that of numbers.
-/

namespace Questionnaire.Condition

/-- What a list or a structured value is compared as. -/
def primitive : Value → Value
  | .list items =>
      .text (Text.joinWith "," (items.map fun item => if item.isNull then ""
        else item.display))
  | .map _ => .text "[object Object]"
  | .combobox _ _ => .text "[object Object]"
  | v => v

/-- The number that a value is compared as. A whole number can be too large for it. -/
def toNumber (v : Value) : Except Failure Binary64 :=
  match primitive v with
  | .bool b => .ok ((Binary64.ofInt? (if b then 1 else 0)).getD .nan)
  | .int n =>
      match Binary64.ofInt? n with
      | some x => .ok x
      | none => .error (.misuse .size)
  | .float x => .ok x
  | .text s => .ok (readNumber s.toList)
  | _ => .ok .nan

/-- A text read as a number, other values as they are. -/
def numeric : Value → Value
  | .text s => .float (readNumber s.toList)
  | v => v

/-- Equality with conversions: texts among themselves are compared as texts. -/
def looselyEqual (left right : Value) : Bool :=
  match primitive left, primitive right with
  | .text s, .text t => s == t
  | v, w => numeric v == numeric w

inductive Relation where
  | atLeast
  | atMost
  | unequal
  | above
  | below
  | equal
  deriving DecidableEq, Repr

namespace Relation

def all : List Relation := [.atLeast, .atMost, .unequal, .above, .below, .equal]

def symbol : Relation → String
  | .atLeast => ">="
  | .atMost => "<="
  | .unequal => "!="
  | .above => ">"
  | .below => "<"
  | .equal => "="

def ofSymbol? (s : String) : Option Relation := all.find? (·.symbol == s)

def ofNumbers (r : Relation) (x y : Binary64) : Bool :=
  match r with
  | .atLeast => y.quantity.atMost x.quantity
  | .atMost => x.quantity.atMost y.quantity
  | .unequal => !x.equal y
  | .above => y.quantity.less x.quantity
  | .below => x.quantity.less y.quantity
  | .equal => x.equal y

/-- Does the relation hold between an answer and a literal? -/
def holds (r : Relation) (left right : Value) : Except Failure Bool :=
  match r with
  | .equal => .ok (looselyEqual left right)
  | .unequal => .ok (!looselyEqual left right)
  | _ => do
      let x ← toNumber left
      let y ← toNumber right
      return r.ofNumbers x y

end Relation

/-- Compare an answer with a literal by the relation of a symbol. -/
def compareBy (symbol : String) (left right : Value) : Except Failure Bool :=
  match Relation.ofSymbol? symbol with
  | some r => r.holds left right
  | none => .error (.condition (.unknownOperator symbol))

end Questionnaire.Condition
