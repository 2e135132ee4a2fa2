import Questionnaire.Value.Identity

/-!
# Questions

A question of a survey: what may be answered, and under which conditions it is asked.
-/

namespace Questionnaire

/-- The kinds of questions. A question built by hand can name another one, which nothing is
known of. -/
inductive QuestionType where
  | radio
  | checkbox
  | number
  | date
  | combobox
  | boolean
  | other (name : Value)
  deriving DecidableEq

namespace QuestionType

def named : List QuestionType := [.radio, .checkbox, .number, .date, .combobox, .boolean]

def toValue : QuestionType → Value
  | .radio => .text "radio"
  | .checkbox => .text "checkbox"
  | .number => .text "number"
  | .date => .text "date"
  | .combobox => .text "combobox"
  | .boolean => .text "boolean"
  | .other name => name

def ofValue? (v : Value) : Option QuestionType := named.find? fun type => v == type.toValue

/-- Is an answer chosen among listed ids? -/
def hasChoices : QuestionType → Bool
  | .radio => true
  | .checkbox => true
  | _ => false

end QuestionType

/-- A choice of a question. An exclusive one cannot be combined with others. -/
structure Choice where
  id : String
  title : Value := .text ""
  exclusive : Bool := false
  deriving DecidableEq

/-- When a question is asked: always, under one condition, or under all conditions of a list. -/
inductive Visibility where
  | always
  | condition (expression : String)
  | conditions (expressions : List Value)
  deriving DecidableEq

namespace Visibility

/-- The conditions that all have to hold. -/
def toList : Visibility → List Value
  | .always => []
  | .condition expression => [.text expression]
  | .conditions expressions => expressions

def toValue : Visibility → Value
  | .always => .null
  | .condition expression => .text expression
  | .conditions expressions => .list expressions

def ofValue? : Value → Option Visibility
  | .null => some .always
  | .text expression => some (.condition expression)
  | .list expressions => some (.conditions expressions)
  | _ => none

theorem ofValue?_toValue (v : Visibility) :
    ofValue? v.toValue = some v := by cases v <;> rfl

end Visibility

/-- A question. `null` stands for a bound, description or default that is not given. -/
structure Question where
  id : Value
  title : Value
  type : QuestionType
  required : Value := .bool true
  visibility : Visibility := .always
  choices : List Choice := []
  min : Value := .null
  max : Value := .null
  description : Value := .null
  default : Value := .null
  deriving DecidableEq

namespace Question

def choiceIds (q : Question) : List String := q.choices.map (·.id)

def find? (questions : List Question) (id : Value) : Option Question :=
  questions.find? fun q => q.id == id

end Question

end Questionnaire
