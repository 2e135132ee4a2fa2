import Questionnaire.Value.Basic

/-!
# Answers

The answers of a survey, by the key of their question, in the order in which they were
given. A selection in a list with labels stands for its value, whether it comes as a
combobox or as a map with an entry `value`.
-/

namespace Questionnaire

abbrev Answers : Type := Table String Value

namespace Value

/-- The value that an answer stands for. -/
def unwrap : Value → Value
  | .combobox _ value => value
  | .map entries => (field? "value" entries).getD (.map entries)
  | v => v

def isUnanswered (v : Value) : Bool := v.isNull

/-- A text, a number or a truth value. -/
def isScalar : Value → Bool
  | .text _ => true
  | .int _ => true
  | .float _ => true
  | .bool _ => true
  | _ => false

end Value

end Questionnaire
