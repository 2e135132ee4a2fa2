import Questionnaire.Decimal.Reading
import Questionnaire.Text.Blank
import Questionnaire.Text.Split
import Questionnaire.Value.Basic

/-!
# Literals of conditions

The right side of a comparison is a number, a truth value or a text. Quotes around it are
dropped first, so that `"18"` and `18` are the same literal.
-/

namespace Questionnaire.Condition

/-- Single and double quotes are alike. -/
def isQuote (c : Char) : Bool := c = '"' || c = '\''

/-- The text between a quote at the start and one at the end, unless there is nothing or a
line break between them. -/
def unquoteLine (text : List Char) : List Char :=
  match text with
  | [] => text
  | first :: rest =>
      let middle := rest.dropLast
      if isQuote first && rest.getLast?.any isQuote && !middle.isEmpty &&
        !middle.contains '\n' then middle
      else text

/-- Drop the quotes around a text; a line break behind the closing quote stays. -/
def unquote (text : List Char) : List Char :=
  if text.getLast? = some '\n' then unquoteLine text.dropLast ++ ['\n']
    else unquoteLine text

/-- The number that a text denotes: zero if it is blank, and no number if it is none. -/
def readNumber (text : List Char) : Binary64 :=
  let text := Text.trim text
  if text.isEmpty then .zero
  else
    match Decimal.read? text with
    | some x => x
    | none =>
        if text = "Infinity".toList || text = "+Infinity".toList then .infinite false
        else if text = "-Infinity".toList then .infinite true
        else .nan

/-- A literal. Whole numbers are exact; `true` and `false` are truth values. -/
def readLiteral (text : List Char) : Value :=
  let bare := unquote text
  match readNumber bare with
  | .nan =>
      if bare = "true".toList then .bool true
      else if bare = "false".toList then .bool false
      else .text (String.ofList bare)
  | x =>
      match x.toInt? with
      | some n => .int n
      | none => .float x

def readArguments (text : List Char) : List String :=
  (Text.splitOn [','] text).map fun piece => String.ofList (unquote (Text.trim piece))

example : readLiteral "'18'".toList = .int 18 := by rfl
example : readArguments "\"a\", 'b', c".toList = ["a", "b", "c"] := by decide +kernel

end Questionnaire.Condition
