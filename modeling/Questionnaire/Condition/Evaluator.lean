import Questionnaire.Answer
import Questionnaire.Condition.Comparison

/-!
# Visibility conditions

A condition is a text: alternatives between `||`, each of them parts between `&&`, each of
these a membership test `key.includes(ids)`, its complement `key.excludes(ids)`, or a
comparison. There are no brackets. A condition that cannot be read is false, unless the
evaluator is strict; then it fails.
-/

namespace Questionnaire.Condition

/-- A comparison of one's own: whether it holds between an answer and a literal, or why it
failed. -/
structure CustomOperator where
  symbol : String
  apply : Value → Value → Except String Bool

/-- How conditions are evaluated. The symbols of the custom operators are distinct. -/
structure Evaluator where
  strict : Bool := false
  custom : List CustomOperator := []

namespace Evaluator

/-- The symbols of an evaluator, longer ones first, so that none hides behind a part of itself. -/
def symbols (ev : Evaluator) : List String :=
  let builtin := Relation.all.map Relation.symbol
  let added := (ev.custom.map (·.symbol)).filter fun s => !builtin.contains s
  (builtin ++ added).mergeSort fun s t => t.length ≤ s.length

def custom? (ev : Evaluator) (symbol : String) : Option CustomOperator :=
  ev.custom.find? (·.symbol == symbol)

end Evaluator

/-- The argument between an opened bracket and the bracket that ends the text. -/
def argument? (text : List Char) : Option (List Char) :=
  if text.getLast? = some ')' && !text.dropLast.isEmpty then some text.dropLast else none

/-- Cut `key mark argument )` at the last place where neither key nor argument is empty. -/
def callParts? (mark : List Char) : List Char → Option (List Char × List Char)
  | [] => none
  | c :: text =>
      match callParts? mark text with
      | some (key, argument) => some (c :: key, argument)
      | none =>
          if mark.isPrefixOf text then
            (argument? (text.drop mark.length)).map fun argument => ([c], argument)
          else none

/-- Is one of the ids selected: is it the answer, or an element of it? -/
def selects (ids : List String) : Option Value → Bool
  | some (.text s) => !s.isEmpty && ids.contains s
  | some (.list items) => ids.any fun id => items.any fun item => item == .text id
  | _ => false

/-- A membership test: the answer for its key, and its ids. -/
def readMembership? (mark : String) (text : List Char) : Option (String × List String) :=
  if text.contains '\n' then none
  else
    (callParts? mark.toList text).map fun (key, argument) =>
      (String.ofList (Text.trim key), readArguments argument)

def includesMark : String := ".includes("

def excludesMark : String := ".excludes("

/-- Cut a comparison in two: at the first symbol that occurs in it exactly once. -/
def cutComparison (text : List Char) :
    List String → Except Failure (Option (String × List Char × List Char))
  | [] => .ok none
  | symbol :: rest =>
      if symbol.isEmpty then .error (.misuse (.content "empty separator"))
      else
        match Text.splitOn symbol.toList text with
        | [left, right] => .ok (some (symbol, Text.trim left, Text.trim right))
        | _ => cutComparison text rest

namespace Evaluator

/-- Compare an answer with a literal by the operator of a symbol; custom ones come first. -/
def compare (ev : Evaluator) (expression : List Char) (symbol : String)
    (left right : Value) : Except Failure Bool :=
  match ev.custom? symbol with
  | some op =>
      match op.apply left right with
      | .ok b => .ok b
      | .error reason =>
          .error (.condition (.custom symbol (String.ofList expression) reason))
  | none => compareBy symbol left right

/-- A comparison is false if there is no answer. -/
def evaluateComparison (ev : Evaluator) (answers : Answers) (text : List Char) :
    Except Failure Bool := do
  match ← cutComparison text ev.symbols with
  | none => .error (.condition (.noOperator (String.ofList text)))
  | some (symbol, key, literal) =>
      match Table.get? answers (String.ofList key) with
      | none => return false
      | some .null => return false
      | some answer => ev.compare text symbol answer (readLiteral literal)

/-- A part that is neither cut by `||` nor by `&&`. -/
def evaluateAtom (ev : Evaluator) (answers : Answers) (text : List Char) :
    Except Failure Bool :=
  if Text.occursIn includesMark.toList text then
    match readMembership? includesMark text with
    | some (key, ids) => .ok (selects ids (Table.get? answers key))
    | none => .error (.condition (.includes (String.ofList text)))
  else if Text.occursIn excludesMark.toList text then
    match readMembership? excludesMark text with
    | some (key, ids) => .ok (!selects ids (Table.get? answers key))
    | none => .error (.condition (.excludes (String.ofList text)))
  else ev.evaluateComparison answers text

/-- All the parts between `&&` hold. The first one that does not ends the search. -/
def evaluateConjunction (ev : Evaluator) (answers : Answers) (text : List Char) :
    Except Failure Bool :=
  ((Text.splitOn ['&', '&'] text).map Text.trim).allM (ev.evaluateAtom answers)

/-- One of the alternatives between `||` holds. The first one that does ends the search. -/
def evaluateAlternatives (ev : Evaluator) (answers : Answers) (text : List Char) :
    Except Failure Bool :=
  ((Text.splitOn ['|', '|'] text).map Text.trim).anyM (ev.evaluateConjunction answers)

/-- A condition that cannot be read is false, unless the evaluator is strict. -/
def settle (ev : Evaluator) : Except Failure Bool → Except Failure Bool
  | .error (.condition fault) => if ev.strict then .error (.condition fault) else .ok false
  | result => result

/-- Does the condition hold for the answers? A blank one always does. -/
def evaluate (ev : Evaluator) (expression : String) (answers : Answers) :
    Except Failure Bool :=
  let text := Text.trim expression.toList
  if text.isEmpty then .ok true else ev.settle (ev.evaluateAlternatives answers text)

/-- A condition as a definition of questions gives it: what counts as false sets no
condition. -/
def evaluateValue (ev : Evaluator) (answers : Answers) : Value → Except Failure Bool
  | .text expression => ev.evaluate expression answers
  | v => if v.truthy then .error (.misuse .operation) else .ok true

end Evaluator

end Questionnaire.Condition
