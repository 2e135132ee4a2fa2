import Questionnaire.Decimal.Reading
import Questionnaire.Failure
import Questionnaire.Question.Basic
import Questionnaire.Text.Split

/-!
# Validating answers

An answer is checked against its question. A missing answer is an error only if the question
requires one; what is answered has to fit the kind of the question.
-/

namespace Questionnaire

inductive ValidationCode where
  | required
  | invalidType
  | invalidChoice
  | exclusiveChoice
  | belowMin
  | aboveMax
  | invalidDate
  deriving DecidableEq, Repr

namespace ValidationCode

def name : ValidationCode → String
  | .required => "REQUIRED"
  | .invalidType => "INVALID_TYPE"
  | .invalidChoice => "INVALID_CHOICE"
  | .exclusiveChoice => "EXCLUSIVE_CHOICE"
  | .belowMin => "MIN_VALUE"
  | .aboveMax => "MAX_VALUE"
  | .invalidDate => "INVALID_DATE"

end ValidationCode

structure ValidationError where
  field : Value
  code : ValidationCode
  message : String
  context : Table String Value := []
  deriving DecidableEq

namespace ValidationError

/-- An error as a document shows it; an empty context is left out. -/
def toValue (e : ValidationError) : Value :=
  .map ([(.text "field", e.field), (.text "code", .text e.code.name),
    (.text "message", .text e.message)]
    ++ (if e.context.isEmpty then []
      else [(.text "context", .map (e.context.map fun (name, v) => (.text name, v)))]))

end ValidationError

/-- A check of one's own, in the place of the usual ones. -/
abbrev CustomCheck : Type := Question → Value → List ValidationError

namespace Value

/-- `null`, the empty text and the empty list are no answer. -/
def isAnswer : Value → Bool
  | .null => false
  | .text s => !s.isEmpty
  | .list items => !items.isEmpty
  | _ => true

/-- The number that an answer gives, if it does. Truth values are no numbers here. -/
def entered? : Value → Except Failure (Option Binary64)
  | .int n => (Binary64.ofInt? n).elim (.error (.misuse .size)) fun x => .ok (some x)
  | .float x => .ok (if x = .nan then none else some x)
  | .text s => .ok ((Decimal.readEntered? s.toList).filter fun x => x ≠ .nan)
  | _ => .ok none

end Value

namespace Question

/-- An error about the question, which is called by its title or else by its id. -/
def error (q : Question) (code : ValidationCode) (text : String)
    (context : Table String Value) : ValidationError where
  field := q.id
  code := code
  message := (if q.title.truthy then q.title else q.id).display ++ " " ++ text
  context := context

def idList (ids : List String) : Value := .list (ids.map .text)

def checkRadio (q : Question) (answer : Value) : List ValidationError :=
  match answer with
  | .text s =>
      if q.choices.isEmpty || q.choiceIds.contains s then []
      else
        [q.error .invalidChoice ("must be one of: " ++ Text.joinWith ", " q.choiceIds)
          [("valid_choices", idList q.choiceIds), ("provided", answer)]]
  | _ => [q.error .invalidType "must be a string" []]

def isChoice (q : Question) (v : Value) : Bool := q.choiceIds.any fun id => v == .text id

def exclusiveIn (q : Question) (selected : List Value) : List String :=
  (q.choices.filter fun c => c.exclusive && selected.any (· == .text c.id)).map (·.id)

def checkCheckbox (q : Question) (answer : Value) : List ValidationError :=
  match answer with
  | .list selected =>
      let invalid := if q.choices.isEmpty then [] else selected.filter fun v =>
        !q.isChoice v
      if !invalid.isEmpty then
        [q.error .invalidChoice
          ("contains invalid choices: " ++ Text.joinWith ", " (invalid.map Value.display))
          [("valid_choices", idList q.choiceIds), ("invalid_choices", .list invalid)]]
      else
        let exclusive := q.exclusiveIn selected
        if !exclusive.isEmpty && 1 < selected.length then
          [q.error .exclusiveChoice ("cannot combine " ++ Text.joinWith ", " exclusive ++
            " with other choices")
            [("exclusive_choices", idList exclusive), ("provided", answer)]]
        else []
  | _ => [q.error .invalidType "must be a list" []]

/-- Does a number go beyond a bound, in the given direction? Without a bound it does not. -/
def exceeds (beyond : Quantity → Quantity → Bool) (x : Binary64) (bound : Value) :
    Except Failure Bool :=
  if bound.isNull then .ok false
  else
    match bound.quantity? with
    | some q => .ok (beyond x.quantity q)
    | none => .error (.misuse .kind)

def checkNumber (q : Question) (answer : Value) :
    Except Failure (List ValidationError) := do
  match ← answer.entered? with
  | none => return [q.error .invalidType "must be a number" []]
  | some x =>
      let low ← exceeds (fun a b => a.less b) x q.min
      let high ← exceeds (fun a b => b.less a) x q.max
      return (if low then [q.error .belowMin ("must be at least " ++ q.min.display)
          [("min", q.min), ("provided", .float x)]] else [])
        ++ (if high then [q.error .aboveMax ("must be at most " ++ q.max.display)
          [("max", q.max), ("provided", .float x)]] else [])

/-- Digits in groups of the given sizes with a mark between them; a line break may follow. -/
def isGrouped (mark : Char) (sizes : List Nat) (text : List Char) : Bool :=
  let text := if text.getLast? = some '\n' then text.dropLast else text
  let groups := Text.splitOn [mark] text
  groups.map List.length == sizes && groups.all fun group => group.all Text.isDecimal

/-- Year, month and day with dashes, or day, month and year with slashes. -/
def isDateForm (s : String) : Bool :=
  isGrouped '-' [4, 2, 2] s.toList || isGrouped '/' [2, 2, 4] s.toList

def checkDate (q : Question) (answer : Value) : List ValidationError :=
  match answer with
  | .date _ => []
  | .moment _ => []
  | .text s => if isDateForm s then [] else [q.error .invalidDate "must be a valid date" []]
  | _ => [q.error .invalidType "must be a string" []]

def checkCombobox (q : Question) (answer : Value) : List ValidationError :=
  let fits := match answer with
    | .text _ => true
    | .combobox _ _ => true
    | .map entries =>
        (Value.field? "text" entries).isSome && (Value.field? "value" entries).isSome
    | _ => false
  if fits then []
    else [q.error .invalidType "must be a string or a \x7btext, value\x7d selection" []]

def checkBoolean (q : Question) (answer : Value) : List ValidationError :=
  match answer with
  | .bool _ => []
  | _ => [q.error .invalidType "must be a boolean" []]

/-- The check of an answer by the kind of its question. -/
def checkKind (q : Question) (answer : Value) : Except Failure (List ValidationError) :=
  match q.type with
  | .radio => .ok (q.checkRadio answer)
  | .checkbox => .ok (q.checkCheckbox answer)
  | .number => q.checkNumber answer
  | .date => .ok (q.checkDate answer)
  | .combobox => .ok (q.checkCombobox answer)
  | .boolean => .ok (q.checkBoolean answer)
  | .other _ => .ok []

/-- The errors of one answer. A custom check of the question replaces all others. -/
def check (custom : Table String CustomCheck) (q : Question) (answer : Value) :
    Except Failure (List ValidationError) :=
  if !q.id.isKey then .error (.misuse .kind)
  else
    match custom.find? fun entry => q.id == .text entry.1 with
    | some (_, custom) => .ok (custom q answer)
    | none =>
        if answer.isAnswer then q.checkKind answer
        else .ok (if q.required.truthy then [q.error .required "is required" []] else [])

/-- The answer to a question; `null` if there is none. -/
def answerIn (q : Question) (answers : Table String Value) : Value :=
  match q.id with
  | .text id => (Table.get? answers id).getD .null
  | _ => .null

/-- The errors of all answers, in the order of the questions. -/
def checkAll (custom : Table String CustomCheck) (questions : List Question)
    (answers : Table String Value) : Except Failure (List ValidationError) := do
  return (← questions.mapM fun q => q.check custom (q.answerIn answers)).flatten

end Question

end Questionnaire
