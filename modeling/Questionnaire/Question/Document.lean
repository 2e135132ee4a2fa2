import Questionnaire.Options
import Questionnaire.Question.Basic
import Questionnaire.Text.Split

/-!
# Questions in documents

A document holds a list of questions, by itself, under `questions`, or in parts under
`steps`. Entries that no question has are passed over with a warning.
-/

namespace Questionnaire

namespace Value

/-- Does a map have the key, a list the element, or a text the part? -/
def holds? (key : String) : Value → Except Failure Bool
  | .map entries => .ok (field? key entries).isSome
  | .list items => .ok (items.any (· == .text key))
  | .text s => .ok (Text.occursIn key.toList s.toList)
  | _ => .error (.misuse .kind)

/-- What is found by going through a value: elements, keys or characters. -/
def elements : Value → Except Failure (List Value)
  | .list items => .ok items
  | .map entries => .ok (entries.map Prod.fst)
  | .text s => .ok (s.toList.map fun c => .text (String.singleton c))
  | _ => .error (.misuse .kind)

/-- The elements of an optional value; what counts as false has none. -/
def elementsOf : Option Value → Except Failure (List Value)
  | none => .ok []
  | some v => if v.truthy then v.elements else .ok []

end Value

namespace Choice

/-- A choice: a text is its own title. -/
def ofValue : Value → Except Failure Choice
  | .text s => .ok { id := s, title := .text s }
  | v => do
      if ← v.holds? "id" then
        match v with
        | .map entries =>
            return {
              id := ((Value.field? "id" entries).getD .null).display
              title := (Value.field? "title" entries).getD (.text "")
              exclusive := ((Value.field? "exclusive" entries).getD (.bool false)).truthy }
        | _ => .error (.misuse .kind)
      else .error (.question (.choiceWithoutId v))

def toValue (c : Choice) : Value :=
  .map [(.text "id", .text c.id), (.text "title", c.title),
    (.text "exclusive", .bool c.exclusive)]

end Choice

namespace Question

/-- The entries that a question may have; not all of them are read. -/
def knownKeys : List String :=
  ["id", "title", "type", "required", "visibleWhen", "visible_when", "choices", "min",
    "max", "step",
    "description", "placeholder", "default", "tooltip", "notion", "autocompleteFunction",
    "autocompleteConfig"]

/-- A question that has been read, and what is said about entries that were passed over. -/
structure Reading where
  question : Question
  warnings : List String

def unknownWarning (id : Value) (unknown : List Value) : List String :=
  if unknown.isEmpty then []
  else ["Ignoring unknown keys for question '" ++ id.display ++ "': " ++
    (Value.list unknown).inspect]

/-- A question from its entries, once it is known to have an id. -/
def ofEntries (entries : List (Value × Value)) : Except Failure Reading := do
  let get (name : String) : Option Value := Value.field? name entries
  let id := (get "id").getD .null
  let named := (get "type").getD .null
  match QuestionType.ofValue? named with
  | none => .error (.question (.unknownType id named))
  | some type => do
      let unknown ← Options.unknownKeys knownKeys (entries.map Prod.fst)
      let choices ← (← Value.elementsOf (get "choices")).mapM Choice.ofValue
      if type.hasChoices && choices.isEmpty then
        .error (.question (.withoutChoices id type.toValue.display))
      else
        match Visibility.ofValue? ((get "visibleWhen").getD
          ((get "visible_when").getD .null)) with
        | none => .error (.question (.visibility id))
        | some visibility =>
            return {
              question := {
                id := id
                title := (get "title").getD (.text "")
                type := type
                required := (get "required").getD (.bool true)
                visibility := visibility
                choices := choices
                min := (get "min").getD .null
                max := (get "max").getD .null
                description := (get "description").getD .null
                default := (get "default").getD .null }
              warnings := unknownWarning id unknown }

def ofValue (v : Value) : Except Failure Reading := do
  if ← v.holds? "id" then
    match v with
    | .map entries => ofEntries entries
    | _ => .error (.misuse .kind)
  else .error (.question (.withoutId v))

/-- An entry that is written only if it is given. -/
def optionalEntry (name : String) (v : Value) : List (Value × Value) :=
  if v.isNull then [] else [(.text name, v)]

def toValue (q : Question) : Value :=
  .map ([(.text "id", q.id), (.text "title", q.title), (.text "type", q.type.toValue),
      (.text "required", q.required)]
    ++ optionalEntry "visibleWhen" q.visibility.toValue
    ++ (if q.choices.isEmpty then []
      else [(.text "choices", .list (q.choices.map Choice.toValue))])
    ++ optionalEntry "min" q.min ++ optionalEntry "max" q.max
    ++ optionalEntry "description" q.description ++ optionalEntry "default" q.default)

structure ListReading where
  questions : List Question
  warnings : List String

def ofStep : Value → Except Failure (List Value)
  | .map entries => Value.elementsOf (Value.field? "questions" entries)
  | _ => .error (.misuse .operation)

def descriptions : Value → Except Failure (List Value)
  | .list items => .ok items
  | .map entries =>
      match Value.field? "steps" entries with
      | some steps => do return (← (← Value.elementsOf (some steps)).mapM ofStep).flatten
      | none =>
          match Value.field? "questions" entries with
          | some questions => Value.elementsOf (some questions)
          | none => .error (.question .shape)
  | _ => .error (.question .shape)

def ofDocument (document : Value) : Except Failure ListReading := do
  let readings ← (← descriptions document).mapM ofValue
  return {
    questions := readings.map (·.question)
    warnings := readings.flatMap (·.warnings) }

def toDocument (questions : List Question) : Value :=
  .map [(.text "questions", .list (questions.map toValue))]

end Question

end Questionnaire
