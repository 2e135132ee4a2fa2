import Questionnaire.Condition.Evaluator
import Questionnaire.Question.Basic

/-!
# What is visible

A question is asked if all its conditions hold for the answers. Answers to hidden questions
are dropped and answers to checkboxes become one answer per choice.
-/

namespace Questionnaire

open Condition (Evaluator)

namespace Question

/-- Do all conditions of the question hold? The first one that does not ends the search. -/
def isVisible (ev : Evaluator) (answers : Answers) (q : Question) : Except Failure Bool :=
  q.visibility.toList.allM (ev.evaluateValue answers)

/-- An unknown question is never visible. -/
def isVisible? (ev : Evaluator) (answers : Answers) : Option Question → Except Failure Bool
  | none => .ok false
  | some q => q.isVisible ev answers

def visible (ev : Evaluator) (answers : Answers) (questions : List Question) :
    Except Failure (List Question) :=
  questions.filterM (isVisible ev answers)

/-- The questions by id. The last one with an id counts. -/
def byId (questions : List Question) : Except Failure (Table Value Question) :=
  if questions.all fun q =>
    q.id.isKey then .ok (Table.ofEntries (questions.map fun q => (q.id, q)))
  else .error (.misuse .kind)

end Question

namespace Answers

/-- The answers without those to hidden questions. All answers count for the conditions;
answers to no question of the list stay. -/
def visible (ev : Evaluator) (questions : List Question) (answers : Answers) :
    Except Failure Answers := do
  let index ← Question.byId questions
  List.filterM (fun (key, _) =>
    match Table.get? index (.text key) with
    | none => .ok true
    | some q => q.isVisible ev answers) answers

/-- One answer, or one for each choice if it is a selection of a checkbox. -/
def expandOne (index : Table Value Question) (keep : List String) (key : String)
    (answer : Value) : Answers :=
  match Table.get? index (.text key), answer with
  | some q, .list items =>
      if q.type = .checkbox && !keep.contains key then
        q.choiceIds.map fun id => (id, .bool (items.any (· == .text id)))
      else [(key, answer)]
  | _, _ => [(key, answer)]

/-- The answers with every selection of a checkbox turned into a truth value per choice,
except under the keys to keep. -/
def expandCheckboxes (questions : List Question) (keep : List String) (answers : Answers) :
    Except Failure Answers := do
  let index ← Question.byId questions
  return Table.ofEntries (answers.flatMap fun (key, answer) =>
    expandOne index keep key answer)

end Answers

end Questionnaire
