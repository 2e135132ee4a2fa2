import Questionnaire.Registry.Basic
import Questionnaire.Visibility

/-!
# Surveys

A survey has questions, the answers to them and the probes: what the engine is asked for.
Before a compilation the answers to hidden questions are dropped, and selections are
expanded as far as the registry takes them for answers.
-/

namespace Questionnaire

structure Survey where
  questions : List Question
  answers : Answers
  probes : List String

namespace Registry

/-- The excluded keys that are texts; other keys never belong to an answer. -/
def excludedTexts (r : Registry) : List String := r.excludedKeys.filterMap Value.text?

end Registry

namespace Survey

def visibleAnswers (ev : Condition.Evaluator) (s : Survey) : Except Failure Answers :=
  s.answers.visible ev s.questions

/-- The answers as a compilation takes them. -/
def preparedAnswers (ev : Condition.Evaluator) (registry : Registry) (s : Survey) :
    Except Failure Answers := do
  (← s.visibleAnswers ev).expandCheckboxes s.questions registry.excludedTexts

end Survey

end Questionnaire
