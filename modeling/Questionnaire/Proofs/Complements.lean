import Questionnaire.Proofs.ConditionFailures

/-!
# Membership and its complement

`includes` and `excludes` take a call apart alike, so they look for the same ids in the same
answer, and one is the negation of the other. What stands between the brackets may be
anything without marks: quotes that do not match, ids that are empty, brackets, symbols of
comparisons.
-/

namespace Questionnaire.Condition

open Text

variable {key argument : List Char}

/-- Without the blanks before its key a call is still a call, and its key is read alike. -/
theorem ValidCall.exists_trim (h : ValidCall key argument) :
    ∃ rest, ValidCall rest argument ∧ trim rest = trim key ∧
      ∀ mark, trim (callText mark key argument) = callText mark rest argument := by
  obtain ⟨left, right, blankLeft, blankRight, same⟩ := Text.exists_trim key
  have tight : Tight (trim key) := tight_of_trim h.named (trim_trim key)
  have inside : trim key ++ right <:+: key :=
    ⟨left, [], by rw [List.append_nil, ← List.append_assoc, ← same]⟩
  have trimmed : trim (trim key ++ right) = trim key := by
    rw [trim_append_right blankRight, trim_trim]
  refine ⟨trim key ++ right, ⟨?_, ?_, ?_, h.filled, h.line', h.free'⟩, trimmed, ?_⟩
  · rw [trimmed]
    exact h.named
  · intro line
    exact h.line (inside.subset line)
  · intro mark known occurs
    exact h.free mark known (occurs.trans inside)
  · intro mark
    have starts : ∃ c rest, trim key ++ right = c :: rest ∧ isBlank c = false := by
      obtain ⟨c, rest, filled, solid⟩ := tight.starts
      exact ⟨c, rest ++ right, by rw [filled, List.cons_append], solid⟩
    have moved : callText mark key argument = left ++
        callText mark (trim key ++ right) argument := by
      conv_lhs => rw [same]
      simp only [callText, List.append_assoc]
    rw [moved, trim_append_left blankLeft,
      trim_of_tight (tight_callText mark starts argument)]

/-- A condition that is a call is evaluated as one. -/
theorem evaluate_callText (ev : Evaluator) (answers : Answers) {mark : String}
    (apart : ∀ sign ∈ [orSign, andSign], ∀ c ∈ mark.toList, c ∉ sign)
    (written : mark.toList ≠ []) (h : ValidCall key argument) {b : Bool}
    {expression : String} (same : expression.toList = callText mark key argument)
    (value : ∀ rest, ValidCall rest argument → trim rest = trim key →
      ev.evaluateAtom answers (callText mark rest argument) = .ok b) :
    ev.evaluate expression answers = .ok b := by
  obtain ⟨rest, valid, keyed, trimmed⟩ := h.exists_trim
  have free {sign : List Char} (known : sign ∈ marks) (inside : sign ∈ [orSign, andSign]) :
      ¬ sign <:+: callText mark rest argument :=
    not_infix_callText known (apart sign inside) written valid
  have filled : callText mark rest argument ≠ [] := by
    simp [callText]
  have one : alternatives expression = [callText mark rest argument] := by
    refine alternatives_of_not_infix ?_ filled (free (by decide) (by decide))
    rw [same, trimmed]
  have sole : parts (callText mark rest argument) = [callText mark rest argument] := by
    refine parts_of_not_infix ?_ (free (by decide) (by decide))
    rw [← trimmed, trim_trim]
  rw [evaluate_single ev answers one sole, value rest valid keyed]
  rfl

/-- A test and its complement never fail and never agree, whatever the evaluator and the
answers: the test holds exactly if one of the ids between the brackets is selected. -/
theorem evaluate_complement (ev : Evaluator) (answers : Answers) (key argument : String)
    (named : trim key.toList ≠ []) (line : '\n' ∉ key.toList) (free : Free key.toList)
    (filled : argument ≠ "") (line' : '\n' ∉ argument.toList)
    (free' : Free argument.toList) :
    ∃ b, ev.evaluate (key ++ ".includes(" ++ argument ++ ")") answers = .ok b ∧
      ev.evaluate (key ++ ".excludes(" ++ argument ++ ")") answers = .ok (!b) ∧
      (b = true ↔ Selected (readArguments argument.toList)
        (Table.get? answers (strip key))) := by
  have call : ValidCall key.toList argument.toList :=
    ⟨named, line, free, by simpa using filled, line', free'⟩
  have written (mark : String) :
      (key ++ mark ++ argument ++ ")").toList =
      callText mark key.toList argument.toList := by
    simp [callText]
  refine ⟨selects (readArguments argument.toList) (Table.get? answers (strip key)), ?_, ?_,
    selects_iff _ _⟩
  · refine evaluate_callText ev answers (by decide) (by decide) call
      (written includesMark) ?_
    intro rest valid keyed
    rw [evaluateAtom_includesCall ev answers valid, keyed, strip]
  · refine evaluate_callText ev answers (by decide) (by decide) call
      (written excludesMark) ?_
    intro rest valid keyed
    rw [evaluateAtom_excludesCall ev answers valid, keyed, strip]

/-- A key behind a blank. -/
def aidsKey : String := " mes aides"

/-- The quotes around the first id do not match, the second one is empty, and the last one
looks like a comparison with a bracket in it. -/
def aidsArgument : String := "\"apl', ,b)>=2"

def aidsAnswers : Answers := [("mes aides", .list [.null, .text "apl"])]

theorem evaluate_complement_aids :
    trim aidsKey.toList ≠ [] ∧ '\n' ∉ aidsKey.toList ∧ Free aidsKey.toList ∧
      aidsArgument ≠ "" ∧ '\n' ∉ aidsArgument.toList ∧ Free aidsArgument.toList ∧
      ∃ b, exactEvaluator.evaluate (aidsKey ++ ".includes(" ++ aidsArgument ++
        ")") aidsAnswers = .ok b ∧
        exactEvaluator.evaluate (aidsKey ++ ".excludes(" ++ aidsArgument ++
          ")") aidsAnswers = .ok (!b) ∧
        (b = true ↔ Selected (readArguments aidsArgument.toList)
          (Table.get? aidsAnswers (strip aidsKey))) := by
  have named : trim aidsKey.toList ≠ [] := by decide
  have line : '\n' ∉ aidsKey.toList := by decide
  have free : Free aidsKey.toList := by decide
  have filled : aidsArgument ≠ "" := by decide
  have line' : '\n' ∉ aidsArgument.toList := by decide
  have free' : Free aidsArgument.toList := by decide
  exact ⟨named, line, free, filled, line', free',
    evaluate_complement exactEvaluator aidsAnswers aidsKey aidsArgument named line free
      filled line' free'⟩

end Questionnaire.Condition
