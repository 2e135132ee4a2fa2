import Questionnaire.Proofs.Reading

/-!
# What becomes of a write

A write to an entity is ignored, taken or refused. Which of them follows from the cell that
it is meant for, and what the entity is afterwards follows from that.
-/

namespace Questionnaire

theorem Value.eq_null_of_isNull {v : Value} (h : v.isNull = true) : v = .null := by
  cases v with
  | null => rfl
  | _ => cases h

namespace Entity

/-- What becomes of a write. -/
inductive Verdict where
  | ignored
  | taken
  | refused (error : BuildError)

/-- The error that a write returns. -/
def Verdict.error? : Verdict → Option BuildError
  | .refused error => some error
  | _ => none

/-- What becomes of a write to an entity. -/
def verdict (e : Entity) (name value : Value) (period answerKey : String) : Verdict :=
  if e.isMemberList name then .ignored
  else if (e.value name period).isNull then .taken
  else if value.isNull then .ignored
  else if e.refinements.accepts name (e.value name period) value then .taken
  else .refused (refusal name (e.value name period) value period answerKey)

/-- The verdict depends on the lists of members, the rules and the value of the cell. -/
theorem verdict_congr {e other : Entity} (members : other.members = e.members)
    (rules : other.refinements = e.refinements) {name : Value} {period : String}
    (held : other.value name period = e.value name period) (value : Value)
    (answerKey : String) :
    other.verdict name value period answerKey = e.verdict name value period answerKey := by
  have listed : other.isMemberList name = e.isMemberList name := by
    cases name <;> simp [isMemberList, members]
  simp only [verdict, listed, rules, held]

/-- The entity after a write. -/
def carry (e : Entity) (name value : Value) (period : String) : Verdict → Entity
  | .ignored => e
  | .taken => e.put name period value
  | .refused error => { e with errors := e.errors ++ [error] }

theorem call_write_eq {e : Entity} (total : e.refinements.Total) (name value : Value)
    (period answerKey : String) :
    e.call (.write name value period answerKey) =
      (e.carry name value period (e.verdict name value period answerKey),
        .ok (e.verdict name value period answerKey).error?) := by
  rcases write_cases total name value period answerKey with
    ⟨member, h⟩ | ⟨free, refused, h⟩ | ⟨free, accepted, taken, h⟩ | ⟨free, hold, null, h⟩
  · simp [call, h, verdict, member, carry, Verdict.error?]
  · simp only [Refinements.refuses, Bool.and_eq_true, Bool.not_eq_true'] at refused
    simp [call, h, verdict, free, refused, carry, Verdict.error?]
  · have taken : e.verdict name value period answerKey = .taken := by
      unfold verdict
      by_cases hold : (e.value name period).isNull = true
      · simp [free, hold]
      · by_cases null : value.isNull = true
        · -- a value that gives way to `null` would be `null` itself
          simp only [Refinements.settled, hold, null, Bool.false_eq_true, if_false,
            if_true] at taken
          rw [taken] at hold
          exact absurd null hold
        · simp only [Refinements.refuses, hold, null, Bool.not_false, Bool.true_and,
            Bool.not_eq_false'] at accepted
          simp [free, hold, null, accepted]
    simp [call, h, taken, carry, Verdict.error?]
  · simp [call, h, verdict, free, hold, null, carry, Verdict.error?]

/-- A cell after a value has been recorded. -/
theorem cell?_put (e : Entity) (written : Value) (at' : String) (v : Value) {name : Value}
    (hk : name.isKey = true) (period : String) :
    (e.put written at' v).cell? name period =
      if (written == name) = true ∧ at' = period then some v else e.cell? name period := by
  by_cases hn : (written == name) = true
  · have same : Table.get? e.values written = Table.get? e.values name :=
      Table.get?_congr _ hk hn
    simp only [cell?, put, Table.get?_put_key _ _ _ hk, hn, if_true, true_and,
      Option.bind_some, Table.get?_put_string, same]
    cases Table.get? e.values name <;> rfl
  · simp [cell?, put, Table.get?_put_key _ _ _ hk, hn]

end Entity

end Questionnaire
