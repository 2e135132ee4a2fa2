import Questionnaire.Failure
import Questionnaire.Table

/-!
# Birth dates in requests

People of the same age can have the same request: every birth date in it is moved to the 1
January that gives the same age. Texts that are no dates stay.
-/

namespace Questionnaire.BirthDate

/-- The 1 January of someone of the same age. -/
def rounded (today birth : Date) : String :=
  Text.padded 4 (today.year - birth.age today).toNat ++ "-01-01"

/-- A birth date rounded; anything else as it is. -/
def roundValue (today : Date) : Value → Value
  | .text s =>
      match Date.ofIso s with
      | .ok birth => .text (rounded today birth)
      | .error _ => .text s
  | v => v

def roundPeriods (today : Date) : Value → Value
  | .map cells => .map (cells.map fun (period, value) => (period, roundValue today value))
  | v => v

def roundIndividual (today : Date) : Value → Except Failure Value
  | .map entries =>
      .ok (.map (entries.map fun (name, value) =>
        (name, if name == .text "date_naissance" then roundPeriods today value else value)))
  | _ => .error (.misuse .operation)

def standardize (today : Date) : Value → Except Failure Value
  | .map kinds => do
      let kinds ← kinds.mapM fun (kind, content) =>
        if kind == .text "individus" then
          match content with
          | .map individuals => do
              let individuals ← individuals.mapM fun (id, individual) => do
                return (id, ← roundIndividual today individual)
              return (kind, Value.map individuals)
          | _ => .error (.misuse .operation)
        else .ok (kind, content)
      return .map kinds
  | _ => .error (.misuse .operation)

end Questionnaire.BirthDate
