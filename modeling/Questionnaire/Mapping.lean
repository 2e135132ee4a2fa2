import Questionnaire.Dispatcher

/-!
# Mappings

What an answer means to the engine: the value of one variable, the work of a dispatcher, or
nothing at all. A table built by hand can also hold things that are no mapping.
-/

namespace Questionnaire

inductive Mapping where
  | direct (name : Value) (period : PeriodType)
  | dispatch (dispatcher : Dispatcher) (period : PeriodType)
  | excluded
  | other

namespace Mapping

def isExcluded : Mapping → Bool
  | .excluded => true
  | _ => false

/-- The period type of an entry; a month if it names none. -/
def readPeriod (key : Value) (entries : List (Value × Value)) : Except Failure PeriodType :=
  let named := (Value.field? "period" entries).getD (.text "MONTH")
  match PeriodType.read named with
  | .ok type => .ok type
  | .error _ => .error (.registry (.entryPeriod key named))

def ofValue (dispatchers : List Dispatcher) (key entry : Value) : Except Failure Mapping :=
  match entry with
  | .map entries =>
      match Value.field? "exclude" entries with
      | some (.bool true) => .ok .excluded
      | _ => do
          let period ← readPeriod key entries
          match Value.field? "variable" entries, Value.field? "dispatch" entries with
          | some name, _ => return .direct name period
          | none, some name =>
              if !name.isKey then .error (.misuse .kind)
              else
                match dispatchers.find? fun d => name == .text d.name with
                | some dispatcher => return .dispatch dispatcher period
                | none => .error (.registry (.unknownDispatcher key name))
          | none, none => .error (.registry (.entryEmpty key entry))
  | _ => .error (.registry (.entryNotMap key entry))

end Mapping

end Questionnaire
