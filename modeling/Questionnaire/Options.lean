import Questionnaire.Failure
import Questionnaire.Table
import Questionnaire.Value.Order

/-!
# Options

How a compilation treats errors, conditions and dates. Options come from a document; a
switch is on if its value counts as true.
-/

namespace Questionnaire

/-- The day that a compilation takes as today: a date, or a moment of that day. -/
inductive ReferenceDate where
  | date (d : Date)
  | moment (m : Moment)
  deriving DecidableEq, Repr

namespace ReferenceDate

def day : ReferenceDate → Date
  | .date d => d
  | .moment m => m.date

def toValue : ReferenceDate → Value
  | .date d => .date d
  | .moment m => .moment m

end ReferenceDate

structure Options where
  /-- Skip answers without a value silently. -/
  allowUndefined : Value := .bool true
  /-- Stop at the first build error. -/
  throwOnError : Value := .bool false
  logWarnings : Value := .bool true
  referenceDate : Option ReferenceDate := none
  /-- Malformed conditions fail. -/
  strictConditions : Value := .bool false
  /-- Give everyone of the same age the same birth date. -/
  standardizeBirthDate : Value := .bool false
  /-- Build a permissive request after errors. -/
  fallback : Value := .bool true

namespace Options

def names : List String :=
  ["allow_undefined_values", "throw_on_error", "log_warnings", "reference_date",
    "strict_conditions", "standardize_birth_date", "fallback_to_legacy"]

/-- The reference date, or today. -/
def day (o : Options) (today : Date) : Date :=
  (o.referenceDate.map ReferenceDate.day).getD today

/-- The distinct values of a list, where all of them can be keys. -/
def distinct? (values : List Value) : Option (List Value) :=
  if values.all Value.isKey then
    some (values.foldl (fun seen v => if seen.any (· == v) then seen else seen ++ [v]) [])
  else none

/-- The distinct keys that a document has, or elements, or characters. -/
def keysOf : Value → Except Failure (List Value)
  | .map entries => .ok (entries.map Prod.fst)
  | .list items =>
      match distinct? items with
      | some values => .ok values
      | none => .error (.misuse .kind)
  | .text s => .ok ((distinct? (s.toList.map fun c => .text (String.singleton c))).getD [])
  | _ => .error (.misuse .kind)

/-- The keys that are not among the known names, in increasing order. -/
def unknownKeys (known : List String) (keys : List Value) : Except Failure (List Value) :=
  let unknown := keys.filter fun key => !known.any fun name => key == .text name
  match Value.sortOn? id unknown with
  | some sorted => .ok sorted
  | none => .error (.misuse .kind)

def readReference : Option Value → Except Failure (Option ReferenceDate)
  | none => .ok none
  | some .null => .ok none
  | some (.date d) => .ok (some (.date d))
  | some (.moment m) => .ok (some (.moment m))
  | some (.text s) =>
      match Date.ofIso s with
      | .ok d => .ok (some (.date d))
      | .error _ => .error (.options (.notIsoDate (.text s)))
  | some v => .error (.options (.notDate v))

/-- The options of a document. What counts as false sets none; names other than those of
options are refused. -/
def ofValue (document : Value) : Except Failure Options :=
  if !document.truthy then .ok {}
  else do
    let keys ← keysOf document
    let unknown ← unknownKeys names keys
    if !unknown.isEmpty then .error (.options (.unknownNames unknown))
    else
      match document with
      | .map entries => do
          let get (name : String) (value : Value) : Value :=
            (Table.get? (entries : Table Value Value) (.text name)).getD value
          let reference ← readReference (Table.get? (entries : Table Value Value)
            (.text "reference_date"))
          return {
            allowUndefined := get "allow_undefined_values" (.bool true)
            throwOnError := get "throw_on_error" (.bool false)
            logWarnings := get "log_warnings" (.bool true)
            referenceDate := reference
            strictConditions := get "strict_conditions" (.bool false)
            standardizeBirthDate := get "standardize_birth_date" (.bool false)
            fallback := get "fallback_to_legacy" (.bool true) }
      | _ => .error (.misuse (.content "not a list of pairs"))

end Options

end Questionnaire
