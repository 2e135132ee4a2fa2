import Questionnaire.Answer
import Questionnaire.Json.Printer
import Questionnaire.Json.Reader
import Questionnaire.Question.Document
import Questionnaire.Registry.Basic
import Questionnaire.Yaml.Document
import Questionnaire.Yaml.Printer

/-!
# Documents

Answers, questions, options, registries and requests as JSON and YAML. A document that
cannot be read at all is a fault of its kind; what it says is read as described where its
content is defined.
-/

namespace Questionnaire

def readJson (s : String) : Except Failure Value := (Json.read? s).elim (.error .json) .ok

/-- The value of a YAML document, where faults are told as the caller says. -/
def readYaml (repeats : Yaml.Repeats) (wrap : DocumentFault → Failure) (s : String) :
    Except Failure Value :=
  (Yaml.read repeats s).mapError (Yaml.Fault.failure wrap)

namespace Value

mutual

/-- A value with its dates, and those in lists, as texts. -/
def withoutDates : Value → Value
  | .date d => .text d.iso
  | .moment m => .text m.iso
  | .list items => .list (itemsWithoutDates items)
  | v => v

def itemsWithoutDates : List Value → List Value
  | [] => []
  | v :: rest => withoutDates v :: itemsWithoutDates rest

end

end Value

namespace Answers

/-- The answers of a document. Keys become texts. -/
def ofValue : Value → Except Failure Answers
  | .null => .ok []
  | .map entries =>
      .ok (Table.ofEntries (entries.map fun (key, v) => (key.display, v.withoutDates)))
  | v => .error (.answers (.notMap v.kindName))

def ofJson (s : String) : Except Failure Answers := readJson s >>= ofValue

def ofYaml (s : String) : Except Failure Answers :=
  readYaml .lastWins (fun fault => .answers (.document fault)) s >>= ofValue

end Answers

namespace Question

def ofJson (s : String) : Except Failure ListReading := readJson s >>= ofDocument

def ofYaml (s : String) : Except Failure ListReading :=
  readYaml .lastWins (fun fault => .question (.document fault)) s >>= ofDocument

/-- The questions as a YAML document, entries in the order of their description. -/
def toYaml (questions : List Question) : Except Failure String :=
  Yaml.print false (toDocument questions)

end Question

namespace Options

def ofYaml (path s : String) : Except Failure Options := do
  match ← readYaml .lastWins (fun fault => .options (.document path fault)) s with
  | .null => return {}
  | .map entries => ofValue (.map entries)
  | _ => .error (.options (.notMap path))

end Options

namespace Registry

/-- The registry of a file. Equal keys are refused. -/
def ofYaml (dispatchers : List Dispatcher) (s : String) : Except Failure Registry := do
  match ← readYaml .refused (fun fault => .registry (.document fault)) s with
  | .map entries => ofValue dispatchers (.map entries)
  | _ => .error (.registry .notMap)

end Registry

namespace Request

/-- A request as JSON on one line, entries sorted by key, with a limit on the digits of
whole numbers. -/
def toJson (request : Value) (digits : Nat := Digits.standard) : Except Failure String :=
  Json.print { sorted := true, digits := digits } request

def toIndentedJson (width : Nat) (request : Value) (digits : Nat := Digits.standard) :
    Except Failure String :=
  Json.print { sorted := true, indent := some width, digits := digits } request

def toYaml (request : Value) (digits : Nat := Digits.standard) : Except Failure String :=
  Yaml.print true request digits

def ofJson (s : String) : Except Failure Value := readJson s

end Request

namespace BuildError

def listToJson (errors : List BuildError) : Except Failure String :=
  Json.print {} (.list (errors.map toValue))

end BuildError

end Questionnaire
