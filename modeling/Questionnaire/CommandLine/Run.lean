import Questionnaire.CommandLine.Arguments
import Questionnaire.Compilation
import Questionnaire.Documents
import Questionnaire.Registry.Standard
import Questionnaire.Survey
import Questionnaire.Validation

/-!
# Running a command

A command reads files by name and gives a report. A failure with a message is reported as
the last line of the errors; any other failure has no report.
-/

namespace Questionnaire.CommandLine

abbrev Files : Type := String → Option String

namespace Files

def read (files : Files) (name : String) : Except Failure String :=
  (files name).elim (.error (.missingFile name)) .ok

/-- Does the name of a file end as those of JSON documents do? Other documents are in YAML. -/
def isJson (name : String) : Bool :=
  ".json".toList.isSuffixOf (name.toList.map Char.toLower)

def answers (files : Files) (name : String) : Except Failure Answers := do
  let text ← files.read name
  if isJson name then Answers.ofJson text else Answers.ofYaml text

def questions (files : Files) (name : String) : Except Failure (List Question) := do
  let text ← files.read name
  let reading ← if isJson name then Question.ofJson text else Question.ofYaml text
  return reading.questions

def options (files : Files) (name : String) : Except Failure Options := do
  Options.ofYaml name (← files.read name)

/-- The registry of a file, or the standard one if no file is named. -/
def registry (files : Files) : Option String → Except Failure Registry
  | none => .ok .standard
  | some name => do Registry.ofYaml Dispatcher.standard (← files.read name)

end Files

/-- What a command leaves: an exit code, the output, and the lines of the errors. -/
structure Report where
  exit : Nat
  output : String
  errors : List String
  deriving DecidableEq, Repr

namespace Report

def lines (output : List String) (errors : List String) : Report :=
  ⟨0, String.join (output.map (· ++ "\n")), errors⟩

/-- A failure is an error line behind the lines before it, if it has a message. -/
def orFailure (before : List String) : Except Failure Report → Except Failure Report
  | .ok report => .ok report
  | .error failure =>
      match failure.message? with
      | some message => .ok ⟨1, "", before ++ ["Error: " ++ message]⟩
      | none => .error failure

end Report

/-- The name of a file, where an empty one is none. -/
def named (name : Option String) : Option String := name.filter fun s => !s.isEmpty

namespace CompileArguments

/-- The options of the file, with the date and the strictness of the command line in their
place. -/
def readOptions (a : CompileArguments) (files : Files) : Except Failure Options := do
  let options ← match named a.options with
    | some name => files.options name
    | none => .ok {}
  let options ← match named a.date with
    | some text => do
        let day ← (Date.ofIso text).mapError (Failure.date text)
        pure { options with referenceDate := some (.date day) }
    | none => pure options
  return if a.strict then { options with fallback := .bool false } else options

/-- The answers to compile: with a file of questions, those to visible questions, selections
expanded. -/
def readAnswers (a : CompileArguments) (files : Files) (options : Options)
    (registry : Registry) : Except Failure Answers := do
  let answers ← files.answers a.answers
  match named a.questionsFile with
  | none => return answers
  | some name => do
      let survey : Survey :=
        { questions := ← files.questions name, answers := answers, probes := a.probes }
      survey.preparedAnswers { strict := options.strictConditions.truthy } registry

def outcome (a : CompileArguments) (files : Files) (today : Date) :
    Except Failure Outcome := do
  let options ← a.readOptions files
  let registry ← files.registry a.registry
  let answers ← a.readAnswers files options registry
  compile options registry today answers a.probes

/-- A request in a format, ending in a line break. -/
def write (a : CompileArguments) (request : Value) : Except Failure String :=
  match a.format with
  | .json => (Request.toIndentedJson 2 request).map (· ++ "\n")
  | .yaml => Request.toYaml request

end CompileArguments

/-- The report of an outcome: the request, behind the build errors. -/
def reportOutcome (a : CompileArguments) (o : Outcome) : Except Failure Report :=
  let errors := o.errors.map BuildError.line
  match o.request with
  | none =>
    .ok ⟨1, "", errors ++ ["Compilation failed with " ++ toString o.errors.length ++
      " error(s)"]⟩
  | some request =>
      let errors := if o.usedFallback then errors ++
        ["Request built by the permissive construction"] else errors
      Report.orFailure errors ((a.write request).map fun text => ⟨0, text, errors⟩)

def runCompile (files : Files) (today : Date) (a : CompileArguments) :
    Except Failure Report := do
  reportOutcome a (← a.outcome files today)

def validationLine (e : ValidationError) : String :=
  e.code.name ++ " " ++ e.field.display ++ ": " ++ e.message

/-- Check the answers to the visible questions. Malformed conditions do not hold. -/
def runValidate (files : Files) (answers questionsFile : String) :
    Except Failure Report := do
  let answers ← files.answers answers
  let questions ← files.questions questionsFile
  let visible ← Question.visible {} answers questions
  let errors ← Question.checkAll [] visible answers
  if errors.isEmpty then
    return .lines [toString visible.length ++ " visible question(s), all answers valid"] []
  else
    return { Report.lines (errors.map validationLine) [toString errors.length ++
      " invalid answer(s)"] with exit := 1 }

/-- A line for the table of a kind: how many keys it has, and how many of them are excluded. -/
def tableLine (kind : EntityKind) (table : MappingTable) : String :=
  kind.name ++ ": " ++ toString table.length ++ " key(s), "
    ++ toString (table.countP fun (_, mapping) => mapping.any Mapping.isExcluded) ++ " excluded"

def registryLines (r : Registry) : List String :=
  r.tables.toList.map (fun (kind, table) => tableLine kind table) ++
    ["total: " ++ toString r.size ++ " key(s)"]

def runCheckRegistry (files : Files) (name : Option String) : Except Failure Report :=
  match files.registry name with
  | .ok r => .ok (.lines (registryLines r) [])
  | .error (.registry fault) => .ok ⟨1, "", ["Invalid registry: " ++ fault.message]⟩
  | .error failure => .error failure

namespace Command

/-- Run a command. `today` stands in for a missing reference date. -/
def run (files : Files) (today : Date) (command : Command) : Except Failure Report :=
  Report.orFailure [] (match command with
    | .compile a => runCompile files today a
    | .validate answers questionsFile => runValidate files answers questionsFile
    | .checkRegistry name => runCheckRegistry files name)

end Command

end Questionnaire.CommandLine
