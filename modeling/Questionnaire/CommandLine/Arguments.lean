import Questionnaire.Text.Digit

/-!
# Arguments

A command line names a command, with options before or behind its arguments. A long option
may be cut short as long as it stays unique, and may carry its value behind `=`. Everything
behind `--` is an argument. What does not fit is a usage error.
-/

namespace Questionnaire.CommandLine

/-- An option; a flag has no value. -/
structure OptionForm where
  name : String
  isFlag : Bool := false
  deriving DecidableEq, Repr

/-- What a word of a command line is, by itself. -/
inductive Word where
  | argument (text : String)
  | option (form : OptionForm) (value : Option String)
  | wrong
  deriving DecidableEq, Repr

/-- What a command takes: options, and whether it has an argument. -/
structure Form where
  options : List OptionForm
  hasArgument : Bool

/-- What was given to a command: options in order, with their values, and the argument. -/
structure Given where
  options : List (String × String)
  argument : Option String
  deriving DecidableEq, Repr

def isNegative (word : List Char) : Bool :=
  match word with
  | '-' :: digits =>
      let (whole, rest) := digits.span Text.isDecimal
      (match rest with
        | [] => !whole.isEmpty
        | '.' :: fraction => !fraction.isEmpty && fraction.all Text.isDecimal
        | _ => false)
  | _ => false

/-- An option by its whole name, or by a part of it that no other option starts with. -/
def findOption (options : List OptionForm) (name : List Char) (exact : Bool) :
    List OptionForm :=
  match options.find? fun o => o.name.toList = name with
  | some o => [o]
  | none => if exact then [] else options.filter fun o => name.isPrefixOf o.name.toList

/-- Every command has this option. It asks how the command is used, as a usage error does. -/
def helpOption : OptionForm := ⟨"--help", true⟩

/-- What a word is. Options start with two dashes. -/
def readWord (form : List OptionForm) (word : String) : Word :=
  let text := word.toList
  let options := helpOption :: form
  match text with
  | '-' :: second :: _ =>
      if options.any fun o => o.name == word then
        (match findOption options text true with
          | o :: _ => if o = helpOption then .wrong else .option o none
          | [] => .wrong)
      else
        let (name, rest) := text.span (· ≠ '=')
        let value := if rest.isEmpty then none else some (String.ofList (rest.drop 1))
        (match if second = '-' then findOption options name false else [] with
          | [o] => if o = helpOption then .wrong else .option o value
          | _ :: _ => .wrong
          | [] => if isNegative text || text.contains ' ' then .argument word else .wrong)
  | _ => .argument word

/-- The words behind `--`: the argument, if it is missing, and nothing else. -/
def readRest (form : Form) (given : Given) (words : List String) : Option Given :=
  match words with
  | [word] =>
      if form.hasArgument && given.argument.isNone then
        some { given with argument := some word } else none
  | _ => none

/-- The words of a command. The flag tells whether the argument was the word before. -/
def readWords (form : Form) : Bool → Given → List String → Option Given
  | _, given, [] => some given
  | behindArgument, given, "--" :: rest =>
      if behindArgument && rest.isEmpty then some given else readRest form given rest
  | _, given, word :: rest =>
      match readWord form.options word with
      | .argument text =>
          if form.hasArgument && given.argument.isNone then
            readWords form true { given with argument := some text } rest
          else none
      | .option o (some value) =>
          if o.isFlag then none
          else
            readWords form false
              { given with options := given.options ++ [(o.name, value)] } rest
      | .option o none =>
          if o.isFlag then
            readWords form false
              { given with options := given.options ++ [(o.name, "")] } rest
          else
            (match rest with
              | [] => none
              | next :: rest =>
                  match if next = "--" then .wrong else readWord form.options next with
                  | .argument value =>
                      readWords form false
                        { given with options := given.options ++ [(o.name, value)] } rest
                  | _ => none)
      | .wrong => none

namespace Given

def last? (given : Given) (name : String) : Option String :=
  (given.options.reverse.find? fun entry => entry.1 == name).map Prod.snd

def all (given : Given) (name : String) : List String :=
  (given.options.filter fun entry => entry.1 == name).map Prod.snd

def has (given : Given) (name : String) : Bool := (given.last? name).isSome

end Given

/-- Whether a request is written as JSON or as YAML. -/
inductive Format where
  | json
  | yaml
  deriving DecidableEq, Repr

structure CompileArguments where
  answers : String
  questionsFile : Option String
  probes : List String
  options : Option String
  date : Option String
  format : Format
  strict : Bool
  registry : Option String
  deriving DecidableEq, Repr

inductive Command where
  | compile (arguments : CompileArguments)
  | validate (answers questionsFile : String)
  | checkRegistry (registry : Option String)
  deriving DecidableEq, Repr

namespace Command

/-- The names of the files that a command may read. -/
def fileNames : Command → List String
  | .compile a => a.answers :: [a.questionsFile, a.options, a.registry].filterMap id
  | .validate answers questionsFile => [answers, questionsFile]
  | .checkRegistry registry => registry.toList

def compileForm : Form where
  options := [⟨"--questions-file", false⟩, ⟨"--question", false⟩, ⟨"--options", false⟩,
    ⟨"--date", false⟩, ⟨"--format", false⟩, ⟨"--strict", true⟩, ⟨"--registry", false⟩]
  hasArgument := true

def validateForm : Form where
  options := [⟨"--questions-file", false⟩]
  hasArgument := true

def checkRegistryForm : Form where
  options := [⟨"--registry", false⟩]
  hasArgument := false

def readFormat : String → Option Format
  | "json" => some .json
  | "yaml" => some .yaml
  | _ => none

def readCompile (words : List String) : Option Command := do
  let given ← readWords compileForm false ⟨[], none⟩ words
  let formats ← (given.all "--format").mapM readFormat
  return .compile {
    answers := ← given.argument
    questionsFile := given.last? "--questions-file"
    probes := given.all "--question"
    options := given.last? "--options"
    date := given.last? "--date"
    format := formats.getLast?.getD .json
    strict := given.has "--strict"
    registry := given.last? "--registry" }

def readValidate (words : List String) : Option Command := do
  let given ← readWords validateForm false ⟨[], none⟩ words
  return .validate (← given.argument) (← given.last? "--questions-file")

def readCheckRegistry (words : List String) : Option Command := do
  let given ← readWords checkRegistryForm false ⟨[], none⟩ words
  return .checkRegistry (given.last? "--registry")

/-- Is a word the flag for more messages, whole, cut short or repeated? -/
def isVerbose (word : String) : Bool :=
  match word.toList with
  | '-' :: 'v' :: rest => rest.all (· = 'v')
  | '-' :: '-' :: rest => !rest.isEmpty && rest.isPrefixOf "verbose".toList
  | _ => false

/-- The command of a command line; `none` for a usage error. -/
def read : List String → Option Command
  | [] => none
  | word :: rest =>
      if isVerbose word then read rest
      else if word = "compile" then readCompile rest
      else if word = "validate" then readValidate rest
      else if word = "check-registry" then readCheckRegistry rest
      else none

end Command

end Questionnaire.CommandLine
