import Questionnaire.EntityKind
import Questionnaire.Calendar.Iso
import Questionnaire.Value.Display

/-!
# Failures

A build error is a value that says what was wrong with one answer; it is collected and does
not stop a compilation. A failure stops a computation. Each constructor of `Failure` is a
cause; its wording is in the `message` functions.
-/

namespace Questionnaire

inductive BuildErrorKind where
  | unknownVariable
  | unknownEntity
  | undefinedValue
  | unexpectedValue
  | mappingError
  deriving DecidableEq, Repr

namespace BuildErrorKind

def name : BuildErrorKind → String
  | .unknownVariable => "UNKNOWN_VARIABLE"
  | .unknownEntity => "UNKNOWN_ENTITY"
  | .undefinedValue => "UNDEFINED_VALUE"
  | .unexpectedValue => "UNEXPECTED_VALUE"
  | .mappingError => "MAPPING_ERROR"

def all : List BuildErrorKind :=
  [.unknownVariable, .unknownEntity, .undefinedValue, .unexpectedValue, .mappingError]

def ofName? (s : String) : Option BuildErrorKind := all.find? (·.name == s)

end BuildErrorKind

structure BuildError where
  kind : BuildErrorKind
  answerKey : String
  message : String
  deriving DecidableEq, Repr

namespace BuildError

def toValue (e : BuildError) : Value :=
  .map [(.text "type", .text e.kind.name), (.text "answerKey", .text e.answerKey),
    (.text "message", .text e.message)]

def summary (e : BuildError) : String := e.kind.name ++ ": " ++ e.message

/-- An error on a line of its own, with the key of the answer. -/
def line (e : BuildError) : String := e.kind.name ++ " " ++ e.answerKey ++ ": " ++ e.message

end BuildError

/-- What is wrong with a document before its content is looked at. -/
inductive DocumentFault where
  | unreadable
  | duplicateKey (key : Value)

inductive ConditionFault where
  | unknownOperator (symbol : String)
  | includes (expression : String)
  | excludes (expression : String)
  | noOperator (expression : String)
  | custom (symbol expression reason : String)

inductive RegistryFault where
  | document (fault : DocumentFault)
  | notMap
  | unknownKinds (names : List Value)
  | entryNotMap (key entry : Value)
  | entryPeriod (key period : Value)
  | unknownDispatcher (key name : Value)
  | entryEmpty (key entry : Value)
  | repeatedKeys (places : List (Value × List String))

inductive QuestionFault where
  | document (fault : DocumentFault)
  | shape
  | choiceWithoutId (choice : Value)
  | withoutId (question : Value)
  | unknownType (id type : Value)
  | withoutChoices (id : Value) (type : String)
  | visibility (id : Value)

inductive OptionsFault where
  | document (path : String) (fault : DocumentFault)
  | notMap (path : String)
  | unknownNames (names : List Value)
  | notIsoDate (value : Value)
  | notDate (value : Value)

inductive AnswersFault where
  | document (fault : DocumentFault)
  | notMap (kind : String)

/-- An operation on values that none of the rules above speaks of. -/
inductive Misuse where
  /-- The operation does not take a value of this kind. -/
  | kind
  /-- Values of this kind have no such operation. -/
  | operation
  /-- The value is of the right kind and still cannot be taken. -/
  | content (message : String)
  /-- The number is too large for a floating-point number. -/
  | size
  /-- The value has no form in the document written. -/
  | unwritable
  deriving DecidableEq, Repr

inductive Failure where
  | condition (fault : ConditionFault)
  | registry (fault : RegistryFault)
  | question (fault : QuestionFault)
  | options (fault : OptionsFault)
  | answers (fault : AnswersFault)
  | period (value : Value)
  | dispatch (answerKey message : String)
  | unexpectedValue (answerKey : String) (value : Value)
  | build (error : BuildError)
  | memberList (field : Value) (kind : EntityKind)
  | notMemberList (field : Value) (kind : EntityKind)
  | date (text : String) (fault : DateFault)
  | json
  | missingFile (name : String)
  | misuse (misuse : Misuse)

def DocumentFault.detail : DocumentFault → String
  | .unreadable => ""
  | .duplicateKey key => ": found duplicate key " ++ key.inspect

def ConditionFault.message : ConditionFault → String
  | .unknownOperator symbol => "Unknown operator: " ++ symbol
  | .includes expression => "Invalid includes expression: " ++ expression
  | .excludes expression => "Invalid excludes expression: " ++ expression
  | .noOperator expression => "No valid operator found in expression: " ++ expression
  | .custom symbol expression reason =>
      "Custom operator " ++ Text.quote symbol ++ " failed on " ++ Text.quote expression ++
        ": " ++ reason

def periodMessage (value : Value) : String := "Unknown period type: " ++ value.inspect

def RegistryFault.message : RegistryFault → String
  | .document fault => "Invalid registry document" ++ fault.detail
  | .notMap => "Registry document must be a mapping of entity kinds"
  | .unknownKinds names =>
      "Unknown entity kinds in registry: " ++ (Value.list names).inspect
  | .entryNotMap key entry =>
      "Mapping for '" ++ key.display ++ "' must be a mapping, got " ++ entry.inspect
  | .entryPeriod key period =>
      "Mapping for '" ++ key.display ++ "': " ++ periodMessage period
  | .unknownDispatcher key name =>
      "Mapping for '" ++ key.display ++ "' refers to unknown dispatcher '" ++
        name.display ++ "'"
  | .entryEmpty key entry =>
      "Mapping for '" ++ key.display ++ "' has no variable, dispatch or exclude: " ++
        entry.inspect
  | .repeatedKeys places =>
      "Keys mapped more than once: "
        ++ Text.joinWith "; " (places.map fun (key, parts) => key.display ++ ": " ++
          Text.joinWith ", " parts)

def QuestionFault.message : QuestionFault → String
  | .document fault => "Invalid questions document" ++ fault.detail
  | .shape => "Expected a list of questions, a 'questions' list or 'steps'"
  | .choiceWithoutId choice => "Choice without id: " ++ choice.inspect
  | .withoutId question => "Question without id: " ++ question.inspect
  | .unknownType id type =>
      "Unknown question type for '" ++ id.display ++ "': " ++ type.inspect
  | .withoutChoices id type =>
      "Question '" ++ id.display ++ "' of type " ++ type ++ " has no choices"
  | .visibility id =>
      "visibleWhen of '" ++ id.display ++ "' must be a string or a list of strings"

def OptionsFault.message : OptionsFault → String
  | .document path fault => "Invalid options file " ++ path ++ fault.detail
  | .notMap path => "Options file " ++ path ++ " must contain a mapping"
  | .unknownNames names => "Unknown builder options: " ++ (Value.list names).inspect
  | .notIsoDate value => "reference_date is not an ISO date: " ++ value.inspect
  | .notDate value => "reference_date is not a date: " ++ value.inspect

def AnswersFault.message : AnswersFault → String
  | .document fault => "Invalid answers document" ++ fault.detail
  | .notMap kind => "Answers must be a mapping of answer keys, got " ++ kind

/-- What a failure says, if it has words. -/
def Failure.message? : Failure → Option String
  | .condition fault => some fault.message
  | .registry fault => some fault.message
  | .question fault => some fault.message
  | .options fault => some fault.message
  | .answers fault => some fault.message
  | .period value => some (periodMessage value)
  | .dispatch _ message => some message
  | .unexpectedValue key value =>
      some ("Unexpected value for '" ++ key ++ "': " ++ value.inspect)
  | .build error => some error.summary
  | .memberList field kind =>
      some ("'" ++ field.display ++ "' is a member list of " ++ kind.name)
  | .notMemberList field kind =>
      some ("'" ++ field.display ++ "' is not a member list of " ++ kind.name)
  | .date text fault => some (Date.faultMessage text fault)
  | .json => some "invalid JSON"
  | .missingFile name => some ("[Errno 2] No such file or directory: " ++ Text.quote name)
  | .misuse (.content message) => some message
  | .misuse _ => none

end Questionnaire
