import Questionnaire.Decimal.Shortest
import Questionnaire.Text.Quoted
import Questionnaire.Value.Basic

/-!
# The text of values

`display` is the text of a value by itself; `inspect` is its text in a message or inside a
list or map, where texts are quoted and dates named.
-/

namespace Questionnaire

namespace Text

def joinWith (between : String) : List String → String
  | [] => ""
  | [s] => s
  | s :: rest => s ++ between ++ joinWith between rest

end Text

namespace Date

def inspect (d : Date) : String :=
  "datetime.date(" ++ toString d.year ++ ", " ++ toString d.month ++ ", " ++
    toString d.day ++ ")"

end Date

namespace Moment

/-- A distance of so many minutes, split into whole days, possibly negative, and seconds. -/
def inspectDistance (minutes : Int) : String :=
  let days := Int.fdiv minutes 1440
  let seconds := Int.fmod minutes 1440 * 60
  "datetime.timedelta(" ++ Text.joinWith ", "
    ((if days = 0 then [] else ["days=" ++ toString days])
      ++ (if seconds = 0 then [] else ["seconds=" ++ toString seconds])) ++ ")"

/-- Seconds and microseconds are left out if they are zero. -/
def inspect (m : Moment) : String :=
  let numbers := [m.date.year, m.date.month, m.date.day, m.hour, m.minute]
    ++ (if m.second = 0 && m.micro = 0 then [] else [m.second])
    ++ (if m.micro = 0 then [] else [m.micro])
  let zone := match m.offset with
    | none => []
    | some 0 => ["tzinfo=datetime.timezone.utc"]
    | some minutes => ["tzinfo=datetime.timezone(" ++ inspectDistance minutes ++ ")"]
  "datetime.datetime(" ++ Text.joinWith ", " (numbers.map toString ++ zone) ++ ")"

end Moment

namespace Value

mutual

def inspect : Value → String
  | .null => "None"
  | .bool b => if b then "True" else "False"
  | .int n => toString n
  | .float x => x.display
  | .text s => Text.quote s
  | .list items => "[" ++ Text.joinWith ", " (inspectItems items) ++ "]"
  | .map entries => "\x7b" ++ Text.joinWith ", " (inspectEntries entries) ++ "\x7d"
  | .date d => d.inspect
  | .moment m => m.inspect
  | .combobox label value =>
      "ComboboxAnswer(text=" ++ inspect label ++ ", value=" ++ inspect value ++ ")"

def inspectItems : List Value → List String
  | [] => []
  | v :: rest => inspect v :: inspectItems rest

def inspectEntries : List (Value × Value) → List String
  | [] => []
  | (k, v) :: rest => (inspect k ++ ": " ++ inspect v) :: inspectEntries rest

end

/-- Texts stand for themselves and dates are written in ISO form, a blank before the time of
day. -/
def display : Value → String
  | .text s => s
  | .date d => d.iso
  | .moment m => m.isoWith " "
  | v => v.inspect

example :
    display (.list [.text "a", .null, .int (-2)]) = "['a', None, -2]" := by decide +kernel

end Value

end Questionnaire
