import Questionnaire.CommandLine.Run
import Questionnaire.CommandLine.Tour
import Questionnaire.Sample
import Std.Time

/-!
# The program

Reads the files that a command names, runs the command on this day and prints the report.
-/

namespace Questionnaire.CommandLine

/-- This day; the first day there is stands in for one outside the calendar. -/
def today : IO Date := do
  let day ← Std.Time.PlainDate.now
  match Date.ofParts day.year.toInt.toNat day.month.toNat day.day.toNat with
  | .ok day => return day
  | .error _ => return ⟨1, 1, 1, by decide⟩

/-- The files with the given names, as far as there are any. -/
def readFiles (names : List String) : IO Files := do
  let texts ← names.filterMapM fun (name : String) => do
    try return some (name, ← IO.FS.readFile name)
    catch _ => return none
  return fun name => (texts.find? fun entry => entry.1 == name).map Prod.snd

def Report.print (report : Report) : IO UInt32 := do
  IO.print report.output
  report.errors.forM IO.eprintln
  return report.exit.toUInt32

/-- The tour of the sample survey, as a program of its own. -/
def printTour : IO UInt32 := do
  match Tour.lines Sample.survey { standardizeBirthDate := .bool true } .standard
    (← today) with
  | .ok lines => (Report.lines lines []).print
  | .error _ => return 1

end Questionnaire.CommandLine

open Questionnaire.CommandLine in
def main (words : List String) : IO UInt32 := do
  match Command.read words with
  | none =>
      IO.eprintln
        "usage: compile ANSWERS | validate ANSWERS --questions-file FILE | check-registry"
      return 2
  | some command =>
      match command.run (← readFiles command.fileNames) (← today) with
      | .ok report => report.print
      | .error _ =>
          IO.eprintln "Error: a value of an unexpected kind"
          return 1
