import Questionnaire.Calendar.Date
import Questionnaire.Decimal.Power
import Questionnaire.Text.Quoted

/-!
# Reading ISO dates

A date is written by month and day or by week and weekday, with dashes or without:
`2004-02-29`, `20040229`, `2004-W09-7`, `2004W097`; without its weekday a week stands for
its Monday. The text takes 7, 8 or 10 bytes. What follows a form without dashes, up to the
ten bytes, is not read.
-/

namespace Questionnaire.Date

/-- The number written by the first `count` characters, all of them digits, and the rest. -/
def digits? : Nat → List Char → Option (Nat × List Char)
  | 0, text => some (0, text)
  | _ + 1, [] => none
  | count + 1, c :: text =>
      if Text.isDigit c then
        (digits? count text).map fun (n, rest) => ((c.toNat - 48) * tenTo count + n, rest)
      else none

def dash? (dashed : Bool) : List Char → Option (List Char)
  | text =>
    if dashed then (match text with | '-' :: rest => some rest | _ => none) else some text

/-- The weekday of 1 January, with Monday as 0. -/
def firstWeekday (year : Nat) : Nat :=
  let y := year - 1
  (y * 365 + y / 4 - y / 100 + y / 400) % 7

/-- The weeks of a year: 53 if it starts on a Thursday, or on a Wednesday in a leap year. -/
def weekCount (year : Nat) : Nat :=
  if firstWeekday year = 3 || (firstWeekday year = 2 && isLeap year) then 53 else 52

/-- The month and day that lie `offset` days after the start of the month. -/
def inMonths (year : Nat) : Nat → Nat → Nat → Nat × Nat
  | 0, month, offset => (month, offset + 1)
  | fuel + 1, month, offset =>
      if monthLength year month ≤ offset then
        inMonths year fuel (month + 1) (offset - monthLength year month)
      else (month, offset + 1)

/-- The date that lies the given number of days after 1 January, in this year or a
neighbouring one. -/
def ofYearOffset (year : Nat) (offset : Int) : Except DateFault Date :=
  let (year, offset) :=
    if offset < 0 then (year - 1, offset + yearLength (year - 1))
    else if (yearLength year : Int) ≤ offset then (year + 1, offset - yearLength year)
    else (year, offset)
  let (month, day) := inMonths year 11 1 offset.toNat
  ofParts year month day

/-- The date of a weekday, Monday being 1, in a week. Week 1 is the one with the first
Thursday. -/
def ofWeek (year week weekday : Nat) : Except DateFault Date :=
  if year = 0 then
    (if 1 ≤ week && week ≤ 52 && 1 ≤ weekday && weekday ≤ 7 then .error .month
      else .error .malformed)
  else if 1 ≤ week && week ≤ weekCount year && 1 ≤ weekday && weekday ≤ 7 then
    let first : Int :=
      if firstWeekday year ≤ 3 then -firstWeekday year else 7 - firstWeekday year
    ofYearOffset year (first + 7 * (week - 1) + (weekday - 1))
  else .error .malformed

/-- The rest of a date by week, after the `W`. -/
def readWeek? (year : Nat) (dashed : Bool) (text : List Char) :
    Option (Nat × Nat × Nat) := do
  let (week, rest) ← digits? 2 text
  if rest.isEmpty then some (year, week, 1)
  else
    let rest ← dash? dashed rest
    let (weekday, _) ← digits? 1 rest
    some (year, week, weekday)

def readMonth? (year : Nat) (dashed : Bool) (text : List Char) :
    Option (Nat × Nat × Nat) := do
  let (month, rest) ← digits? 2 text
  let rest ← dash? dashed rest
  let (day, _) ← digits? 2 rest
  some (year, month, day)

def ofIso (s : String) : Except DateFault Date :=
  let size := s.utf8ByteSize
  if size = 7 || size = 8 || size = 10 then
    match digits? 4 s.toList with
    | none => .error .malformed
    | some (year, rest) =>
        let dashed := rest.head? = some '-'
        let rest := if dashed then rest.drop 1 else rest
        match rest with
        | 'W' :: rest =>
            match readWeek? year dashed rest with
            | some (year, week, weekday) => ofWeek year week weekday
            | none => .error .malformed
        | rest =>
            match readMonth? year dashed rest with
            | some (year, month, day) => ofParts year month day
            | none => .error .malformed
  else .error .malformed

/-- What a message says about a text that is no date. -/
def faultMessage (s : String) : DateFault → String
  | .malformed => "Invalid isoformat string: " ++ Text.quote s
  | .year n => "year " ++ toString n ++ " is out of range"
  | .month => "month must be in 1..12"
  | .day => "day is out of range for month"

end Questionnaire.Date
