import Questionnaire.Calendar.Date

/-!
# Moments

A date with a time of day, and the distance of its clock from universal time if that is known.
-/

namespace Questionnaire

/-- A time of a day; `offset` counts minutes ahead of universal time. -/
structure Moment where
  date : Date
  hour : Nat
  minute : Nat
  second : Nat
  micro : Nat := 0
  offset : Option Int := none
  deriving DecidableEq, Repr

namespace Moment

/-- The sign, hours and minutes of a distance from universal time. -/
def offsetText (minutes : Int) : String :=
  (if minutes < 0 then "-" else "+") ++ Text.padded 2 (minutes.natAbs / 60) ++ ":"
    ++ Text.padded 2 (minutes.natAbs % 60)

/-- ISO form, with the given text between date and time. Microseconds and the distance from
universal time are written if there are any. -/
def isoWith (between : String) (m : Moment) : String :=
  m.date.iso ++ between ++ Text.padded 2 m.hour ++ ":" ++ Text.padded 2 m.minute ++ ":"
    ++ Text.padded 2 m.second
    ++ (if m.micro = 0 then "" else "." ++ Text.padded 6 m.micro)
    ++ (match m.offset with | none => "" | some minutes => offsetText minutes)

def iso (m : Moment) : String := isoWith "T" m

/-- Days since 31 December of the year before year 1. -/
def dayNumber (d : Date) : Nat :=
  let y := d.year - 1
  y * 365 + y / 4 - y / 100 + y / 400
    + (List.range (d.month - 1)).foldl (fun days month =>
      days + monthLength d.year (month + 1)) 0 + d.day

/-- Microseconds on a clock that runs by universal time; without a distance the clock is
taken as is. -/
def clock (m : Moment) : Int :=
  (((dayNumber m.date * 24 + m.hour) * 60 + m.minute - m.offset.getD 0) * 60 + m.second) *
  1000000 + m.micro

/-- Moments are the same if their clocks agree and both or neither know their distance from
universal time. -/
def same (m n : Moment) : Bool := m.offset.isSome = n.offset.isSome && m.clock = n.clock

end Moment

end Questionnaire
