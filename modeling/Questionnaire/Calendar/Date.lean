import Questionnaire.Text.Digit

/-!
# Dates of the Gregorian calendar

Years run from 1 to 9999. A date carries the proof that it exists; `Date.ofParts` says why
three numbers are no date, looking at the year first, then the month, then the day.
-/

namespace Questionnaire

def isLeap (year : Nat) : Bool := year % 4 = 0 && (year % 100 ≠ 0 || year % 400 = 0)

def monthLength (year month : Nat) : Nat :=
  if month = 2 then (if isLeap year then 29 else 28)
  else if month = 4 || month = 6 || month = 9 || month = 11 then 30
  else 31

def yearLength (year : Nat) : Nat := if isLeap year then 366 else 365

structure Date where
  year : Nat
  month : Nat
  day : Nat
  valid : (1 ≤ year ∧ year ≤ 9999) ∧ (1 ≤ month ∧ month ≤ 12) ∧ 1 ≤ day ∧
    day ≤ monthLength year month
  deriving DecidableEq, Repr

/-- Why a text or three numbers give no date. -/
inductive DateFault where
  | malformed
  | year (year : Nat)
  | month
  | day
  deriving DecidableEq, Repr

namespace Date

def ofParts (year month day : Nat) : Except DateFault Date :=
  if hy : 1 ≤ year ∧ year ≤ 9999 then
    if hm : 1 ≤ month ∧ month ≤ 12 then
      if hd : 1 ≤ day ∧ day ≤ monthLength year month then .ok ⟨year, month, day, hy, hm, hd⟩
      else .error .day
    else .error .month
  else .error (.year year)

theorem monthLength_pos (year month : Nat) : 1 ≤ monthLength year month := by
  unfold monthLength
  split
  · split <;> omega
  · split <;> omega

theorem ofParts_parts (d : Date) : ofParts d.year d.month d.day = .ok d := by
  obtain ⟨year, month, day, hy, hm, hd⟩ := d
  simp [ofParts, hy, hm, hd]

/-- Month and day come earlier in the year than those of the other date. -/
def beforeInYear (d e : Date) : Bool :=
  d.month < e.month || (d.month = e.month && d.day < e.day)

def before (d e : Date) : Bool := d.year < e.year || (d.year = e.year && beforeInYear d e)

/-- Completed years from a birth date to another day; negative if that comes before the birth. -/
def age (birth today : Date) : Int :=
  today.year - birth.year - (if beforeInYear today birth then 1 else 0)

/-- Four digits of the year, two of the month, two of the day. -/
def iso (d : Date) : String :=
  Text.padded 4 d.year ++ "-" ++ Text.padded 2 d.month ++ "-" ++ Text.padded 2 d.day

end Date

end Questionnaire
