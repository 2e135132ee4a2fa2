import Questionnaire.Failure

/-!
# Periods

Every value of a request is recorded under a period: a month, a year, twelve months up to
one, or all time. All period texts of a compilation come from one reference date.
-/

namespace Questionnaire

/-- The length of time that a mapping records its value for. A mapping built by hand can
name something else, which no date resolves. -/
inductive PeriodType where
  | eternity
  | year
  | rollingYear
  | month
  | other (value : Value)

namespace PeriodType

def name : PeriodType → String
  | .eternity => "ETERNITY"
  | .year => "YEAR"
  | .rollingYear => "YEAR_ROLLING"
  | .month => "MONTH"
  | .other value => value.display

def read : Value → Except Failure PeriodType
  | .text "ETERNITY" => .ok .eternity
  | .text "YEAR" => .ok .year
  | .text "YEAR_ROLLING" => .ok .rollingYear
  | .text "MONTH" => .ok .month
  | value => .error (.period value)

end PeriodType

structure Periods where
  month : String
  nextMonth : String
  year : String
  rollingYear : String
  deriving DecidableEq, Repr

namespace Periods

def eternity : String := "ETERNITY"

def monthText (year month : Nat) : String :=
  Text.padded 4 year ++ "-" ++ Text.padded 2 month

/-- The periods of a reference date; the rolling year starts in the same month one year back. -/
def ofDate (d : Date) : Periods where
  month := monthText d.year d.month
  nextMonth :=
    if d.month = 12 then monthText (d.year + 1) 1 else monthText d.year (d.month + 1)
  year := Text.padded 4 d.year
  rollingYear := "month:" ++ monthText (d.year - 1) d.month ++ ":12"

def resolve (p : Periods) : PeriodType → Except Failure String
  | .month => .ok p.month
  | .year => .ok p.year
  | .rollingYear => .ok p.rollingYear
  | .eternity => .ok eternity
  | .other value => .error (.period value)

end Periods

end Questionnaire
