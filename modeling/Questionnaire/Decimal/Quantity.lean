import Questionnaire.Decimal.Power

/-!
# Exact quantities

What whole numbers and floating-point numbers have in common: an exact size. Two quantities
are compared without rounding, so that a whole number and a floating-point number are equal
only if they denote the same number.
-/

namespace Questionnaire

/-- A number `mantissa * 2 ^ exponent`, an infinity, or no number at all. -/
inductive Quantity where
  | undefined
  | infinite (negative : Bool)
  | scaled (mantissa exponent : Int)
  deriving DecidableEq, Repr

namespace Quantity

def ofInt (n : Int) : Quantity := .scaled n 0

/-- Compare `m * 2 ^ e` with `n * 2 ^ f`, both brought to the lower exponent. -/
def compareScaled (m e n f : Int) : Ordering :=
  let low := min e f
  compare (m * twoTo (e - low).toNat) (n * twoTo (f - low).toNat)

/-- The order of two quantities; what is no number has none. -/
def compare? : Quantity → Quantity → Option Ordering
  | .undefined, _ => none
  | _, .undefined => none
  | .infinite true, .infinite true => some .eq
  | .infinite false, .infinite false => some .eq
  | .infinite true, _ => some .lt
  | .infinite false, _ => some .gt
  | .scaled _ _, .infinite true => some .gt
  | .scaled _ _, .infinite false => some .lt
  | .scaled m e, .scaled n f => some (compareScaled m e n f)

def equal (a b : Quantity) : Bool := compare? a b == some .eq

def less (a b : Quantity) : Bool := compare? a b == some .lt

def atMost (a b : Quantity) : Bool := less a b || equal a b

end Quantity

end Questionnaire
