import Questionnaire.Decimal.Quantity

/-!
# Binary floating-point numbers of 64 bits

A finite number is a sign, a mantissa below 2^53 and an exponent of at least -1074; the
mantissa is at least 2^52 unless the exponent is -1074. `ofQuotient` is the only way by
which numbers are made: it rounds an exact quotient to the nearest number, a tie to the even
mantissa.
-/

namespace Questionnaire

/-- A floating-point number; `finite` stands for `± mantissa * 2 ^ exponent`. -/
inductive Binary64 where
  | nan
  | infinite (negative : Bool)
  | finite (negative : Bool) (mantissa : Nat) (exponent : Int)
  deriving DecidableEq, Repr

namespace Binary64

def least : Int := -1074

def zero : Binary64 := .finite false 0 least

/-- A quotient rounded to the nearest whole number, a half to the even one. -/
def divideEven (n d : Nat) : Nat :=
  let q := n / d
  let twice := 2 * (n % d)
  if twice < d then q else if d < twice then q + 1 else q + q % 2

/-- The quotient over `2 ^ exponent`, as numerator and denominator. -/
def unscale (n d : Nat) (exponent : Int) : Nat × Nat :=
  (n * twoTo (-exponent).toNat, d * twoTo exponent.toNat)

/-- A mantissa of at most 2^53 with its exponent, brought into the range of the format. -/
def normalize (negative : Bool) (mantissa : Nat) (exponent : Int) : Binary64 :=
  let (m, e) :=
    if mantissa = twoTo 53 then (twoTo 52, exponent + 1) else (mantissa, exponent)
  if 971 < e then .infinite negative else .finite negative m e

/-- The number nearest to `n / d`, for a positive `d`. -/
def ofQuotient (negative : Bool) (n d : Nat) : Binary64 :=
  if n = 0 then .finite negative 0 least
  else
    let guess := max ((n.log2 : Int) - d.log2 - 53) least
    let (a, b) := unscale n d guess
    let exponent := if twoTo 53 ≤ a / b then guess + 1 else guess
    let (a, b) := unscale n d exponent
    normalize negative (divideEven a b) exponent

/-- The number nearest to `± digits * 10 ^ power`. What is far out of range is not computed. -/
def ofDecimal (negative : Bool) (digits : Nat) (power : Int) : Binary64 :=
  let places : Int := (Nat.toDigits 10 digits).length + power
  if digits = 0 || places < -330 then .finite negative 0 least
  else if 310 < places then .infinite negative
  else ofQuotient negative (digits * tenTo power.toNat) (tenTo (-power).toNat)

/-- The number nearest to a whole number, unless that is infinite. -/
def ofInt? (n : Int) : Option Binary64 :=
  match ofQuotient (decide (n < 0)) n.natAbs 1 with
  | .infinite _ => none
  | x => some x

/-- The number nearest to `mantissa * 2 ^ exponent`; the flag is the sign of zero. -/
def ofScaled (negativeZero : Bool) (mantissa exponent : Int) : Binary64 :=
  ofQuotient (if mantissa = 0 then negativeZero else decide (mantissa < 0))
    (mantissa.natAbs * twoTo exponent.toNat) (twoTo (-exponent).toNat)

def signed (negative : Bool) (m : Nat) : Int := if negative then -(m : Int) else m

def add : Binary64 → Binary64 → Binary64
  | .finite s m e, .finite t n f =>
      let low := min e f
      ofScaled (s && t) (signed s m * twoTo (e - low).toNat + signed t n *
        twoTo (f - low).toNat) low
  | .infinite s, .infinite t => if s = t then .infinite s else .nan
  | .infinite s, .finite _ _ _ => .infinite s
  | .finite _ _ _, .infinite t => .infinite t
  | _, _ => .nan

def mul : Binary64 → Binary64 → Binary64
  | .finite s m e, .finite t n f => ofScaled (s != t) (signed (s != t) (m * n)) (e + f)
  | .infinite s, .infinite t => .infinite (s != t)
  | .infinite s, .finite t n _ => if n = 0 then .nan else .infinite (s != t)
  | .finite s m _, .infinite t => if m = 0 then .nan else .infinite (s != t)
  | _, _ => .nan

def neg : Binary64 → Binary64
  | .nan => .nan
  | .infinite negative => .infinite (!negative)
  | .finite negative m e => .finite (!negative) m e

def quantity : Binary64 → Quantity
  | .nan => .undefined
  | .infinite negative => .infinite negative
  | .finite negative m e => .scaled (if negative then -(m : Int) else m) e

/-- The whole number that a number is, if it is one. -/
def toInt? : Binary64 → Option Int
  | .finite negative m e =>
      let size := m * twoTo e.toNat
      let unit := twoTo (-e).toNat
      if size % unit = 0 then
        some (if negative then -((size / unit : Nat) : Int)
          else ((size / unit : Nat) : Int))
      else none
  | _ => none

/-- Equal sizes; zero has no sign here, and what is no number equals nothing. -/
def equal (a b : Binary64) : Bool := a.quantity.equal b.quantity

def isZero : Binary64 → Bool
  | .finite _ 0 _ => true
  | _ => false

example : ofInt? 1 = some (.finite false (twoTo 52) (-52)) := by decide +kernel
example : (ofDecimal false 25 (-1)).toInt? = none := by decide +kernel
example : (ofDecimal true 20 (-1)).toInt? = some (-2) := by decide +kernel
example : ofDecimal false 1 400 = .infinite false := by decide +kernel

end Binary64

end Questionnaire
