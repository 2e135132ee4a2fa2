import Questionnaire.Decimal.Binary64

/-!
# The shortest decimal of a floating-point number

A number is written with the fewest digits that read back as the number, and of those with
the digits nearest to it. The reals that read back as `m * 2 ^ e` are the interval between
the midpoints to its neighbours, ends included if `m` is even; the search takes the first
decimal grid with a point in it.
-/

namespace Questionnaire.Binary64

/-- The reals around `m * 2 ^ e` that round to it, as `low / 4` and `high / 4` in units of
`2 ^ e`. -/
structure Interval where
  mantissa : Nat
  low : Nat
  high : Nat
  exponent : Int

/-- Below a power of two the gap to the next number is half as wide. -/
def interval (m : Nat) (e : Int) : Interval where
  mantissa := m
  low := if m = twoTo 52 && decide (least < e) then 4 * m - 1 else 4 * m - 2
  high := 4 * m + 2
  exponent := e

/-- One quarter unit of the interval, over `10 ^ grid`, as a quotient. -/
def Interval.quarter (i : Interval) (grid : Int) : Nat × Nat :=
  (twoTo i.exponent.toNat * tenTo (-grid).toNat, 4 * twoTo (-i.exponent).toNat *
    tenTo grid.toNat)

/-- Does the grid point `c * 10 ^ grid` round to the number? -/
def Interval.holds (i : Interval) (grid : Int) (c : Nat) : Bool :=
  let (n, d) := i.quarter grid
  if i.mantissa % 2 = 0 then i.low * n ≤ c * d && c * d ≤ i.high * n
  else i.low * n < c * d && c * d < i.high * n

/-- The nearest grid point that rounds to the number, if one of its two neighbours does. -/
def Interval.nearest? (i : Interval) (grid : Int) : Option Nat :=
  let (n, d) := i.quarter grid
  let size := 4 * i.mantissa * n
  let below := size / d
  match i.holds grid below, i.holds grid (below + 1) with
  | true, true => some (divideEven size d)
  | true, false => some below
  | false, true => some (below + 1)
  | false, false => none

/-- The first hit among the grids `10 ^ (places - count)` for the next counts of digits. A
hit can be the power of ten above the number, which has one digit. -/
def Interval.search (i : Interval) (places : Int) : Nat → Nat → Option (Nat × Int)
  | 0, _ => none
  | fuel + 1, count =>
      let grid := places - count
      match i.nearest? grid with
      | some digits => some (if digits = tenTo count then (1, places) else (digits, grid))
      | none => i.search places fuel (count + 1)

/-- The number of digits before the point of `m * 2 ^ e`; below one, minus the zeros after it. -/
def places (m : Nat) (e : Int) : Int :=
  (Nat.toDigits 10 (m * twoTo e.toNat * tenTo 400 / twoTo (-e).toNat)).length - 400

/-- The shortest digits of a positive number and the power of ten they count. -/
def shortest (m : Nat) (e : Int) : Nat × Int :=
  ((interval m e).search (places m e) 17 1).getD (0, 0)

/-- Digits with the point after the first `point` of them. -/
def positional (digits : List Char) (point : Int) : List Char :=
  if point ≤ 0 then '0' :: '.' :: (List.replicate (-point).toNat '0' ++ digits)
  else
    let whole := digits.take point.toNat ++ List.replicate (point.toNat - digits.length) '0'
    let rest := digits.drop point.toNat
    whole ++ '.' :: (if rest.isEmpty then ['0'] else rest)

/-- One digit before the point, and the power of ten with a sign and at least two digits. -/
def scientific (digits : List Char) (power : Int) : List Char :=
  let width := Nat.toDigits 10 power.natAbs
  digits.take 1 ++ (if digits.length ≤ 1 then [] else '.' :: digits.drop 1)
    ++ 'e' :: (if power < 0 then '-' else '+') ::
      (List.replicate (2 - width.length) '0' ++ width)

/-- Sizes from 10^-4 to below 10^16 are written with a point only, the others with a power
of ten. -/
def spell (m : Nat) (e : Int) : List Char :=
  if m = 0 then ['0', '.', '0']
  else
    let (n, grid) := shortest m e
    let digits := Nat.toDigits 10 n
    let point : Int := digits.length + grid
    if -4 < point && point ≤ 16 then positional digits point
      else scientific digits (point - 1)

def display : Binary64 → String
  | .nan => "nan"
  | .infinite negative => if negative then "-inf" else "inf"
  | .finite negative m e => String.ofList (if negative then '-' :: spell m e else spell m e)

example : (ofDecimal false 1 (-1)).display = "0.1" := by decide +kernel
example : (ofDecimal true 5 (-324)).display = "-5e-324" := by decide +kernel
example : (ofDecimal false 1 (-7)).display = "1e-07" := by decide +kernel
example : (ofDecimal false 1 16).display = "1e+16" := by decide +kernel
example : (ofDecimal false 1 15).display = "1000000000000000.0" := by decide +kernel

end Questionnaire.Binary64
