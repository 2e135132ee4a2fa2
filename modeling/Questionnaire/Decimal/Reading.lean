import Questionnaire.Decimal.Binary64
import Questionnaire.Text.Blank
import Questionnaire.Text.Digit

/-!
# Reading decimal numbers

A sign, digits of any script with at most one point among them, and a power of ten: the
whole text or nothing. What people enter may also have blanks around it, underscores between
digits, and the names of the numbers that are not finite.
-/

namespace Questionnaire.Decimal

/-- A sign in front, and the rest; the flag tells a minus. -/
def takeSign : List Char → Bool × List Char
  | '-' :: rest => (true, rest)
  | '+' :: rest => (false, rest)
  | text => (false, text)

/-- The power of ten behind the digits: nothing, or `e` with a signed whole number. -/
def readPower? : List Char → Option Int
  | [] => some 0
  | c :: rest =>
      if c = 'e' || c = 'E' then
        let (negative, digits) := takeSign rest
        if !digits.isEmpty && digits.all Text.isDecimal then
          let n : Int := Text.digitsValue digits
          some (if negative then -n else n)
        else none
      else none

/-- The digits after a point, if there is one, and the rest. -/
def takeFraction : List Char → List Char × List Char
  | '.' :: rest => rest.span Text.isDecimal
  | text => ([], text)

/-- The floating-point number nearest to a decimal. -/
def read? (text : List Char) : Option Binary64 :=
  let (negative, rest) := takeSign text
  let (whole, rest) := rest.span Text.isDecimal
  let (fraction, rest) := takeFraction rest
  if whole.isEmpty && fraction.isEmpty then none
  else
    (readPower? rest).map fun power =>
      Binary64.ofDecimal negative (Text.digitsValue (whole ++ fraction))
        (power - fraction.length)

def isMargin (c : Char) : Bool :=
  c = ' ' || (9 ≤ c.toNat && c.toNat ≤ 13) || (127 ≤ c.toNat && Text.isBlank c)

/-- Drop the underscores; each has to stand between two digits. The flag tells whether a
digit came last. -/
def dropUnderscores? : Bool → List Char → Option (List Char)
  | _, [] => some []
  | afterDigit, c :: rest =>
      if c = '_' then
        if afterDigit && rest.head?.any Text.isDecimal then dropUnderscores? false rest else none
      else (dropUnderscores? (Text.isDecimal c) rest).map (c :: ·)

/-- A number that is not finite, by its name. -/
def readName? (text : List Char) : Option Binary64 :=
  let (negative, rest) := takeSign text
  let name := rest.map Char.toLower
  if name = "inf".toList || name = "infinity".toList then some (.infinite negative)
  else if name = "nan".toList then some .nan
  else none

def readEntered? (text : List Char) : Option Binary64 :=
  let text := Text.trimBy isMargin text
  match readName? text with
  | some x => some x
  | none => (dropUnderscores? false text).bind read?

end Questionnaire.Decimal
