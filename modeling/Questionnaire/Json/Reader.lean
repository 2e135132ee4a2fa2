import Questionnaire.Decimal.Reading
import Questionnaire.Table
import Questionnaire.Value.Basic

/-!
# Reading JSON

Standard JSON, and `NaN`, `Infinity` and `-Infinity` besides. A number with a point or a
power of ten is a floating-point number, another one is whole. Of entries with one key, the
first gives the place and the last the value.
-/

namespace Questionnaire.Json

def isSpace (c : Char) : Bool := c = ' ' || c = '\t' || c = '\n' || c = '\r'

def skipSpace (text : List Char) : List Char := text.dropWhile isSpace

def after? (lead text : List Char) : Option (List Char) :=
  if lead.isPrefixOf text then some (text.drop lead.length) else none

def hexValue? (c : Char) : Option Nat :=
  if '0' ≤ c && c ≤ '9' then some (c.toNat - 48)
  else if 'a' ≤ c && c ≤ 'f' then some (c.toNat - 87)
  else if 'A' ≤ c && c ≤ 'F' then some (c.toNat - 55)
  else none

def hexValues? (a b c d : Char) : Option Nat := do
  return (((← hexValue? a) * 16 + (← hexValue? b)) * 16 + (← hexValue? c)) * 16 +
    (← hexValue? d)

def escaped? (c : Char) : Option Nat :=
  if c = '"' || c = '\\' || c = '/' then some c.toNat
  else if c = 'b' then some 8
  else if c = 'f' then some 12
  else if c = 'n' then some 10
  else if c = 'r' then some 13
  else if c = 't' then some 9
  else none

/-- The characters of a text up to its closing quote, as numbers, and the rest behind it.
Escapes of four digits can give halves of a character. -/
def readUnits : List Char → Option (List Nat × List Char)
  | [] => none
  | '"' :: rest => some ([], rest)
  | '\\' :: 'u' :: a :: b :: c :: d :: rest => do
      let unit ← hexValues? a b c d
      let (units, rest) ← readUnits rest
      return (unit :: units, rest)
  | '\\' :: c :: rest => do
      let unit ← escaped? c
      let (units, rest) ← readUnits rest
      return (unit :: units, rest)
  | c :: rest =>
      if c.toNat < 32 || c = '\\' then none
      else (readUnits rest).map fun (units, rest) => (c.toNat :: units, rest)

def isHigh (unit : Nat) : Bool := 0xd800 ≤ unit && unit < 0xdc00

def isLow (unit : Nat) : Bool := 0xdc00 ≤ unit && unit < 0xe000

/-- The character of a number; a half by itself gives the replacement character. -/
def charOf (unit : Nat) : Char :=
  if isHigh unit || isLow unit then '\ufffd' else Char.ofNat unit

/-- Put the halves of characters together. -/
def joinUnits : List Nat → List Char
  | [] => []
  | [unit] => [charOf unit]
  | high :: low :: rest =>
      if isHigh high && isLow low then
        Char.ofNat (0x10000 + (high - 0xd800) * 0x400 + (low - 0xdc00)) :: joinUnits rest
      else charOf high :: joinUnits (low :: rest)

/-- A text behind its opening quote, and the rest. -/
def readText (text : List Char) : Option (String × List Char) :=
  (readUnits text).map fun (units, rest) => (String.ofList (joinUnits units), rest)

/-- The whole part of a number: zero, or digits that do not start with zero. -/
def readWhole : List Char → Option (List Char × List Char)
  | '0' :: rest => some (['0'], rest)
  | text =>
      let (digits, rest) := text.span Text.isDigit
      if digits.isEmpty then none else some (digits, rest)

/-- A point with digits behind it, or nothing. -/
def readFraction : List Char → List Char × List Char
  | '.' :: rest =>
      let (digits, after) := rest.span Text.isDigit
      if digits.isEmpty then ([], '.' :: rest) else ('.' :: digits, after)
  | text => ([], text)

/-- A power of ten, or nothing. -/
def readPower (text : List Char) : List Char × List Char :=
  match text with
  | [] => ([], text)
  | e :: rest =>
      if e = 'e' || e = 'E' then
        let (sign, rest) := match rest with
          | '+' :: rest => (['+'], rest)
          | '-' :: rest => (['-'], rest)
          | _ => ([], rest)
        let (digits, after) := rest.span Text.isDigit
        if digits.isEmpty then ([], text) else (e :: sign ++ digits, after)
      else ([], text)

def readNumber (text : List Char) : Option (Value × List Char) := do
  let (sign, rest) := match text with
    | '-' :: rest => (['-'], rest)
    | _ => ([], text)
  let (whole, rest) ← readWhole rest
  let (fraction, rest) := readFraction rest
  let (power, rest) := readPower rest
  if fraction.isEmpty && power.isEmpty then
    let n : Int := Text.digitsValue whole
    return (.int (if sign.isEmpty then n else -n), rest)
  else
    return (.float (← Decimal.read? (sign ++ whole ++ fraction ++ power)), rest)

def readScalar (text : List Char) : Option (Value × List Char) :=
  let named := [("null", Value.null), ("true", .bool true), ("false", .bool false),
    ("NaN", .float .nan),
    ("Infinity", .float (.infinite false)), ("-Infinity", .float (.infinite true))]
  match named.findSome? fun (name, v) => (after? name.toList text).map fun rest =>
    (v, rest) with
  | some found => some found
  | none => readNumber text

mutual

def readValue : Nat → List Char → Option (Value × List Char)
  | 0, _ => none
  | fuel + 1, text =>
      match text with
      | '"' :: rest => (readText rest).map fun (s, rest) => (.text s, rest)
      | '[' :: rest =>
          (match skipSpace rest with
            | ']' :: rest => some (.list [], rest)
            | rest => (readItems fuel rest).map fun (items, rest) => (.list items, rest))
      | '\x7b' :: rest =>
          (match skipSpace rest with
            | '\x7d' :: rest => some (.map [], rest)
            | rest =>
              (readEntries fuel rest).map fun (entries, rest) =>
              (.map (Table.ofEntries entries), rest))
      | _ => readScalar text

/-- The elements of a list up to its end, and the rest. -/
def readItems : Nat → List Char → Option (List Value × List Char)
  | 0, _ => none
  | fuel + 1, text => do
      let (v, rest) ← readValue fuel text
      match skipSpace rest with
      | ']' :: rest => return ([v], rest)
      | ',' :: rest =>
          let (items, rest) ← readItems fuel (skipSpace rest)
          return (v :: items, rest)
      | _ => none

/-- The entries of a map up to its end, and the rest. -/
def readEntries : Nat → List Char → Option (List (Value × Value) × List Char)
  | 0, _ => none
  | fuel + 1, text =>
      match text with
      | '"' :: rest => do
          let (key, rest) ← readText rest
          let rest ← after? [':'] (skipSpace rest)
          let (v, rest) ← readValue fuel (skipSpace rest)
          match skipSpace rest with
          | '\x7d' :: rest => return ([(.text key, v)], rest)
          | ',' :: rest =>
              let (entries, rest) ← readEntries fuel (skipSpace rest)
              return ((.text key, v) :: entries, rest)
          | _ => none
      | _ => none

end

/-- The value of a document; `none` if it is not JSON. -/
def read? (s : String) : Option Value := do
  let text := s.toList
  let (v, rest) ← readValue (text.length + 1) (skipSpace text)
  if (skipSpace rest).isEmpty then some v else none

end Questionnaire.Json
