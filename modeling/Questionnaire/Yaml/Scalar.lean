import Questionnaire.Failure
import Questionnaire.Yaml.Node

/-!
# Values of scalars

Whole numbers may be binary, octal, hexadecimal or to base 60; timestamps are dates or
moments. A text of the right form can still denote nothing, such as the thirtieth of
February; then reading fails with what is wrong with the value.
-/

namespace Questionnaire.Yaml

/-- Why a document has no value: it is malformed, or a value in it does not exist. -/
inductive Fault where
  | document (fault : DocumentFault)
  | value (misuse : Misuse)

/-- The failure of reading, where the document's own faults are told as the caller says. -/
def Fault.failure (wrap : DocumentFault → Failure) : Fault → Failure
  | .document fault => wrap fault
  | .value misuse => .misuse misuse

namespace Kind

def invalid (message : String) : Except Fault Value := .error (.value (.content message))

/-- The value of digits to a base of at most 16. -/
def inBase (base : Nat) (digits : List Char) : Except Fault Int :=
  let read : Option Nat := digits.foldlM (fun n d => do
    let v ← Json.hexValue? d
    if v < base then some (base * n + v) else none) 0
  match read with
  | some n =>
      if digits.isEmpty then
        .error (.value (.content ("invalid literal for int() with base " ++
          toString base ++ ": ''")))
      else .ok n
  | none =>
      .error (.value (.content ("invalid literal for int() with base " ++
        toString base ++ ": "
        ++ Text.quote (String.ofList digits))))

/-- A whole number without its sign and underscores. -/
def wholeSize (text : List Char) : Except Fault Int :=
  match text with
  | ['0'] => .ok 0
  | '0' :: 'b' :: digits => inBase 2 digits
  | '0' :: 'x' :: digits => inBase 16 digits
  | '0' :: _ => inBase 8 text
  | _ => do
      let groups ← (Text.splitOn [':'] text).mapM (inBase 10)
      return groups.foldl (fun n group => 60 * n + group) 0

/-- A real number without its sign and underscores, in lower case. -/
def realSize (text : List Char) : Except Fault Binary64 :=
  if text = ".inf".toList then .ok (.infinite false)
  else if text = ".nan".toList then .ok .nan
  else do
    let groups ← (Text.splitOn [':'] text).mapM fun group =>
      match Decimal.readEntered? group with
      | some x => Except.ok x
      | none =>
        .error (.value (.content ("could not convert string to float: " ++
          Text.quote (String.ofList group))))
    match groups with
    | [x] => return x
    | _ =>
        let weigh (sum : Binary64 × Int) (x : Binary64) : Binary64 × Int :=
          (sum.1.add (x.mul ((Binary64.ofInt? sum.2).getD (.infinite false))), sum.2 * 60)
        return (groups.reverse.foldl weigh (.zero, 1)).1

/-- A moment of a date; universal time is known if the stamp tells its distance. -/
def moment (stamp : Stamp) (date : Date) (hour minute second : Nat) : Except Fault Value :=
  let problem :=
    if 23 < hour then some "hour must be in 0..23"
    else if 59 < minute then some "minute must be in 0..59"
    else if 59 < second then some "second must be in 0..59"
    else none
  match problem with
  | some message => invalid message
  | none =>
      let digits := (stamp.fraction ++ List.replicate 6 '0').take 6
      .ok (.moment { date := date, hour := hour, minute := minute, second := second
                     micro := Text.digitsValue digits, offset := stamp.offset })

def stampValue (stamp : Stamp) : Except Fault Value :=
  if stamp.offset.any fun minutes => 1440 ≤ minutes.natAbs then
    invalid ("offset must be a timedelta strictly between -timedelta(hours=24) and "
      ++ "timedelta(hours=24), not " ++ Moment.inspectDistance (stamp.offset.getD 0) ++ ".")
  else
    match Date.ofParts stamp.year stamp.month stamp.day, stamp.time with
    | .error fault, _ => invalid (Date.faultMessage "" fault)
    | .ok date, none => .ok (.date date)
    | .ok date, some (hour, minute, second) => moment stamp date hour minute second

def unreadable : Except Fault Value := .error (.document .unreadable)

def value (kind : Kind) (s : String) : Except Fault Value :=
  let digits := s.toList.filter (· ≠ '_')
  let (negative, size) := Decimal.takeSign digits
  match kind with
  | .null => .ok .null
  | .text => .ok (.text s)
  | .bool =>
      (boolNames.find? fun (name, _) => name == s).elim unreadable fun (_, b) =>
      .ok (.bool b)
  | .int => do
      let n ← wholeSize size
      return .int (if negative then -n else n)
  | .float => do
      let x ← realSize (size.map Char.toLower)
      return .float (if negative then x.neg else x)
  | .timestamp => (stamp? s.toList).elim (.error (.value .operation)) stampValue
  | .merge => unreadable
  | .default => unreadable
  | .unknown => unreadable

end Kind

end Questionnaire.Yaml
