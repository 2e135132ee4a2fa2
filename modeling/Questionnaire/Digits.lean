import Questionnaire.Decimal.Power
import Questionnaire.Failure

/-!
# The limit on digits

A whole number with more digits than a limit is not turned into text. The limit can be set
to another number of digits, and 0 lifts it.
-/

namespace Questionnaire

namespace Digits

def standard : Nat := 4300

/-- Has the number no more digits than the limit allows? -/
def fit (limit : Nat) (n : Int) : Bool := limit = 0 || n.natAbs < tenTo limit

def tooMany (limit : Nat) : Failure :=
  .misuse (.content ("Exceeds the limit (" ++ toString limit ++
    " digits) for integer string conversion; "
    ++ "use sys.set_int_max_str_digits() to increase the limit"))

def write (limit : Nat) (n : Int) : Except Failure String :=
  if fit limit n then .ok (toString n) else .error (tooMany limit)

end Digits

namespace Value

mutual

/-- The whole numbers in a value, those in keys among them. -/
def wholes : Value → List Int
  | .int n => [n]
  | .list items => wholesOfItems items
  | .map entries => wholesOfEntries entries
  | .combobox label value => wholes label ++ wholes value
  | _ => []

def wholesOfItems : List Value → List Int
  | [] => []
  | v :: rest => wholes v ++ wholesOfItems rest

def wholesOfEntries : List (Value × Value) → List Int
  | [] => []
  | (k, v) :: rest => wholes k ++ wholes v ++ wholesOfEntries rest

end

/-- No whole number in the value has more digits than the limit allows. -/
def Within (limit : Nat) (v : Value) : Prop := ∀ n ∈ v.wholes, Digits.fit limit n = true

instance (limit : Nat) (v : Value) : Decidable (v.Within limit) :=
  inferInstanceAs (Decidable (∀ n ∈ v.wholes, Digits.fit limit n = true))

end Value

end Questionnaire
