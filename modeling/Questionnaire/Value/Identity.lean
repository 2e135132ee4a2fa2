import Questionnaire.Value.Basic

/-!
# Identity of values

`v = w` tells apart what `v == w` does not: `1`, `1.0` and the truth value, and maps whose
entries come in another order. It is decidable.
-/

namespace Questionnaire.Value

mutual

def identical : Value → Value → Bool
  | .null, w => (match w with | .null => true | _ => false)
  | .bool b, w => (match w with | .bool c => b == c | _ => false)
  | .int n, w => (match w with | .int m => n == m | _ => false)
  | .float x, w => (match w with | .float y => decide (x = y) | _ => false)
  | .text s, w => (match w with | .text t => s == t | _ => false)
  | .list items, w =>
      (match w with | .list others => identicalItems items others | _ => false)
  | .map entries, w =>
      (match w with | .map others => identicalEntries entries others | _ => false)
  | .date d, w => (match w with | .date e => decide (d = e) | _ => false)
  | .moment m, w => (match w with | .moment n => decide (m = n) | _ => false)
  | .combobox label value, w =>
      (match w with
        | .combobox label' value' => identical label label' && identical value value'
        | _ => false)

def identicalItems : List Value → List Value → Bool
  | [], others => others.isEmpty
  | v :: rest, others =>
      (match others with
        | [] => false
        | w :: others => identical v w && identicalItems rest others)

def identicalEntries : List (Value × Value) → List (Value × Value) → Bool
  | [], others => others.isEmpty
  | (k, v) :: rest, others =>
      (match others with
        | [] => false
        | (k', v') :: others =>
            identical k k' && identical v v' && identicalEntries rest others)

end

mutual

theorem identical_iff : ∀ v w : Value, identical v w = true ↔ v = w
  | .null, w => by cases w <;> simp [identical]
  | .bool b, w => by cases w <;> simp [identical]
  | .int n, w => by cases w <;> simp [identical]
  | .float x, w => by cases w <;> simp [identical]
  | .text s, w => by cases w <;> simp [identical]
  | .list items, w => by cases w <;> simp [identical, identicalItems_iff items]
  | .map entries, w => by cases w <;> simp [identical, identicalEntries_iff entries]
  | .date d, w => by cases w <;> simp [identical]
  | .moment m, w => by cases w <;> simp [identical]
  | .combobox label value, w => by
      cases w <;> simp [identical, identical_iff label, identical_iff value]

theorem identicalItems_iff :
    ∀ items others : List Value, identicalItems items others = true ↔ items = others
  | [], others => by cases others <;> simp [identicalItems]
  | v :: rest, others => by
      cases others <;> simp [identicalItems, identical_iff v, identicalItems_iff rest]

theorem identicalEntries_iff :
    ∀ entries others : List (Value × Value), identicalEntries entries others = true ↔
      entries = others
  | [], others => by cases others <;> simp [identicalEntries]
  | (k, v) :: rest, others => by
      cases others with
      | nil => simp [identicalEntries]
      | cons entry others =>
        obtain ⟨k', v'⟩ := entry
        simp [identicalEntries, identical_iff k, identical_iff v, identicalEntries_iff rest]

end

instance : DecidableEq Value := fun v w => decidable_of_iff _ (identical_iff v w)

end Questionnaire.Value
