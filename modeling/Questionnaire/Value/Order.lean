import Questionnaire.Value.Basic

/-!
# The order of values

Numbers and truth values are ordered by size, texts by code points, dates and moments by
time, lists by their first difference. Values of different kinds have no order, and sorting
them fails.
-/

namespace Questionnaire.Value

mutual

/-- Is the first value below the second? `none` if they cannot be compared. -/
def below? : Value → Value → Option Bool
  | .list items, w => (match w with | .list others => itemsBelow? items others | _ => none)
  | v, w =>
      match v.quantity?, w.quantity? with
      | some p, some q => some (p.less q)
      | none, none =>
          (match v, w with
            | .text s, .text t => some (decide (s < t))
            | .date d, .date e => some (d.before e)
            | .moment m, .moment n =>
                if m.offset.isSome = n.offset.isSome then some (decide (m.clock < n.clock))
                  else none
            | _, _ => none)
      | _, _ => none

def itemsBelow? : List Value → List Value → Option Bool
  | [], others => some (!others.isEmpty)
  | v :: rest, others =>
      (match others with
        | [] => some false
        | w :: others => if same v w then itemsBelow? rest others else below? v w)

end

/-- Put an element behind those that are not above it. -/
def insertSorted {α : Type} (value : α → Value) (a : α) : List α → Option (List α)
  | [] => some [a]
  | b :: rest =>
      (below? (value a) (value b)).bind fun above =>
        if above then some (a :: b :: rest) else (insertSorted value a rest).map (b :: ·)

def comparable (values : List Value) : Bool :=
  match values with
  | [] => true
  | v :: rest => rest.all (fun w => (below? w v).isSome) && comparable rest

/-- The elements in increasing order of their values, equal ones in the order given; `none`
if two of them cannot be compared. -/
def sortOn? {α : Type} (value : α → Value) (elements : List α) : Option (List α) :=
  if comparable (elements.map value) then
    elements.foldlM (fun sorted a => insertSorted value a sorted) []
  else none

end Questionnaire.Value
