/-!
# Cutting a text at a separator

`splitOn sep text` cuts at every occurrence of the separator, from left to right without
overlap; `join sep` puts the pieces together again.
-/

namespace Questionnaire.Text

/-- The piece before the first separator, and the pieces after it. The number is how many
characters still belong to a separator that has begun. -/
def pieces (sep : List Char) : Nat → List Char → List Char × List (List Char)
  | _, [] => ([], [])
  | skip + 1, _ :: text => pieces sep skip text
  | 0, c :: text =>
      if sep.isPrefixOf (c :: text) then
        let cut := pieces sep (sep.length - 1) text
        ([], cut.1 :: cut.2)
      else
        let cut := pieces sep 0 text
        (c :: cut.1, cut.2)

/-- The pieces of a text between the occurrences of a separator, which is not empty. -/
def splitOn (sep text : List Char) : List (List Char) :=
  let cut := pieces sep 0 text
  cut.1 :: cut.2

def join (sep : List Char) : List (List Char) → List Char
  | [] => []
  | [piece] => piece
  | piece :: rest => piece ++ sep ++ join sep rest

def occursIn (part : List Char) : List Char → Bool
  | [] => part.isEmpty
  | c :: text => part.isPrefixOf (c :: text) || occursIn part text

theorem splitOn_ne_nil (sep text : List Char) : splitOn sep text ≠ [] := by
  simp [splitOn]

end Questionnaire.Text
