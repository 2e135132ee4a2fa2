/-!
# Blank characters

The characters that are trimmed from the ends of a text, and the trimming itself. Work is
done on lists of characters; `strip` wraps it for strings.
-/

namespace Questionnaire.Text

/-- The white space of Unicode, with the four information separators U+001C to U+001F. -/
def isBlank (c : Char) : Bool :=
  let n := c.toNat
  (9 ≤ n && n ≤ 13) || (0x1c ≤ n && n ≤ 0x20) || n == 0x85 || n == 0xa0 || n == 0x1680
    || (0x2000 ≤ n && n ≤ 0x200a) || n == 0x2028 || n == 0x2029 || n == 0x202f || n == 0x205f
    || n == 0x3000

def trimBy (p : Char → Bool) (text : List Char) : List Char :=
  ((text.dropWhile p).reverse.dropWhile p).reverse

def trim (text : List Char) : List Char := trimBy isBlank text

def strip (s : String) : String := String.ofList (trim s.toList)

end Questionnaire.Text
