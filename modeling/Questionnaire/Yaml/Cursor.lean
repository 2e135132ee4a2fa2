/-!
# A place in a document

A cursor is the rest of a document with its line and column. Lines end at a line feed, a
carriage return, both together, or one of the three other line breaks of Unicode.
-/

namespace Questionnaire.Yaml

structure Cursor where
  rest : List Char
  index : Nat := 0
  line : Nat := 0
  column : Nat := 0

def isBreak (c : Char) : Bool :=
  c = '\n' || c = '\r' || c.toNat = 0x85 || c.toNat = 0x2028 || c.toNat = 0x2029

def isGap (c : Char) : Bool := c = ' ' || c = '\t' || isBreak c

def byteOrderMark : Char := '\ufeff'

def isAllowed (c : Char) : Bool :=
  let n := c.toNat
  n = 9 || n = 10 || n = 13 || (0x20 ≤ n && n ≤ 0x7e) || n = 0x85 ||
    (0xa0 ≤ n && n ≤ 0xfffd) || 0x10000 ≤ n

namespace Cursor

def peek (c : Cursor) : Option Char := c.rest.head?

def peekAt (c : Cursor) (k : Nat) : Option Char := c.rest[k]?

/-- Is the end of the document, or a character of the class, `k` characters ahead? -/
def endsAt (c : Cursor) (k : Nat) (p : Char → Bool) : Bool := (c.peekAt k).all p

def step (c : Cursor) : Cursor :=
  match c.rest with
  | [] => c
  | ch :: rest =>
      if isBreak ch && !(ch = '\r' && rest.head? = some '\n') then
        { rest := rest, index := c.index + 1, line := c.line + 1, column := 0 }
      else
        { rest := rest, index := c.index + 1, line := c.line
          column := if ch = byteOrderMark then c.column else c.column + 1 }

def skip : Nat → Cursor → Cursor
  | 0, c => c
  | n + 1, c => skip n c.step

/-- The characters up to the first one that is not of the class, and the cursor there. -/
def takeWhile (p : Char → Bool) (c : Cursor) : List Char × Cursor :=
  let taken := c.rest.takeWhile p
  (taken, skip taken.length c)

def skipWhile (p : Char → Bool) (c : Cursor) : Cursor := (c.takeWhile p).2

/-- The line break at the cursor, if there is one: a line feed, or one of the separators of
Unicode. -/
def takeBreak (c : Cursor) : Option (Char × Cursor) :=
  match c.rest with
  | '\r' :: '\n' :: _ => some ('\n', skip 2 c)
  | ch :: _ =>
      if ch.toNat = 0x2028 || ch.toNat = 0x2029 then some (ch, c.step)
      else if isBreak ch then some ('\n', c.step)
      else none
  | [] => none

/-- Is there a line of three such characters at the cursor, or a line that starts with them
and a gap? -/
def atMarker (ch : Char) (c : Cursor) : Bool :=
  match c.rest with
  | x :: y :: z :: rest => x = ch && y = ch && z = ch && rest.head?.all isGap
  | _ => false

/-- Does a document start or end here? The caller knows that the cursor is at the start of a
line. -/
def atSeparator (c : Cursor) : Bool := c.atMarker '-' || c.atMarker '.'

end Cursor

end Questionnaire.Yaml
