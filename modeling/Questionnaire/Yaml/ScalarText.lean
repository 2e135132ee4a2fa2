import Questionnaire.Json.Reader
import Questionnaire.Yaml.Cursor

/-!
# The text of scalars

Plain, quoted and block scalars may go over several lines. Lines are folded: one line break
between them is a space, and of several the first is dropped. Each function gives the text
and the cursor behind it.
-/

namespace Questionnaire.Yaml

/-- The text of one or more line breaks between two lines. -/
def fold (first : Char) (others : List Char) : List Char :=
  (if first ≠ '\n' then [first] else if others.isEmpty then [' '] else []) ++ others

namespace Plain

/-- Does a plain scalar end `k` characters ahead? -/
def stops (inFlow : Bool) (c : Cursor) (k : Nat) : Bool :=
  match c.peekAt k with
  | none => true
  | some ch =>
      isGap ch
        || (ch = ':' && c.endsAt (k + 1) fun d =>
              isGap d || (inFlow && [',', '[', ']', '\x7b', '\x7d'].contains d))
        || (inFlow && [',', '?', '[', ']', '\x7b', '\x7d'].contains ch)

/-- The number of characters before the end of a part. -/
def runLength (inFlow : Bool) (c : Cursor) : Nat → Nat → Nat
  | 0, k => k
  | fuel + 1, k => if stops inFlow c k then k else runLength inFlow c fuel (k + 1)

/-- Spaces and line breaks behind the first one; `none` at the start or end of a document. -/
def moreBreaks : Nat → List Char → Cursor → Option (List Char) × Cursor
  | 0, breaks, c => (some breaks, c)
  | fuel + 1, breaks, c =>
      if c.peek = some ' ' then moreBreaks fuel breaks c.step
      else
        match c.takeBreak with
        | some (b, c) =>
          if c.atSeparator then (none, c) else moreBreaks fuel (breaks ++ [b]) c
        | none => (some breaks, c)

/-- What stands between two parts of a plain scalar, whether a line ended there, and the
cursor. Nothing means that no part follows. -/
def between (c : Cursor) : List Char × Bool × Cursor :=
  let (spaces, c) := c.takeWhile (· = ' ')
  match c.takeBreak with
  | some (first, c) =>
      if c.atSeparator then ([], true, c)
      else
        match moreBreaks c.rest.length [] c with
        | (some others, c) => (fold first others, true, c)
        | (none, c) => ([], true, c)
  | none => (spaces, false, c)

/-- The parts of a plain scalar from here on. The flag tells whether a line ended behind the
last. -/
def parts (inFlow : Bool) (indent : Int) :
    Nat → List Char → Bool → Cursor → List Char × Bool × Cursor
  | 0, _, ended, c => ([], ended, c)
  | fuel + 1, gap, ended, c =>
      let n := if c.peek = some '#' then 0 else runLength inFlow c c.rest.length 0
      if n = 0 then ([], ended, c)
      else
        let part := gap ++ c.rest.take n
        let (gap, ended, c) := between (c.skip n)
        if gap.isEmpty || c.peek = some '#' ||
          (!inFlow && decide ((c.column : Int) < indent)) then
          (part, ended, c)
        else
          let (rest, ended, c) := parts inFlow indent fuel gap ended c
          (part ++ rest, ended, c)

/-- A plain scalar inside a block of the given indentation. The flag tells whether a line
ended behind it. -/
def read (inFlow : Bool) (indent : Int) (c : Cursor) : List Char × Bool × Cursor :=
  parts inFlow (indent + 1) (c.rest.length + 1) [] false c

end Plain

namespace Quoted

def escapes : List (Char × Nat) :=
  [('0', 0), ('a', 7), ('b', 8), ('t', 9), ('\t', 9), ('n', 10), ('v', 11), ('f', 12), ('r', 13),
    ('e', 27), (' ', 32), ('"', 34), ('\\', 92), ('/', 47), ('N', 0x85), ('_', 0xa0),
    ('L', 0x2028),
    ('P', 0x2029)]

def escapeWidth? (c : Char) : Option Nat :=
  if c = 'x' then some 2 else if c = 'u' then some 4 else if c = 'U' then some 8 else none

def hexChar? (digits : List Char) : Option Char := do
  let n ← digits.foldlM (fun n d => do return 16 * n + (← Json.hexValue? d)) 0
  if n < 0x110000 then some (Json.charOf n) else none

/-- Line breaks behind the first one, and the blanks around them. -/
def moreBreaks : Nat → List Char → Cursor → Option (List Char × Cursor)
  | 0, breaks, c => some (breaks, c)
  | fuel + 1, breaks, c =>
      if c.atSeparator then none
      else
        let c := c.skipWhile fun ch => ch = ' ' || ch = '\t'
        match c.takeBreak with
        | some (b, c) => moreBreaks fuel (breaks ++ [b]) c
        | none => some (breaks, c)

/-- The text of an escape, behind the backslash. -/
def escape (c : Cursor) : Option (List Char × Cursor) := do
  let ch ← c.peek
  match escapes.find? (·.1 == ch) with
  | some (_, n) => some ([Char.ofNat n], c.step)
  | none =>
      match escapeWidth? ch with
      | some width =>
          let digits := c.step.rest.take width
          if digits.length = width then do
            let ch ← hexChar? digits
            some ([ch], c.skip (width + 1))
          else none
      | none => do
          let (_, c) ← c.takeBreak
          moreBreaks c.rest.length [] c

/-- Blanks and line breaks inside quotes. -/
def gap (c : Cursor) : Option (List Char × Cursor) :=
  let (blanks, c) := c.takeWhile fun ch => ch = ' ' || ch = '\t'
  match c.peek with
  | none => none
  | some _ =>
      match c.takeBreak with
      | some (first, c) =>
        (moreBreaks c.rest.length [] c).map fun (others, c) => (fold first others, c)
      | none => some (blanks, c)

/-- The text up to the closing quote, and the cursor behind it. -/
def content (double : Bool) : Nat → Cursor → Option (List Char × Cursor)
  | 0, _ => none
  | fuel + 1, c => do
      let go (text : List Char) (c : Cursor) : Option (List Char × Cursor) :=
        (content double fuel c).map fun (rest, c) => (text ++ rest, c)
      match c.rest with
      | [] => none
      | '\'' :: rest =>
          if double then go ['\''] c.step
          else if rest.head? = some '\'' then go ['\''] (c.skip 2)
          else some ([], c.step)
      | '"' :: _ => if double then some ([], c.step) else go ['"'] c.step
      | '\\' :: _ =>
          if double then do
            let (text, c) ← escape c.step
            go text c
          else go ['\\'] c.step
      | ch :: _ =>
          if isGap ch then do
            let (text, c) ← gap c
            go text c
          else go [ch] c.step

def read (double : Bool) (c : Cursor) : Option (List Char × Cursor) :=
  content double (c.rest.length + 1) c.step

end Quoted

namespace Block

inductive Chomp where
  | clip
  | strip
  | keep
  deriving DecidableEq

def chomp? (c : Cursor) : Option Chomp :=
  if c.peek = some '+' then some .keep else if c.peek = some '-' then some .strip else none

/-- The indentation that an indicator gives; zero is refused. -/
def width? (c : Cursor) : Option Nat :=
  c.peek.bind fun ch => if Text.isDigit ch then some (ch.toNat - 48) else none

/-- The indicators behind the mark of a block scalar, in either order. -/
def indicators (c : Cursor) : Option (Chomp × Option Nat × Cursor) := do
  let (chomp, width, c) := match chomp? c with
    | some chomp =>
        (match width? c.step with
          | some n => (chomp, some n, c.skip 2)
          | none => (chomp, none, c.step))
    | none =>
        (match width? c with
          | some n =>
              (match chomp? c.step with
                | some chomp => (chomp, some n, c.skip 2)
                | none => (Chomp.clip, some n, c.step))
          | none => (Chomp.clip, none, c))
  if width = some 0 || !c.endsAt 0 (fun ch => ch = ' ' || isBreak ch) then none
    else some (chomp, width, c)

/-- The rest of a line that holds nothing but a comment. -/
def restOfLine (c : Cursor) : Option Cursor :=
  let c := c.skipWhile (· = ' ')
  let c := if c.peek = some '#' then c.skipWhile fun ch => !isBreak ch else c
  match c.takeBreak with
  | some (_, c) => some c
  | none => if c.rest.isEmpty then some c else none

/-- The line breaks before the first line, and its indentation. -/
def findIndent : Nat → List Char → Nat → Cursor → List Char × Nat × Cursor
  | 0, breaks, deepest, c => (breaks, deepest, c)
  | fuel + 1, breaks, deepest, c =>
      if c.peek = some ' ' then
        let c := c.step
        findIndent fuel breaks (max deepest c.column) c
      else
        match c.takeBreak with
        | some (b, c) => findIndent fuel (breaks ++ [b]) deepest c
        | none => (breaks, deepest, c)

def skipIndent (indent : Nat) : Nat → Cursor → Cursor
  | 0, c => c
  | fuel + 1, c =>
    if c.column < indent && c.peek = some ' ' then skipIndent indent fuel c.step else c

/-- Empty lines, and the indentation behind them. -/
def emptyLines (indent : Nat) : Nat → List Char → Cursor → List Char × Cursor
  | 0, breaks, c => (breaks, c)
  | fuel + 1, breaks, c =>
      let c := skipIndent indent indent c
      match c.takeBreak with
      | some (b, c) => emptyLines indent fuel (breaks ++ [b]) c
      | none => (breaks, c)

/-- The lines of a block scalar: their text, the break behind the last one, and the empty
lines that follow. -/
def lines (folded : Bool) (indent : Nat) :
    Nat → List Char → Cursor → List Char × List Char × List Char × Cursor
  | 0, breaks, c => ([], [], breaks, c)
  | fuel + 1, breaks, c =>
      let startsFull := c.endsAt 0 fun ch => ch ≠ ' ' && ch ≠ '\t'
      let (line, c) := c.takeWhile fun ch => !isBreak ch
      let (ending, c) := match c.takeBreak with
        | some (b, c) => ([b], c)
        | none => ([], c)
      let (others, c) := emptyLines indent (c.rest.length + 1) [] c
      if c.column = indent && !c.rest.isEmpty then
        let joint :=
          if folded && ending = ['\n'] && startsFull &&
              (c.endsAt 0 fun ch => ch ≠ ' ' && ch ≠ '\t') then
            if others.isEmpty then [' '] else []
          else ending
        let (rest, last, tail, c) := lines folded indent fuel others c
        (breaks ++ line ++ joint ++ rest, last, tail, c)
      else (breaks ++ line, ending, others, c)

/-- A block scalar inside a block of the given indentation. -/
def read (folded : Bool) (parent : Int) (c : Cursor) : Option (List Char × Cursor) := do
  let (chomp, width, c) ← indicators c.step
  let c ← restOfLine c
  let least := (max (parent + 1) 1).toNat
  let (breaks, indent, c) := match width with
    | none =>
        let (breaks, deepest, c) := findIndent (c.rest.length + 1) [] 0 c
        (breaks, max least deepest, c)
    | some n =>
        let indent := least + n - 1
        let (breaks, c) := emptyLines indent (c.rest.length + 1) [] c
        (breaks, indent, c)
  let (text, last, tail, c) :=
    if c.column = indent && !c.rest.isEmpty then
      lines folded indent (c.rest.length + 1) breaks c
    else ([], [], breaks, c)
  return (text ++ (if chomp = .strip then [] else last) ++ (if chomp = .keep then tail
    else []), c)

end Block

end Questionnaire.Yaml
