import Questionnaire.Text.Quoted
import Questionnaire.Yaml.Node
import Questionnaire.Yaml.Pen

/-!
# How scalars are written

A text is written plain if it then reads as the same text, otherwise between single quotes,
and between double quotes if it holds characters that have to be escaped. Long lines are
broken at single spaces, except in keys.
-/

namespace Questionnaire.Yaml

def isLineEnd (c : Char) : Bool :=
  c = '\n' || c.toNat = 0x85 || c.toNat = 0x2028 || c.toNat = 0x2029

def isShown (c : Char) : Bool :=
  let n := c.toNat
  c = '\n' || (0x20 ≤ n && n ≤ 0x7e) || n = 0x85
    || (((0xa0 ≤ n && n ≤ 0xfffd) || (0x10000 ≤ n && n < 0x10ffff)) && c ≠ byteOrderMark)

/-- Does an indicator stand in the text where it would be read as one? The character before
is given; none at the start. -/
def hasIndicator : Option Char → List Char → Bool
  | _, [] => false
  | before, c :: rest =>
      let gapFollows := rest.head?.all isGap
      (match before with
        | none =>
            ['#', ',', '[', ']', '\x7b', '\x7d', '&', '*', '!', '|', '>', '\'', '"', '%',
              '@', '\x60'].contains c
              || ((c = '?' || c = ':' || c = '-') && gapFollows)
        | some b => (c = ':' && gapFollows) || (c = '#' && isGap b))
        || hasIndicator (some c) rest

/-- Does the first class follow the second one somewhere in the text? -/
def hasPair (p q : Char → Bool) : List Char → Bool
  | c :: d :: rest => (p c && q d) || hasPair p q (d :: rest)
  | _ => false

def allowsPlain (text : List Char) : Bool :=
  let isEdge (c : Char) : Bool := c = ' ' || isLineEnd c
  !(text.head?.any isEdge) && !(text.getLast?.any isEdge) && !text.any isLineEnd &&
    text.all isShown
    && !hasIndicator none text && !("---".toList.isPrefixOf text) &&
      !("...".toList.isPrefixOf text)

def allowsSingle (text : List Char) : Bool :=
  text.all isShown && !hasPair isLineEnd (· = ' ') text && !hasPair (· = ' ') isLineEnd text

inductive ScalarStyle where
  | plain
  | single
  | double
  deriving DecidableEq, Repr

/-- The style of a scalar; `readsBack` tells whether it has its meaning without quotes. -/
def ScalarStyle.choose (isKey readsBack : Bool) (text : List Char) : ScalarStyle :=
  let broken := isKey && text.any isLineEnd
  if readsBack && !broken && (text.isEmpty || allowsPlain text) then .plain
  else if allowsSingle text && !broken then .single
  else .double

/-- Cut a text into runs of characters of one class. -/
def runs (cls : Char → Nat) : List Char → List (Nat × List Char)
  | [] => []
  | c :: rest =>
      match runs cls rest with
      | (k, run) :: others =>
          if cls c = k then (k, c :: run) :: others else (cls c, [c]) :: (k, run) :: others
      | [] => [(cls c, [c])]

/-- Spaces are 1, line ends 2, everything else 0. -/
def classOf (c : Char) : Nat := if c = ' ' then 1 else if isLineEnd c then 2 else 0

namespace Pen

/-- Is it time to break the line at a run of spaces? -/
def breaksAt (split : Bool) (spaces : List Char) (p : Pen) : Bool :=
  split && spaces.length = 1 && width < p.column

def plainRuns (split : Bool) (indent : Nat) : List (Nat × List Char) → Pen → Pen
  | [], p => p
  | (kind, run) :: rest, p =>
      let p :=
        if kind = 1 && p.breaksAt split run then
          { p.toIndent indent with afterBlank := false, atIndent := false }
        else p.write run
      plainRuns split indent rest p

def writePlain (split : Bool) (indent : Nat) (text : List Char) (p : Pen) : Pen :=
  if text.isEmpty then p
  else
    let p := if p.afterBlank then p else p.write [' ']
    plainRuns split indent (runs classOf text)
      { p with afterBlank := false, atIndent := false }

/-- The line ends of a quoted text; the first line feed is doubled. -/
def writeLineEnds (indent : Nat) (run : List Char) (p : Pen) : Pen :=
  let p := if run.head? = some '\n' then p.newline '\n' else p
  (run.foldl (fun p c => p.newline c) p).toIndent indent

def singleRuns (split : Bool) (indent : Nat) : Bool → List (Nat × List Char) → Pen → Pen
  | _, [], p => p
  | first, (kind, run) :: rest, p =>
      let p :=
        if kind = 1 then
          if !first && !rest.isEmpty && p.breaksAt split run then p.toIndent indent
            else p.write run
        else if kind = 2 then p.writeLineEnds indent run
        else p.write (run.flatMap fun c => if c = '\'' then ['\'', '\''] else [c])
      singleRuns split indent false rest p

def writeSingle (split : Bool) (indent : Nat) (text : List Char) (p : Pen) : Pen :=
  (singleRuns split indent true (runs classOf text) (p.indicator '\'' true false)).indicator
  '\'' false false

def shortEscapes : List (Nat × Char) :=
  [(0, '0'), (7, 'a'), (8, 'b'), (9, 't'), (10, 'n'), (11, 'v'), (12, 'f'), (13, 'r'),
    (27, 'e'), (34, '"'),
    (92, '\\'), (0x85, 'N'), (0xa0, '_'), (0x2028, 'L'), (0x2029, 'P')]

/-- Is a character written as it is between double quotes? -/
def isBare (c : Char) : Bool :=
  let n := c.toNat
  c ≠ '"' && c ≠ '\\' && c ≠ byteOrderMark && n ≠ 0x2028 && n ≠ 0x2029
    && ((0x20 ≤ n && n ≤ 0x7e) || (0xa0 ≤ n && n ≤ 0xfffd))

def doubleEscape (c : Char) : List Char :=
  let n := c.toNat
  match shortEscapes.find? fun (code, _) => code = n with
  | some (_, short) => ['\\', short]
  | none =>
      if n ≤ 0xff then '\\' :: 'x' :: (Text.hexDigits 2 n).map Char.toUpper
      else if n ≤ 0xffff then '\\' :: 'u' :: (Text.hexDigits 4 n).map Char.toUpper
      else '\\' :: 'U' :: (Text.hexDigits 8 n).map Char.toUpper

/-- Break the line inside double quotes: a backslash takes the line end back, and another
one protects the space that comes first on the next line. -/
def breakDouble (indent : Nat) (startsBlank : Bool) (p : Pen) : Pen :=
  let p := { (p.write ['\\']).toIndent indent with afterBlank := false, atIndent := false }
  if startsBlank then p.write ['\\'] else p

/-- The characters between double quotes. `pending` are those that are not written yet; the
line can be broken before a space, or behind an escape. -/
def doubleChars (split : Bool) (indent : Nat) : Bool → List Char → List Char → Pen → Pen
  | _, pending, [], p => p.write pending
  | first, pending, c :: rest, p =>
      let bare := isBare c
      let p := if bare then p else p.write (pending ++ doubleEscape c)
      let waiting := if bare then pending else []
      let breaks := split && !first && !rest.isEmpty && (c = ' ' || waiting.isEmpty)
        && (if bare then width < p.column + waiting.length else width + 1 < p.column)
      let next := if bare then c :: [] else []
      if breaks then
        let startsBlank := if bare then c = ' ' else rest.head? = some ' '
        doubleChars split indent false next rest
          ((p.write waiting).breakDouble indent startsBlank)
      else doubleChars split indent false (waiting ++ next) rest p

def writeDouble (split : Bool) (indent : Nat) (text : List Char) (p : Pen) : Pen :=
  (doubleChars split indent true [] text (p.indicator '"' true false)).indicator '"' false false

def writeScalar (style : ScalarStyle) (split : Bool) (indent : Nat) (text : List Char)
    (p : Pen) : Pen :=
  match style with
  | .plain => p.writePlain split indent text
  | .single => p.writeSingle split indent text
  | .double => p.writeDouble split indent text

end Pen

end Questionnaire.Yaml
