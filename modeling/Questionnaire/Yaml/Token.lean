import Questionnaire.Yaml.ScalarText

/-!
# Tokens

A document is cut into tokens. Indentation becomes explicit: blocks open and close by tokens
of their own. A key is known only by the `:` behind it, so that the token that marks a key
is put in front of tokens already read. Such a key has to lie on one line and within 1024
characters.
-/

namespace Questionnaire.Yaml

inductive Token where
  | directive (name argument : String)
  | documentStart
  | documentEnd
  | blockSequenceStart
  | blockMappingStart
  | blockEnd
  | flowSequenceStart
  | flowSequenceEnd
  | flowMappingStart
  | flowMappingEnd
  | blockEntry
  | flowEntry
  | key
  | value
  | alias (name : String)
  | anchor (name : String)
  | tag (handle : Option String) (suffix : String)
  | scalar (plain : Bool) (text : String)
  deriving DecidableEq, Repr

/-- A place where a key may have begun: how many tokens came before it, and whether it has
to be a key because nothing else fits the indentation. -/
structure Candidate where
  before : Nat
  required : Bool
  index : Nat
  line : Nat
  column : Nat

/-- The state of a lexer. `tokens` are in reverse; `candidates` go from the innermost
brackets outward, each with its depth. -/
structure Lexer where
  cursor : Cursor
  depth : Nat := 0
  indent : Int := -1
  outer : List Int := []
  allowKey : Bool := true
  candidates : List (Nat × Candidate) := []
  tokens : List Token := []
  count : Nat := 0

namespace Lexer

def inFlow (l : Lexer) : Bool := 0 < l.depth

def emit (t : Token) (l : Lexer) : Lexer :=
  { l with tokens := t :: l.tokens, count := l.count + 1 }

def emitAt (before : Nat) (t : Token) (l : Lexer) : Lexer :=
  let later := l.tokens.take (l.count - before)
  { l with tokens := later ++ t :: l.tokens.drop (l.count - before), count := l.count + 1 }

def column (l : Lexer) : Int := l.cursor.column

def isStale (l : Lexer) (k : Candidate) : Bool :=
  k.line ≠ l.cursor.line || 1024 < l.cursor.index - k.index

/-- Give up the candidates that are too far away. -/
def dropStale (l : Lexer) : Option Lexer :=
  if l.candidates.any fun (_, k) => l.isStale k && k.required then none
  else some { l with candidates := l.candidates.filter fun (_, k) => !l.isStale k }

def candidate? (l : Lexer) : Option Candidate :=
  (l.candidates.find? fun (depth, _) => depth = l.depth).map Prod.snd

def dropCandidate (l : Lexer) : Option Lexer :=
  if l.candidate?.any (·.required) then none
  else some { l with candidates := l.candidates.filter fun (depth, _) => depth ≠ l.depth }

def saveCandidate (l : Lexer) : Option Lexer :=
  if l.allowKey then do
    let l ← l.dropCandidate
    let k : Candidate :=
      { before := l.count, required := !l.inFlow && decide (l.indent = l.column)
        index := l.cursor.index
        line := l.cursor.line, column := l.cursor.column }
    return { l with candidates := (l.depth, k) :: l.candidates }
  else some l

/-- Close the blocks that are indented further than a column. -/
def unwind (column : Int) (l : Lexer) : Lexer :=
  if l.inFlow then l
  else
    let rec go : List Int → Lexer → Lexer
      | [], l => l
      | next :: outer, l =>
          if column < l.indent then
            go outer ({ l with indent := next, outer := outer }.emit .blockEnd)
          else l
    go l.outer l

/-- Open a block at a column, if it is indented further. -/
def open? (column : Int) (l : Lexer) : Option Lexer :=
  if l.indent < column then some { l with indent := column, outer := l.indent :: l.outer }
    else none

def forward (n : Nat) (l : Lexer) : Lexer := { l with cursor := l.cursor.skip n }

/-- Blanks, comments and line breaks. A key may begin on a new line. -/
def skipGaps : Nat → Lexer → Lexer
  | 0, l => l
  | fuel + 1, l =>
      let c := l.cursor.skipWhile (· = ' ')
      let c := if c.peek = some '#' then c.skipWhile fun ch => !isBreak ch else c
      match c.takeBreak with
      | some (_, c) =>
        skipGaps fuel { l with cursor := c, allowKey := l.allowKey || !l.inFlow }
      | none => { l with cursor := c }

/-- Is the character at the cursor followed by a gap? -/
def beforeGap (l : Lexer) : Bool := l.cursor.endsAt 1 isGap

def isNameChar (c : Char) : Bool := c.isAlphanum || c = '-' || c = '_'

def directive (l : Lexer) : Option Lexer := do
  let l ← (l.unwind (-1)).dropCandidate
  let (name, c) := l.cursor.step.takeWhile isNameChar
  if name.isEmpty then none
  else
    let c := c.skipWhile (· = ' ')
    let (argument, c) := c.takeWhile fun ch => !isBreak ch
    return { l with cursor := c, allowKey := false }.emit (.directive (String.ofList name)
      (String.ofList argument))

def documentMarker (t : Token) (l : Lexer) : Option Lexer := do
  let l ← (l.unwind (-1)).dropCandidate
  return ({ l with allowKey := false }.forward 3).emit t

def openBracket (t : Token) (l : Lexer) : Option Lexer := do
  let l ← l.saveCandidate
  return ({ l with depth := l.depth + 1, allowKey := true }.forward 1).emit t

def closeBracket (t : Token) (l : Lexer) : Option Lexer := do
  let l ← l.dropCandidate
  if l.depth = 0 then none
  else return ({ l with depth := l.depth - 1, allowKey := false }.forward 1).emit t

def comma (l : Lexer) : Option Lexer := do
  let l ← l.dropCandidate
  return ({ l with allowKey := true }.forward 1).emit .flowEntry

/-- Start a block by a token, if its entries are indented further. -/
def openBlock (t : Token) (l : Lexer) : Lexer :=
  match l.open? l.column with
  | some l => l.emit t
  | none => l

/-- A dash before an entry, or a question mark before a key. -/
def indicator (opening t : Token) (l : Lexer) : Option Lexer :=
  if !l.inFlow && !l.allowKey then none
  else do
    let l := if l.inFlow then l else l.openBlock opening
    let l ← l.dropCandidate
    return (l.forward 1).emit t

def dash (l : Lexer) : Option Lexer := do
  let l ← l.indicator .blockSequenceStart .blockEntry
  return { l with allowKey := true }

def questionMark (l : Lexer) : Option Lexer := do
  let l ← l.indicator .blockMappingStart .key
  return { l with allowKey := !l.inFlow }

/-- A colon: what began at the candidate was a key. -/
def colonAfter (k : Candidate) (l : Lexer) : Lexer :=
  let l := { l with candidates := l.candidates.filter fun (depth, _) => depth ≠ l.depth }
  let l := l.emitAt k.before .key
  let l :=
    if l.inFlow then l
    else
      match l.open? k.column with
      | some l => l.emitAt k.before .blockMappingStart
      | none => l
  ({ l with allowKey := false }.forward 1).emit .value

def colon (l : Lexer) : Option Lexer :=
  match l.candidate? with
  | some k => some (colonAfter k l)
  | none => do
      let l ← l.indicator .blockMappingStart .value
      return { l with allowKey := !l.inFlow }

def endsName (c : Char) : Bool :=
  isGap c || ['?', ':', ',', ']', '\x7d', '%', '@', '\x60'].contains c

def anchor (t : String → Token) (l : Lexer) : Option Lexer := do
  let l ← l.saveCandidate
  let (name, c) := l.cursor.step.takeWhile isNameChar
  if name.isEmpty || !c.endsAt 0 endsName then none
  else return { l with cursor := c, allowKey := false }.emit (t (String.ofList name))

def isTagChar (c : Char) : Bool :=
  c.isAlphanum || ['-', ';', '/', '?', ':', '@', '&', '=', '+', '$', ',', '_', '.', '!',
    '~', '*', '\'', '(', ')', '[', ']', '%'].contains c

/-- The handle of a tag and its length: `!`, `!!` or a name between two marks. -/
def tagHandle (c : Cursor) : String × Nat :=
  let (name, after) := c.step.takeWhile isNameChar
  if after.peek = some '!' then (String.ofList ('!' :: name ++ ['!']), name.length + 2)
    else ("!", 1)

def readTag (c : Cursor) : Option (Option String × String × Cursor) :=
  match c.peekAt 1 with
  | none => some (none, "!", c.step)
  | some '<' =>
      let (suffix, c) := (c.skip 2).takeWhile isTagChar
      if suffix.isEmpty || c.peek ≠ some '>' then none
        else some (none, String.ofList suffix, c.step)
  | some ch =>
      if isGap ch then some (none, "!", c.step)
      else
        let (handle, length) := tagHandle c
        let (suffix, c) := (c.skip length).takeWhile isTagChar
        if suffix.isEmpty then none else some (some handle, String.ofList suffix, c)

def tag (l : Lexer) : Option Lexer := do
  let l ← l.saveCandidate
  let (handle, suffix, c) ← readTag l.cursor
  if c.endsAt 0 fun ch => ch = ' ' || isBreak ch then
    return { l with cursor := c, allowKey := false }.emit (.tag handle suffix)
  else none

def blockScalar (folded : Bool) (l : Lexer) : Option Lexer := do
  let l ← { l with allowKey := true }.dropCandidate
  let (text, c) ← Block.read folded l.indent l.cursor
  return { l with cursor := c }.emit (.scalar false (String.ofList text))

def quoted (double : Bool) (l : Lexer) : Option Lexer := do
  let l ← l.saveCandidate
  let (text, c) ← Quoted.read double l.cursor
  return { l with cursor := c, allowKey := false }.emit (.scalar false (String.ofList text))

def plain (l : Lexer) : Option Lexer := do
  let l ← l.saveCandidate
  let (text, ended, c) := Plain.read l.inFlow l.indent l.cursor
  return { l with cursor := c, allowKey := ended }.emit (.scalar true (String.ofList text))

/-- The characters that mean something else at the start of a token. -/
def indicators : List Char :=
  ['-', '?', ':', ',', '[', ']', '\x7b', '\x7d', '#', '&', '*', '!', '|', '>', '\'', '"',
    '%', '@', '\x60']

/-- Can a plain scalar begin with the character at the cursor? -/
def startsPlain (l : Lexer) (ch : Char) : Bool :=
  (!isGap ch && !indicators.contains ch)
    || (!l.beforeGap && (ch = '-' || (!l.inFlow && (ch = '?' || ch = ':'))))

def next (l : Lexer) (ch : Char) : Option Lexer :=
  let atStart := l.cursor.column = 0
  if ch = '%' && atStart then l.directive
  else if atStart && l.cursor.atMarker '-' then l.documentMarker .documentStart
  else if atStart && l.cursor.atMarker '.' then l.documentMarker .documentEnd
  else if ch = '[' then l.openBracket .flowSequenceStart
  else if ch = '\x7b' then l.openBracket .flowMappingStart
  else if ch = ']' then l.closeBracket .flowSequenceEnd
  else if ch = '\x7d' then l.closeBracket .flowMappingEnd
  else if ch = ',' then l.comma
  else if ch = '-' && l.beforeGap then l.dash
  else if ch = '?' && (l.inFlow || l.beforeGap) then l.questionMark
  else if ch = ':' && (l.inFlow || l.beforeGap) then l.colon
  else if ch = '*' then l.anchor .alias
  else if ch = '&' then l.anchor .anchor
  else if ch = '!' then l.tag
  else if ch = '|' && !l.inFlow then l.blockScalar false
  else if ch = '>' && !l.inFlow then l.blockScalar true
  else if ch = '\'' then l.quoted false
  else if ch = '"' then l.quoted true
  else if l.startsPlain ch then l.plain
  else none

def run : Nat → Lexer → Option (List Token)
  | 0, _ => none
  | fuel + 1, l => do
      let l := skipGaps (l.cursor.rest.length + 1) l
      let l ← l.dropStale
      let l := l.unwind l.column
      match l.cursor.peek with
      | none => return (← (l.unwind (-1)).dropCandidate).tokens.reverse
      | some ch => run fuel (← l.next ch)

end Lexer

namespace Token

/-- The tokens of a document; `none` if it holds what is no token or a character that is not
allowed. -/
def ofDocument? (s : String) : Option (List Token) :=
  let text := s.toList
  if text.all isAllowed then
    let c : Cursor := { rest := text }
    let c := if c.peek = some byteOrderMark then c.step else c
    Lexer.run (2 * text.length + 2) { cursor := c }
  else none

end Token

end Questionnaire.Yaml
