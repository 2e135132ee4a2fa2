/-!
# Writing text by lines

A pen writes a document and knows how far it is on its line, whether a blank stands before
it, and whether nothing but indentation and indicators stands on the line so far.
-/

namespace Questionnaire.Yaml

/-- A pen; `written` is in reverse. -/
structure Pen where
  written : List Char := []
  column : Nat := 0
  afterBlank : Bool := true
  atIndent : Bool := true

namespace Pen

def width : Nat := 80

def text (p : Pen) : String := String.ofList p.written.reverse

def write (part : List Char) (p : Pen) : Pen :=
  { p with written := part.reverse ++ p.written, column := p.column + part.length }

def writeInk (part : List Char) (p : Pen) : Pen :=
  { p.write part with afterBlank := false, atIndent := false }

def newline (lineBreak : Char) (p : Pen) : Pen :=
  { written := lineBreak :: p.written, column := 0, afterBlank := true, atIndent := true }

/-- Go to the indentation, on a new line unless the pen can stand there on this one. -/
def toIndent (indent : Nat) (p : Pen) : Pen :=
  let p :=
    if !p.atIndent || indent < p.column || (p.column = indent && !p.afterBlank) then
      p.newline '\n' else p
  if p.column < indent then
    { p.write (List.replicate (indent - p.column) ' ') with afterBlank := true } else p

/-- Write an indicator; a blank is put before it where one is needed. -/
def indicator (mark : Char) (needsBlank keepsIndent : Bool) (p : Pen) : Pen :=
  let part := if p.afterBlank || !needsBlank then [mark] else [' ', mark]
  { p.write part with afterBlank := false, atIndent := p.atIndent && keepsIndent }

end Pen

end Questionnaire.Yaml
