/-!
# Places in a text

A cursor is a place in a text: what is left from there, and the place as an offset, a line and a
column. Line breaks are line feeds; other ways to break a line are turned into them beforehand.
-/

namespace ControlPlane.Yaml

/-- A place in a text. -/
structure Cursor where
  rest : List Char
  offset : Nat := 0
  line : Nat := 0
  column : Nat := 0
  deriving DecidableEq, Repr, Inhabited

/-- Whether a character ends a line, which the end of the text also does. -/
def isEnd : Option Char → Bool
  | none => true
  | some c => c = '\n'

/-- Whether a character is a space or a tab. -/
def isSpace (c : Char) : Bool := c = ' ' || c = '\t'

/-- Whether a character ends a word. -/
def isGap : Option Char → Bool
  | none => true
  | some c => c = '\n' || isSpace c

namespace Cursor

/-- The character at the place. -/
def peek (c : Cursor) : Option Char := c.rest.head?

/-- The character some places further on. -/
def peekAt (c : Cursor) (k : Nat) : Option Char := c.rest[k]?

/-- The next place. -/
def next (c : Cursor) : Cursor :=
  match c.rest with
  | [] => c
  | '\n' :: rest => { rest, offset := c.offset + 1, line := c.line + 1, column := 0 }
  | _ :: rest => { rest, offset := c.offset + 1, line := c.line, column := c.column + 1 }

/-- The place after some characters. -/
def skip : Nat → Cursor → Cursor
  | 0, c => c
  | k + 1, c => c.next.skip k

/-- The longest run of characters with a property, and the place after it. -/
def span (p : Char → Bool) (c : Cursor) : List Char × Cursor :=
  let run := c.rest.takeWhile p
  (run, c.skip run.length)

/-- The place after the longest run of characters with a property. -/
def skipWhile (p : Char → Bool) (c : Cursor) : Cursor := (c.span p).2

/-- Whether the text goes on with some characters that end a word. -/
def startsWord (word : List Char) (c : Cursor) : Bool :=
  c.rest.take word.length = word && isGap (c.peekAt word.length)

/-- Whether the text goes on with a line that separates documents. -/
def atSeparator (c : Cursor) : Bool :=
  c.startsWord ['-', '-', '-'] || c.startsWord ['.', '.', '.']

end Cursor

end ControlPlane.Yaml
