import ControlPlane.Number.Literal
import ControlPlane.Yaml.Cursor

/-!
# The forms of scalars

A scalar is written plain, between quotes, or as a block of lines. Single line breaks inside the
first two forms, and in a folded block, stand for a space; of several, the first stands for nothing.
The number of steps of every reader is bounded by its first argument; the length of the text is
enough.
-/

namespace ControlPlane.Yaml

/-- What a number of line breaks after the first one stands for. -/
def folded (further : Nat) : List Char :=
  if further = 0 then [' '] else List.replicate further '\n'

/-! ## Quoted scalars -/

/-- The further line breaks after one within quotes, and the place of the next word. A line that
separates documents may not come in between. -/
def quotedBreaks : (steps : Nat) → Cursor → Option (Nat × Cursor)
  | 0, _ => none
  | steps + 1, c =>
    if c.atSeparator then none
    else
      let c := c.skipWhile isSpace
      if c.peek = some '\n' then
        (quotedBreaks steps c.next).map fun (n, c) => (n + 1, c)
      else some (0, c)

/-- The white space at a place within quotes, as what it stands for. -/
def quotedSpace (steps : Nat) (c : Cursor) : Option (List Char × Cursor) :=
  let (spaces, c) := c.span isSpace
  match c.peek with
  | none => none
  | some '\n' => (quotedBreaks steps c.next).map fun (n, c) => (folded n, c)
  | some _ => some (spaces, c)

/-- A scalar between single quotes, from behind the first one. A quote inside is doubled. -/
def singleQuoted : (steps : Nat) → Cursor → Option (List Char × Cursor)
  | 0, _ => none
  | steps + 1, c =>
    match c.rest with
    | [] => none
    | '\'' :: '\'' :: _ => (singleQuoted steps (c.skip 2)).map fun (s, c) => ('\'' :: s, c)
    | '\'' :: _ => some ([], c.next)
    | ch :: _ =>
      if ch = '\n' ∨ isSpace ch then do
        let (space, c) ← quotedSpace steps c
        let (s, c) ← singleQuoted steps c
        return (space ++ s, c)
      else (singleQuoted steps c.next).map fun (s, c) => (ch :: s, c)

/-- The characters that a letter behind a backslash stands for. -/
def escapes : List (Char × Char) :=
  [('0', '\x00'), ('a', '\x07'), ('b', '\x08'), ('t', '\t'), ('\t', '\t'), ('n', '\n'),
   ('v', '\x0b'), ('f', '\x0c'), ('r', '\r'), ('e', '\x1b'), (' ', ' '), ('"', '"'), ('/', '/'),
   ('\\', '\\'), ('N', '\u0085'), ('_', '\u00a0'), ('L', '\u2028'), ('P', '\u2029')]

/-- The letters that introduce a code point, with its number of hexadecimal digits. -/
def codeLengths : List (Char × Nat) := [('x', 2), ('u', 4), ('U', 8)]

/-- The character with a code point in a number of hexadecimal digits. -/
def codePoint? (length : Nat) (c : Cursor) : Option Char :=
  let digits := c.rest.take length
  let n := Literal.digitsValue 16 digits
  if digits.length = length ∧ digits.all Literal.isHexDigit ∧ n.isValidChar then
    some (Char.ofNat n)
  else none

/-- What stands behind a backslash: a character, or a line break that stands for nothing. -/
def escaped (steps : Nat) (c : Cursor) : Option (List Char × Cursor) := do
  let letter ← c.peek
  match escapes.lookup letter, codeLengths.lookup letter with
  | some ch, _ => return ([ch], c.next)
  | none, some length => return ([← codePoint? length c.next], c.skip (length + 1))
  | none, none =>
    if letter = '\n' then
      let (n, c) ← quotedBreaks steps c.next
      return (List.replicate n '\n', c)
    else none

/-- A scalar between double quotes, from behind the first one. -/
def doubleQuoted : (steps : Nat) → Cursor → Option (List Char × Cursor)
  | 0, _ => none
  | steps + 1, c => do
    let ch ← c.peek
    if ch = '"' then return ([], c.next)
    else
      let (part, c) ←
        if ch = '\\' then escaped steps c.next
        else if ch = '\n' ∨ isSpace ch then quotedSpace steps c
        else some ([ch], c.next)
      let (s, c) ← doubleQuoted steps c
      return (part ++ s, c)

/-! ## Plain scalars -/

/-- Whether a character ends a brackets' element. -/
def isFlowIndicator (c : Char) : Bool := c ∈ [',', '[', ']', '{', '}']

/-- The longest run of characters of a plain scalar. A colon ends it before a gap. -/
def plainWord (inFlow : Bool) : List Char → List Char
  | [] => []
  | c :: rest =>
    if isGap (some c) || (c = ':' && isGap rest.head?) || (inFlow && isFlowIndicator c) then []
    else c :: plainWord inFlow rest

/-- Line breaks after one in a plain scalar, how many of them further ones, and the place of the
next word; nothing if a line comes that separates documents. -/
def plainBreaks : (steps : Nat) → Cursor → Option Nat × Cursor
  | 0, c => (none, c)
  | steps + 1, c =>
    if c.atSeparator then (none, c)
    else
      let c := c.skipWhile (· = ' ')
      if c.peek = some '\n' then
        let (n, c) := plainBreaks steps c.next
        (n.map (· + 1), c)
      else (some 0, c)

/-- The space behind a word of a plain scalar, as what it stands for. It stands for nothing where
the scalar ends. -/
def plainSpace (steps : Nat) (c : Cursor) : List Char × Cursor :=
  let (spaces, c) := c.span (· = ' ')
  if c.peek = some '\n' then
    let (n, c) := plainBreaks steps c.next
    ((n.map folded).getD [], c)
  else (spaces, c)

/-- A plain scalar, whose further lines start at a column or right of it: its text, whether a line
ended behind its last word, and the place of what follows. -/
def plain (inFlow : Bool) (column : Nat) : (steps : Nat) → Cursor → List Char × Bool × Cursor
  | 0, c => ([], false, c)
  | steps + 1, c =>
    let word := plainWord inFlow c.rest
    let (space, after) := plainSpace steps (c.skip word.length)
    if space = [] ∨ after.peek = some '#' ∨ (!inFlow ∧ after.column < column) ∨
        plainWord inFlow after.rest = [] then (word, c.line < after.line, after)
    else
      let (s, c) := plain inFlow column steps after
      (word ++ space ++ s, c)

/-! ## Block scalars -/

/-- What becomes of the line breaks at the end of a block. -/
inductive Chomping
  | strip
  | clip
  | keep
  deriving DecidableEq, Repr

/-- What the head of a block says: the chomping and the indentation, relative to the parent. -/
structure BlockHead where
  chomping : Chomping := .clip
  indentation : Option Nat := none

/-- Reads the indicators of a block, each at most once and in any order. -/
def BlockHead.read (c : Cursor) : Option (BlockHead × Cursor) :=
  let chomping? (c : Cursor) : Option Chomping :=
    if c.peek = some '+' then some .keep else if c.peek = some '-' then some .strip else none
  let digit? (c : Cursor) : Option Nat :=
    c.peek.bind fun ch => if ch.isDigit then some (ch.toNat - '0'.toNat) else none
  match chomping? c, digit? c with
  | some chomping, _ => match digit? c.next with
    | some 0 => none
    | some n => some (⟨chomping, some n⟩, c.skip 2)
    | none => some (⟨chomping, none⟩, c.next)
  | none, some 0 => none
  | none, some n => match chomping? c.next with
    | some chomping => some (⟨chomping, some n⟩, c.skip 2)
    | none => some (⟨.clip, some n⟩, c.next)
  | none, none => some ({}, c)

/-- The place of the line after the head of a block. Only a comment may come in between. -/
def afterHead (c : Cursor) : Option Cursor :=
  if isEnd c.peek ∨ c.peek = some ' ' then
    let c := c.skipWhile (· = ' ')
    let c := if c.peek = some '#' then c.skipWhile (· ≠ '\n') else c
    if isEnd c.peek then some c.next else none
  else none

/-- Empty lines before a block, the widest indentation among them and the first other line, and the
place where that line's text starts. -/
def blockStart : (steps : Nat) → (widest : Nat) → Cursor → Nat × Nat × Cursor
  | 0, widest, c => (0, widest, c)
  | steps + 1, widest, c =>
    let c := c.skipWhile (· = ' ')
    let widest := max widest c.column
    if c.peek = some '\n' then
      let (n, widest, c) := blockStart steps widest c.next
      (n + 1, widest, c)
    else (0, widest, c)

/-- The place behind the indentation of a line. -/
def unindented (indent : Nat) (c : Cursor) : Cursor :=
  c.skip (min (indent - c.column) (c.rest.takeWhile (· = ' ')).length)

/-- Empty lines inside a block, and the place behind the indentation of the next line. -/
def blockBreaks (indent : Nat) : (steps : Nat) → Cursor → Nat × Cursor
  | 0, c => (0, c)
  | steps + 1, c =>
    let c := unindented indent c
    if c.peek = some '\n' then
      let (n, c) := blockBreaks indent steps c.next
      (n + 1, c)
    else (0, c)

/-- The lines of a block from the text of one on: their text, whether the last one has a line break,
the empty lines after it, and the place behind them. Lines of a folded block are joined unless one
of them starts with white space. -/
def blockLines (fold : Bool) (indent : Nat) (topLevel : Bool) :
    (steps : Nat) → Cursor → List Char × Bool × Nat × Cursor
  | 0, c => ([], false, 0, c)
  | steps + 1, c =>
    let startsWord := !c.peek.any isSpace
    let (text, c) := c.span (· ≠ '\n')
    let broken := c.peek = some '\n'
    let (empty, c) := blockBreaks indent steps c.next
    if c.column = indent ∧ c.peek ≠ none ∧ !(topLevel && c.column = 0 && c.atSeparator) then
      let joint :=
        if fold && startsWord && !c.peek.any isSpace then (if empty = 0 then [' '] else [])
        else ['\n']
      let (more, broken, last, c) := blockLines fold indent topLevel steps c
      (text ++ joint ++ List.replicate empty '\n' ++ more, broken, last, c)
    else (text, broken, empty, c)

/-- A block scalar, from behind its first character. The indentation is that of the parent. -/
def block (fold : Bool) (parent : Int) (c : Cursor) : Option (List Char × Cursor) := do
  let steps := c.rest.length + 1
  let (head, c) ← BlockHead.read c
  let c ← afterHead c
  let least := (parent + 1).toNat
  let (empty, indent, c) := match head.indentation with
    | some n =>
      let indent := max least 1 + n - 1
      let (empty, c) := blockBreaks indent steps c
      (empty, indent, c)
    | none =>
      let (empty, widest, c) := blockStart steps 0 c
      (empty, max least widest, c)
  let (text, broken, last, c) :=
    if c.column = indent ∧ c.peek ≠ none then
      let (text, broken, last, c) := blockLines fold indent (least = 0) steps c
      (List.replicate empty '\n' ++ text, broken, last, c)
    else ([], false, empty, c)
  let ending := if broken then ['\n'] else []
  return (match head.chomping with
    | .strip => text
    | .clip => text ++ ending
    | .keep => text ++ ending ++ List.replicate last '\n', c)

end ControlPlane.Yaml
