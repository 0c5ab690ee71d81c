import ControlPlane.Yaml.Scalar
import ControlPlane.Yaml.Token

/-!
# From text to tokens

The tokens of a text come from left to right, with one exception: a simple key is only known as a
key when its colon comes. So a place that a simple key may start at is remembered, one for every
level of brackets, and the key's token goes there later. A simple key ends on its line, within 1024
characters, and one that stands at the indentation of its block has to get its colon. In between,
`Lexer` is what is known at a place in the text; each of its steps takes it to the next token or
finds that the text is no document.
-/

namespace ControlPlane.Yaml

/-- A place that a simple key may have started at. -/
structure PendingKey where
  /-- The number of tokens before it. -/
  position : Nat
  required : Bool
  start : Cursor

/-- What is known at a place in a text. -/
structure Lexer where
  cursor : Cursor
  tokens : Array Token := #[]
  /-- The column of the innermost block. -/
  indent : Int := -1
  /-- The columns of the blocks around it. -/
  outer : List Int := []
  /-- The open brackets, innermost first; whether each is a square one. -/
  flow : List Bool := []
  /-- A simple key that may have started, at every level of brackets, innermost first. -/
  pending : List (Option PendingKey) := [none]
  /-- Whether a simple key may start here. -/
  keyAllowed : Bool := true

namespace Lexer

/-- Whether the place is between brackets. -/
def inFlow (l : Lexer) : Bool := l.flow ≠ []

/-- Adds a token and moves on. -/
def emit (l : Lexer) (t : Token) (cursor : Cursor) : Lexer :=
  { l with tokens := l.tokens.push t, cursor }

/-! ## Blanks and indentation -/

/-- Skips white space, comments and line breaks. A line break outside of brackets allows a key. -/
def skipBlanks (inFlow : Bool) : (steps : Nat) → Bool → Cursor → Bool × Cursor
  | 0, keyAllowed, c => (keyAllowed, c)
  | steps + 1, keyAllowed, c =>
    let c := c.skipWhile fun ch => ch = ' ' || (inFlow && ch = '\t')
    let c := if c.peek = some '#' then c.skipWhile (· ≠ '\n') else c
    if c.peek = some '\n' then skipBlanks inFlow steps (keyAllowed || !inFlow) c.next
    else (keyAllowed, c)

/-- Closes the blocks right of a column, which brackets contain none of. -/
def closeBlocks (l : Lexer) (column : Int) : Lexer :=
  if l.inFlow then l else go l.outer l.indent l.tokens
where
  /-- Closes blocks from the innermost on. -/
  go (outer : List Int) (indent : Int) (tokens : Array Token) : Lexer :=
    match outer with
    | [] => { l with outer := [], indent, tokens }
    | i :: rest =>
      if column < indent then go rest i (tokens.push .blockEnd)
      else { l with outer, indent, tokens }

/-- Whether a block at a column would be a new one. -/
def opensBlock (l : Lexer) (column : Nat) : Bool := !l.inFlow && decide (l.indent < column)

/-- Opens a block at a column, unless the innermost one is there already. -/
def openBlock (l : Lexer) (column : Nat) (t : Token) (position : Nat) : Lexer :=
  if l.opensBlock column then
    { l with
      tokens := l.tokens.insertIdxIfInBounds position t
      outer := l.indent :: l.outer
      indent := column }
  else l

/-! ## Simple keys -/

/-- Gives up the simple key that may have started at this level. A required one is an error. -/
def dropKey (l : Lexer) : Option Lexer :=
  match l.pending with
  | some k :: rest => if k.required then none else some { l with pending := none :: rest }
  | _ => some l

/-- Gives up the simple keys that would be too long or end on another line. -/
def dropStale (l : Lexer) : Option Lexer :=
  let stale (k : PendingKey) : Bool :=
    k.start.line ≠ l.cursor.line || decide (1024 < l.cursor.offset - k.start.offset)
  let keep (p : Option PendingKey) : Option (Option PendingKey) :=
    match p with
    | some k => if stale k then (if k.required then none else some none) else some p
    | none => some none
  (l.pending.mapM keep).map fun pending => { l with pending }

/-- Remembers that a simple key may start here. -/
def saveKey (l : Lexer) : Option Lexer :=
  if l.keyAllowed then do
    let l ← l.dropKey
    let required := !l.inFlow && l.indent = l.cursor.column
    let k : PendingKey := ⟨l.tokens.size, required, l.cursor⟩
    return { l with pending := some k :: l.pending.drop 1 }
  else some l

/-! ## Tokens -/

/-- A token between documents, which closes all blocks. -/
def documentMark (l : Lexer) (t : Token) (cursor : Cursor) : Option Lexer := do
  let l ← (l.closeBlocks (-1)).dropKey
  return { l.emit t cursor with keyAllowed := false }

/-- An opening bracket. -/
def openFlow (l : Lexer) (square : Bool) (t : Token) : Option Lexer := do
  let l ← l.saveKey
  return { l.emit t l.cursor.next with
    flow := square :: l.flow
    pending := none :: l.pending
    keyAllowed := true }

/-- A closing bracket. -/
def closeFlow (l : Lexer) (t : Token) : Option Lexer := do
  let l ← l.dropKey
  if l.inFlow then
    return { l.emit t l.cursor.next with
      flow := l.flow.drop 1
      pending := l.pending.drop 1
      keyAllowed := false }
  else none

/-- A comma. -/
def separate (l : Lexer) : Option Lexer := do
  let l ← l.dropKey
  return { l.emit .separator l.cursor.next with keyAllowed := true }

/-- A dash in front of an element. -/
def enter (l : Lexer) : Option Lexer := do
  if !l.inFlow && !l.keyAllowed then none
  else
    let l ← (l.openBlock l.cursor.column .blockSequence l.tokens.size).dropKey
    return { l.emit .entry l.cursor.next with keyAllowed := true }

/-- A question mark in front of a key. -/
def markKey (l : Lexer) : Option Lexer := do
  if !l.inFlow && !l.keyAllowed then none
  else
    let l ← (l.openBlock l.cursor.column .blockMapping l.tokens.size).dropKey
    return { l.emit .key l.cursor.next with keyAllowed := !l.inFlow }

/-- A colon. It ends the simple key that may have started, or stands in front of the value for a key
that was marked. -/
def markValue (l : Lexer) : Option Lexer := do
  match l.pending with
  | some k :: rest =>
    let l := { l with
      tokens := l.tokens.insertIdxIfInBounds k.position .key
      pending := none :: rest
      keyAllowed := false }
    let l := l.openBlock k.start.column .blockMapping k.position
    return l.emit .value l.cursor.next
  | _ =>
    if !l.inFlow && !l.keyAllowed then none
    else
      let l ← (l.openBlock l.cursor.column .blockMapping l.tokens.size).dropKey
      return { l.emit .value l.cursor.next with keyAllowed := !l.inFlow }

/-- A token that a simple key may start with. -/
def leaf (l : Lexer) (r : Cursor → Option (Token × Cursor)) : Option Lexer := do
  let l ← l.saveKey
  let (t, c) ← r l.cursor
  return { l.emit t c with keyAllowed := false }

/-- Whether a character belongs to an anchor's name. -/
def isNameChar (c : Char) : Bool := !isGap (some c) && c ∉ [',', '[', ']', '{', '}']

/-- The name of an anchor or an alias, from its first character on. -/
def named (token : String → Token) (c : Cursor) : Option (Token × Cursor) :=
  let (name, c) := c.next.span isNameChar
  if name = [] then none else some (token (String.ofList name), c)

/-- A tag, from behind its first character. -/
def tagged (c : Cursor) : Option (Token × Cursor) :=
  let (written, c) := c.next.span fun ch => !isGap (some ch)
  if c.peek = some '\t' then none else some (.tag written, c)

/-- A block scalar. A key may follow it. -/
def blockScalar (l : Lexer) (fold : Bool) : Option Lexer := do
  let l ← l.dropKey
  let (s, c) ← block fold l.indent l.cursor.next
  return { l.emit (.scalar (String.ofList s) false) c with keyAllowed := true }

/-- A plain scalar. -/
def plainScalar (l : Lexer) : Option Lexer := do
  let l ← l.saveKey
  let steps := l.cursor.rest.length + 1
  let (s, broken, c) := plain l.inFlow (l.indent + 1).toNat steps l.cursor
  return { l.emit (.scalar (String.ofList s) true) c with keyAllowed := broken }

/-- Whether a colon is a token here. Between brackets some need a gap behind them. -/
def colonCounts (l : Lexer) : Bool :=
  let needsGap := match l.flow with
    | [] => true
    | square :: _ => square || l.tokens.back? = some .value
  !needsGap || isGap (l.cursor.peekAt 1)

/-- The characters that no plain scalar starts with. -/
def indicators : List Char :=
  ['-', '?', ':', ',', '[', ']', '{', '}', '#', '&', '*', '!', '|', '>', '\'', '"', '%', '@', '`']

/-- Whether a plain scalar starts with a character that another one follows. -/
def startsPlain (inFlow : Bool) (c : Char) (following : Option Char) : Bool :=
  if isGap (some c) then false
  else if c ∉ indicators then true
  else if c = '-' then !isGap following
  else if c = ':' then (if inFlow then !following.any isSpace else !isGap following)
  else c = '?' && !inFlow && !isGap following

/-- The token at a place that is neither blank nor the end. -/
def token (l : Lexer) (ch : Char) : Option Lexer :=
  let c := l.cursor
  let steps := c.rest.length + 1
  let gapFollows := isGap (c.peekAt 1)
  if c.column = 0 ∧ ch = '%' then l.documentMark .directive (c.skipWhile (· ≠ '\n'))
  else if c.column = 0 ∧ c.startsWord ['-', '-', '-'] then l.documentMark .documentStart (c.skip 3)
  else if c.column = 0 ∧ c.startsWord ['.', '.', '.'] then l.documentMark .documentEnd (c.skip 3)
  else if ch = '[' then l.openFlow true .flowSequence
  else if ch = '{' then l.openFlow false .flowMapping
  else if ch = ']' then l.closeFlow .flowSequenceEnd
  else if ch = '}' then l.closeFlow .flowMappingEnd
  else if ch = ',' then l.separate
  else if ch = '-' ∧ gapFollows then l.enter
  else if ch = '?' ∧ (l.inFlow ∨ gapFollows) then l.markKey
  else if ch = ':' ∧ l.colonCounts then l.markValue
  else if ch = '*' then l.leaf (named .alias)
  else if ch = '&' then l.leaf (named .anchor)
  else if ch = '!' then l.leaf tagged
  else if ch = '|' ∧ !l.inFlow then l.blockScalar false
  else if ch = '>' ∧ !l.inFlow then l.blockScalar true
  else if ch = '\'' then
    l.leaf fun c => (singleQuoted steps c.next).map fun (s, c) =>
      (.scalar (String.ofList s) false, c)
  else if ch = '"' then
    l.leaf fun c => (doubleQuoted steps c.next).map fun (s, c) =>
      (.scalar (String.ofList s) false, c)
  else if startsPlain l.inFlow ch (c.peekAt 1) then l.plainScalar
  else none

/-- Goes on to the end of the text. The first argument bounds the number of tokens. -/
def run : (steps : Nat) → Lexer → Option (List Token)
  | 0, _ => none
  | steps + 1, l => do
    let (keyAllowed, cursor) := skipBlanks l.inFlow (l.cursor.rest.length + 1) l.keyAllowed l.cursor
    let l ← { l with keyAllowed, cursor }.dropStale
    let l := l.closeBlocks l.cursor.column
    match l.cursor.peek with
    | none =>
      let l ← (l.closeBlocks (-1)).dropKey
      return l.tokens.toList
    | some ch => (← l.token ch).run steps

end Lexer

/-- Line breaks as line feeds, without a mark of the byte order in front. -/
def unifyBreaks : List Char → List Char
  | '\r' :: '\n' :: rest => '\n' :: unifyBreaks rest
  | c :: rest => (if c = '\r' ∨ c = '\u0085' then '\n' else c) :: unifyBreaks rest
  | [] => []

/-- Whether a character may stand in a document. -/
def isAllowed (c : Char) : Bool :=
  let n := c.toNat
  n = 9 || n = 10 || n = 13 || (0x20 ≤ n && n ≤ 0x7E) || n = 0x85 || (0xA0 ≤ n && n ≤ 0xFFFD) ||
    0x10000 ≤ n

/-- The tokens of a text, if it can be divided into tokens. -/
def Token.ofText? (s : String) : Option (List Token) :=
  if s.toList.all isAllowed then
    let text := unifyBreaks (if s.toList.head? = some '\uFEFF' then s.toList.drop 1 else s.toList)
    Lexer.run (text.length + 1) { cursor := { rest := text } }
  else none

end ControlPlane.Yaml
