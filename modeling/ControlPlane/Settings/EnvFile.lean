import ControlPlane.Text.Blank

/-!
# Environment files

A file of bindings, one statement after the other: a name, perhaps behind `export`, and perhaps an
equals sign and a value. Names may be between single quotes, values between single or double ones; a
value between quotes may have several lines. A statement that cannot be read is skipped with the
rest of its line. `${NAME}` and `${NAME:-default}` stand for earlier values of the file, or else for
the variables of the surrounding environment.
-/

namespace ControlPlane.EnvFile

/-- A name with its value. A name alone has none. -/
structure Binding where
  name : String
  value : Option String
  deriving DecidableEq, Repr

/-! ## Statements -/

/-- Whether a character is white space within a line. -/
def isInline (c : Char) : Bool := Text.isBlank c && c ≠ '\n' && c ≠ '\r'

/-- The text without the white space in front of it. -/
def skipInline (s : List Char) : List Char := s.dropWhile isInline

/-- What a part of a statement is and what follows it, or the place that cannot be read. -/
abbrev Part (α : Type) := Except (List Char) (α × List Char)

/-- The text up to the closing quote and what follows that. A quote behind a backslash does not
close, unless there is no other one after it. -/
def untilQuote (quote : Char) : List Char → Option (List Char × List Char)
  | [] => none
  | '\\' :: c :: rest =>
    if c = quote then
      match untilQuote quote rest with
      | some (s, rest) => some ('\\' :: c :: s, rest)
      | none => some (['\\'], rest)
    else (untilQuote quote (c :: rest)).map fun (s, rest) => ('\\' :: s, rest)
  | c :: rest =>
    if c = quote then some ([], rest)
    else (untilQuote quote rest).map fun (s, rest) => (c :: s, rest)

/-- Replaces the escapes of a quoted value: a backslash and a letter of a list. -/
def unescape (escapes : List (Char × Char)) : List Char → List Char
  | [] => []
  | '\\' :: c :: rest =>
    match escapes.lookup c with
    | some d => d :: unescape escapes rest
    | none => '\\' :: unescape escapes (c :: rest)
  | c :: rest => c :: unescape escapes rest

/-- The escapes between single quotes. -/
def singleEscapes : List (Char × Char) := [('\\', '\\'), ('\'', '\'')]

/-- The escapes between double quotes. -/
def doubleEscapes : List (Char × Char) :=
  singleEscapes ++ [('"', '"'), ('a', '\x07'), ('b', '\x08'), ('f', '\x0c'), ('n', '\n'),
    ('r', '\r'), ('t', '\t'), ('v', '\x0b')]

/-- A value between quotes, from behind the first one; `start` is the place of that. -/
def quoted (quote : Char) (escapes : List (Char × Char)) (start s : List Char) :
    Part (List Char) :=
  match untilQuote quote s with
  | some (value, rest) => .ok (unescape escapes value, rest)
  | none => .error start

/-- A line without a comment: a number sign with white space in front of it. -/
def cutComment : List Char → List Char
  | [] => []
  | c :: rest =>
    if Text.isBlank c && (rest.dropWhile Text.isBlank).head? = some '#' then []
    else c :: cutComment rest

/-- Whether a character does not end a line. -/
def inLine (c : Char) : Bool := c ≠ '\n' && c ≠ '\r'

/-- A value: between quotes, or the rest of the line without a comment. -/
def value (s : List Char) : Part (List Char) :=
  match s with
  | '\'' :: rest => quoted '\'' singleEscapes s rest
  | '"' :: rest => quoted '"' doubleEscapes s rest
  | _ => .ok (Text.trimEnd Text.isBlank (cutComment (s.takeWhile inLine)), s.dropWhile inLine)

/-- A name between single quotes or without quotes; none in front of a comment. -/
def name (s : List Char) : Part (Option String) :=
  match s with
  | '#' :: _ => .ok (none, s)
  | '\'' :: rest =>
    match rest.takeWhile (· ≠ '\''), rest.dropWhile (· ≠ '\'') with
    | [], _ | _, [] => .error s
    | word, _ :: rest => .ok (some (String.ofList word), rest)
  | _ =>
    let isName (c : Char) : Bool := c ≠ '=' && c ≠ '#' && !Text.isBlank c
    match s.takeWhile isName with
    | [] => .error s
    | word => .ok (some (String.ofList word), s.dropWhile isName)

/-- The text behind a word for bindings that are passed on, if it starts with that. -/
def skipExport (s : List Char) : List Char :=
  let word := "export".toList
  let rest := s.drop word.length
  if s.take word.length = word ∧ rest.head?.any isInline then skipInline rest else s

/-- What follows a comment, or the same text. -/
def skipComment (s : List Char) : List Char :=
  match skipInline s with
  | '#' :: rest => rest.dropWhile inLine
  | _ => s

/-- What follows the end of a line, which has to come. -/
def endOfLine (s : List Char) : Except (List Char) (List Char) :=
  match skipInline s with
  | [] => .ok []
  | '\n' :: rest => .ok rest
  | _ => .error s

/-- One statement, from its first character on. -/
def statement (s : List Char) : Except (List Char) (Option Binding × List Char) := do
  let (name, rest) ← name (skipExport s)
  let rest := skipInline rest
  let (value, rest) ← match rest with
    | '=' :: after => do
      let (v, rest) ← value (skipInline after)
      pure (some (String.ofList v), rest)
    | _ => pure (none, rest)
  let rest ← endOfLine (skipComment rest)
  return (name.map (⟨·, value⟩), rest)

/-- All statements that can be read. The first argument bounds their number. -/
def statements : (steps : Nat) → List Char → List Binding
  | 0, _ => []
  | steps + 1, s =>
    match s.dropWhile Text.isBlank with
    | [] => []
    | s =>
      match statement s with
      | .ok (some b, rest) => b :: statements steps rest
      | .ok (none, rest) => statements steps rest
      | .error place => statements steps ((place.dropWhile inLine).drop 1)

/-! ## References -/

/-- The variables that can be referred to. -/
abbrev Environment := List (String × String)

/-- A reference from behind its opening bracket on: the name, the default, and the number of
characters up to and with the closing bracket. -/
def reference? (s : List Char) : Option (String × String × Nat) :=
  let name := s.takeWhile fun c => c ≠ '}' && c ≠ ':'
  match s.drop name.length with
  | '}' :: _ => some (String.ofList name, "", name.length + 1)
  | ':' :: '-' :: rest =>
    let fallback := rest.takeWhile (· ≠ '}')
    if fallback.length < rest.length then
      some (String.ofList name, String.ofList fallback, name.length + fallback.length + 3)
    else none
  | _ => none

/-- Replaces references, after passing over a number of characters. -/
def expand (valueOf : String → Option String) : (skipped : Nat) → List Char → List Char
  | _, [] => []
  | skipped + 1, _ :: rest => expand valueOf skipped rest
  | 0, '$' :: rest =>
    match rest with
    | '{' :: inner =>
      match reference? inner with
      | some (name, fallback, length) =>
        ((valueOf name).getD fallback).toList ++ expand valueOf (length + 1) rest
      | none => '$' :: expand valueOf 0 rest
    | _ => '$' :: expand valueOf 0 rest
  | 0, c :: rest => c :: expand valueOf 0 rest

/-- The last value under a name. -/
def last? (bindings : List Binding) (name : String) : Option Binding :=
  bindings.reverse.find? (·.name = name)

/-- What a reference stands for: the last earlier value of the file, else the variable. A name that
the file binds to nothing stands for nothing. -/
def valueOf (env : Environment) (earlier : List Binding) (name : String) : Option String :=
  match last? earlier name with
  | some b => some (b.value.getD "")
  | none => env.lookup name

/-- Replaces the references in bindings, in order. -/
def resolve (env : Environment) (earlier : List Binding) : List Binding → List Binding
  | [] => earlier
  | b :: rest =>
    let value := b.value.map fun v =>
      String.ofList (expand (valueOf env earlier) 0 v.toList)
    resolve env (earlier ++ [⟨b.name, value⟩]) rest

/-- Line breaks as line feeds, without a mark of the byte order in front. -/
def unifyBreaks : List Char → List Char
  | '\r' :: '\n' :: rest => '\n' :: unifyBreaks rest
  | c :: rest => (if c = '\r' then '\n' else c) :: unifyBreaks rest
  | [] => []

/-- The bindings of a file in an environment. -/
def read (env : Environment) (text : String) : List Binding :=
  let s := unifyBreaks text.toList
  let s := if s.head? = some '\uFEFF' then s.drop 1 else s
  resolve env [] (statements (s.length + 1) s)

/-- The value of a name: what its last binding says. -/
def get? (bindings : List Binding) (name : String) : Option String :=
  (last? bindings name).bind (·.value)

end ControlPlane.EnvFile
