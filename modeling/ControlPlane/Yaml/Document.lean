import ControlPlane.Yaml.Core
import ControlPlane.Yaml.Lexer

/-!
# Documents

A text is read as a single document: its tokens, then the data that they denote. What an anchor
named is used again by an alias. The entries of a table have different keys; a table may merge
others into itself, whose entries its own ones override.
-/

namespace ControlPlane

namespace Key

/-- The size of a key that counts as a number, in units of the finest double. -/
def units? : Key → Option Int
  | bool b => some (if b then Binary64.oneUnits else 0)
  | int n => some (n * Binary64.oneUnits)
  | real (.finite u) => some u
  | _ => none

/-- Whether two keys are the same: numbers by their size, all others as they are. -/
def same (a b : Key) : Bool :=
  match a.units?, b.units? with
  | some x, some y => x = y
  | _, _ => a = b

/-- The key that a value can be used as. -/
def ofValue? : Value → Option Key
  | .null => some null
  | .bool b => some (bool b)
  | .int n => some (int n)
  | .real x => some (real x)
  | .text s => some (text s)
  | .date s => some (text s)
  | _ => none

end Key

namespace Yaml

/-- An entry of a table, or entries merged into it. -/
inductive Pair
  | entry (key : Key) (value : Value)
  | merged (entries : List (Key × Value))

namespace Pair

/-- Puts an entry in the place of the one with its key, or at the end. -/
def put (entries : List (Key × Value)) (e : Key × Value) : List (Key × Value) :=
  match entries with
  | [] => [e]
  | x :: rest => if x.1.same e.1 then (x.1, e.2) :: rest else x :: put rest e

/-- Whether all keys are different. -/
def distinct : List (Key × Value) → Bool
  | [] => true
  | (key, _) :: rest => rest.all (fun e => !key.same e.1) && distinct rest

/-- The table of some pairs. Its keys must be different unless something is merged into it, which
may happen once. -/
def table? (pairs : List Pair) : Option Value :=
  let own := pairs.filterMap fun
    | entry key value => some (key, value)
    | merged _ => none
  let others := pairs.filterMap fun
    | merged entries => some entries
    | entry .. => none
  match others with
  | [] => if distinct own then some (.table own) else none
  | [entries] => some (.table ((entries ++ own).foldl put []))
  | _ => none

/-- The entries that a value contributes when it is merged: those of a table, or of a list of
tables, where the first ones override the others. -/
def contribution? : Value → Option (List (Key × Value))
  | .list items => (items.reverse.mapM entries?).map List.flatten
  | v => entries? v
where
  /-- The entries of a table. -/
  entries? : Value → Option (List (Key × Value))
    | .table entries => some entries
    | _ => none

end Pair

/-- What is left of the tokens, and what the anchors so far have named. -/
structure Remaining where
  tokens : List Token
  anchors : List (String × Value) := []

/-- Reading from tokens. -/
abbrev Parse := StateT Remaining Option

namespace Parse

/-- The next token. -/
def peek : Parse (Option Token) := do return (← get).tokens.head?

/-- Passes over the next token. -/
def take : Parse Unit := modify fun r => { r with tokens := r.tokens.drop 1 }

/-- Passes over the next token if it is the given one. -/
def accept (t : Token) : Parse Bool := do
  if (← peek) = some t then
    take
    return true
  else return false

/-- Passes over a token that has to come next. -/
def expect (t : Token) : Parse Unit := do
  unless ← accept t do failure

/-- A value, or null in front of certain tokens. -/
def orNull (stops : List Token) (p : Parse Value) : Parse Value := do
  match ← peek with
  | some t => if t ∈ stops then return .null else p
  | none => failure

/-- An anchor, if one comes. -/
def anchor? : Parse (Option String) := do
  match ← peek with
  | some (.anchor name) =>
    take
    return some name
  | _ => return none

/-- A tag, if one comes. -/
def tag? : Parse (Option Tag) := do
  match ← peek with
  | some (.tag written) =>
    take
    match Tag.ofWritten? written with
    | some tag => return some tag
    | none => failure
  | _ => return none

/-- A value whose tag must fit. -/
def withTag (name : String) (tag : Option Tag) (v : Value) : Parse Value :=
  match tag with
  | some (.core n) => if n = name then return v else failure
  | _ => return v

/-- The meaning of a scalar. -/
def scalar (tag : Option Tag) (s : String) (plain : Bool) : Parse Value :=
  match Core.scalar tag s plain with
  | some v => return v
  | none => failure

/-- The key that merges other tables into a table. -/
def mergeSign : Token := .scalar "<<" true

mutual

/-- A value: an alias, or content behind its anchor and tag in either order. `inBlock` tells whether
blocks may come, `indentless` whether a list may be indented no further than the key in front. -/
def node (inBlock indentless : Bool) : (steps : Nat) → Parse Value
  | 0 => failure
  | steps + 1 => do
    match ← peek with
    | some (.alias name) =>
      take
      match (← get).anchors.lookup name with
      | some v => return v
      | none => failure
    | _ =>
      let first ← anchor?
      let tag ← tag?
      let anchor ← if first = none then anchor? else pure first
      let v ← content inBlock indentless tag (anchor ≠ none) steps
      match anchor with
      | some name => modify fun r => { r with anchors := (name, v) :: r.anchors }
      | none => pure ()
      return v

/-- The content of a value, which may be missing behind an anchor or a tag. -/
def content (inBlock indentless : Bool) (tag : Option Tag) (anchored : Bool) :
    (steps : Nat) → Parse Value
  | 0 => failure
  | steps + 1 => do
    match ← peek with
    | some (.scalar s plain) =>
      take
      scalar tag s plain
    | some .flowSequence =>
      take
      withTag "seq" tag (.list (← flowItems true steps))
    | some .flowMapping =>
      take
      tableOf tag (← flowPairs true steps)
    | some .blockSequence =>
      if inBlock then
        take
        withTag "seq" tag (.list (← blockItems steps))
      else missing tag anchored
    | some .blockMapping =>
      if inBlock then
        take
        tableOf tag (← blockPairs steps)
      else missing tag anchored
    | some .entry =>
      if indentless then withTag "seq" tag (.list (← indentlessItems steps))
      else missing tag anchored
    | _ => missing tag anchored
where
  /-- The table of some pairs. -/
  tableOf (tag : Option Tag) (pairs : List Pair) : Parse Value :=
    match Pair.table? pairs with
    | some v => withTag "map" tag v
    | none => failure
  /-- The value of missing content. -/
  missing (tag : Option Tag) (anchored : Bool) : Parse Value :=
    if tag ≠ none ∨ anchored then scalar tag "" true else failure

/-- The elements of a block of elements. -/
def blockItems : (steps : Nat) → Parse (List Value)
  | 0 => failure
  | steps + 1 => do
    if ← accept .blockEnd then return []
    expect .entry
    let item ← orNull [.entry, .blockEnd] (node true false steps)
    return item :: (← blockItems steps)

/-- Elements that are indented no further than the key in front. -/
def indentlessItems : (steps : Nat) → Parse (List Value)
  | 0 => failure
  | steps + 1 => do
    if ← accept .entry then
      let item ← orNull [.entry, .key, .value, .blockEnd] (node true false steps)
      return item :: (← indentlessItems steps)
    else return []

/-- The pairs of a block of pairs. -/
def blockPairs : (steps : Nat) → Parse (List Pair)
  | 0 => failure
  | steps + 1 => do
    if ← accept .blockEnd then return []
    let stops := [.key, .value, .blockEnd]
    let p ← pair stops true steps
    return p :: (← blockPairs steps)

/-- One pair. Its key or its value may be missing in front of certain tokens. Between curly brackets
a value may stand alone, as a key to null. -/
def pair (stops : List Token) (inBlock : Bool) : (steps : Nat) → Parse Pair
  | 0 => failure
  | steps + 1 => do
    let marked ← accept .key
    let sign ← peek
    if inBlock ∧ !marked ∧ sign ≠ some .value then failure
    let key ←
      if sign = some (.scalar "=" true) then do
        take
        pure (.text "=")
      else if sign = some mergeSign then do
        take
        pure .null
      else orNull stops (node inBlock inBlock steps)
    let valued ← if marked ∨ sign = some .value then accept .value else pure false
    let value ← if valued then orNull stops (node inBlock inBlock steps) else pure .null
    if sign = some mergeSign then
      match Pair.contribution? value with
      | some entries => return .merged entries
      | none => failure
    else
      match Key.ofValue? key with
      | some key => return .entry key value
      | none => failure

/-- The elements between square brackets. An element may be a single pair. -/
def flowItems (first : Bool) : (steps : Nat) → Parse (List Value)
  | 0 => failure
  | steps + 1 => do
    if ← accept .flowSequenceEnd then return []
    unless first do expect .separator
    match ← peek with
    | some .flowSequenceEnd =>
      take
      return []
    | some .key =>
      let p ← pair [.value, .separator, .flowSequenceEnd] false steps
      match Pair.table? [p] with
      | some v => return v :: (← flowItems false steps)
      | none => failure
    | _ =>
      let item ← node false false steps
      return item :: (← flowItems false steps)

/-- The pairs between curly brackets. -/
def flowPairs (first : Bool) : (steps : Nat) → Parse (List Pair)
  | 0 => failure
  | steps + 1 => do
    if ← accept .flowMappingEnd then return []
    unless first do expect .separator
    if ← accept .flowMappingEnd then return []
    let p ← pair [.value, .separator, .flowMappingEnd] false steps
    return p :: (← flowPairs false steps)

end

/-- A document: directives and a start mark or neither of them, a value, and perhaps an end mark. -/
def document (steps : Nat) : Parse Value := do
  match ← peek with
  | none => return .null
  | some t =>
    let directives := (← get).tokens.takeWhile (· = .directive)
    modify fun r => { r with tokens := r.tokens.drop directives.length }
    let v ←
      if t = .directive ∨ t = .documentStart then do
        expect .documentStart
        match ← peek with
        | none => pure .null
        | some .documentEnd => pure .null
        | some _ => node true false steps
      else node true false steps
    discard <| accept .documentEnd
    if (← peek) = none then return v else failure

end Parse

/-- The data in the single document of a text. An empty text is null. -/
def read (s : String) : Option Value := do
  let tokens ← Token.ofText? s
  let (v, _) ← (Parse.document (4 * tokens.length + 4)).run { tokens }
  return v

end Yaml

end ControlPlane
