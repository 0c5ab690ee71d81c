import ControlPlane.Number.Literal
import ControlPlane.Schema.Checked

/-!
# Readers of data

A reader turns plain data into a typed value. Texts are read from texts only. Numbers and truth
values are read leniently: from each other where nothing is lost, and from texts that denote them.
A table is read field by field; its keys may be confined to the fields.
-/

namespace ControlPlane.Schema

/-- A reader of values of a type. -/
abbrev Reader (α : Type) := Value → Checked α

/-- The entries of a table. -/
abbrev Entries := List (Key × Value)

/-- A text. -/
def text : Reader String
  | .text s => .valid s
  | _ => .problem .notText

/-- A value of another reader, or null. -/
def optional (r : Reader α) : Reader (Option α)
  | .null => .valid none
  | v => some <$> r v

/-- A truth value: itself, zero or one, or a word for one. -/
def truth : Reader Bool
  | .bool b => .valid b
  | .int n => ofWhole n
  | .real x => match x.toInt? with
    | some n => ofWhole n
    | none => .problem .notTruth
  | .text s => match Literal.truth? s with
    | some b => .valid b
    | none => .problem .notTruthWord
  | _ => .problem .notTruth
where
  /-- Zero and one stand for false and true. -/
  ofWhole (n : Int) : Checked Bool :=
    if n = 0 then .valid false else if n = 1 then .valid true else .problem .notTruthWord

/-- A whole number: itself, a truth value as zero or one, an integral double, or a text. -/
def whole : Reader Int
  | .bool b => .valid (if b then 1 else 0)
  | .int n => .valid n
  | .real (.finite u) => match (Binary64.finite u).toInt? with
    | some n => .valid n
    | none => .problem .fractional
  | .real _ => .problem .notFinite
  | .text s => match Literal.wholeNumber? s with
    | some n => .valid n
    | none => .problem .notWholeText
  | _ => .problem .notWhole

/-- A double: itself, a whole number, a truth value as zero or one, or a text. -/
def real : Reader Binary64
  | .bool b => .valid (if b then 1 else 0)
  | .int n => .valid (.ofInt n)
  | .real x => .valid x
  | .text s => match Literal.realNumber? s with
    | some x => .valid x
    | none => .problem .notRealText
  | _ => .problem .notReal

/-- A list. -/
def listOf (r : Reader α) : Reader (List α)
  | .list items => .all (items.zipIdx.map fun (v, i) => (r v).under (.index i))
  | _ => .problem .notList

/-- A reader for which null counts as the empty list. -/
def nullAsEmpty (r : Reader α) : Reader α
  | .null => r (.list [])
  | v => r v

/-- One of a list of named members. -/
def member (members : List (String × α)) : Reader α
  | .text s => match members.find? (·.1 = s) with
    | some m => .valid m.2
    | none => .problem .notMember
  | _ => .problem .notMember

/-- Bounds on a whole number. -/
def between (low high n : Int) : Checked Int :=
  if n < low then .problem .belowMinimum
  else if high < n then .problem .aboveMaximum
  else .valid n

/-- A field that must be there. -/
def required (name : String) (r : Reader α) (entries : Entries) : Checked α :=
  match Value.find? (.text name) entries with
  | some v => (r v).under (.key (.text name))
  | none => (Checked.problem .missing).under (.key (.text name))

/-- A field with a default. -/
def withDefault (name : String) (r : Reader α) (default : α) (entries : Entries) : Checked α :=
  match Value.find? (.text name) entries with
  | some v => (r v).under (.key (.text name))
  | none => .valid default

/-- Checks that a table has no keys but the given ones. -/
def noKeysBut (names : List String) : Entries → Checked Unit
  | [] => .valid ()
  | (.text name, _) :: rest =>
    if name ∈ names then noKeysBut names rest
    else refuse (.text name) .unknownKey <*> noKeysBut names rest
  | (key, _) :: rest => refuse key .keyNotText <*> noKeysBut names rest
where
  /-- A problem with a key, in front of what is found further on. -/
  refuse (key : Key) (p : Problem) : Checked (Unit → Unit) :=
    (Checked.problem p).under (.key key)

/-- A model read from the entries of a table. -/
def table (r : Entries → Checked α) : Reader α
  | .table entries => r entries
  | _ => .problem .notTable

end ControlPlane.Schema
