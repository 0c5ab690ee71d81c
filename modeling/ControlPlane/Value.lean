import ControlPlane.Number.Binary64

/-!
# Plain data

The data that declarations and settings are read from and dumped to: what a YAML or JSON document
holds. Tables keep the order of their entries. Their keys are scalars, mostly texts.
-/

namespace ControlPlane

/-- A key of a table. -/
inductive Key
  | null
  | bool (b : Bool)
  | int (n : Int)
  | real (x : Binary64)
  | text (s : String)
  deriving DecidableEq, Repr, Inhabited

/-- Plain data. -/
inductive Value
  | null
  | bool (b : Bool)
  | int (n : Int)
  | real (x : Binary64)
  | text (s : String)
  | date (written : String)
  | list (items : List Value)
  | table (entries : List (Key × Value))
  deriving Repr, Inhabited

namespace Value

/-- A table whose keys are texts. -/
def record (fields : List (String × Value)) : Value :=
  table (fields.map fun f => (.text f.1, f.2))

/-- A list of texts. -/
def texts (xs : List String) : Value := list (xs.map text)

/-- A text, or null. -/
def ofText? : Option String → Value
  | some s => text s
  | none => null

/-- The first value under a key. -/
def find? (key : Key) (entries : List (Key × Value)) : Option Value :=
  (entries.find? (·.1 = key)).map (·.2)

/-- The value under a text key; null if there is none. -/
def get (name : String) : Value → Value
  | table entries => (find? (.text name) entries).getD null
  | _ => null

end Value

end ControlPlane
