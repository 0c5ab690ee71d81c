import ControlPlane.Ensure
import ControlPlane.Failure

/-!
# Shelves

A shelf is the plainest collection to ensure: things with an id, a zone, a name and a size, and a
record of all that was done to them. Any action can be refused, which is recorded and has no other
effect, and things can be broken, so that they are not kept.
-/

namespace ControlPlane

/-- A thing on a shelf. -/
structure Thing where
  id : Int
  zone : String
  name : String
  size : Int
  deriving DecidableEq, Repr

/-- A thing to have on a shelf. -/
structure ThingSpec where
  zone : String
  size : Int
  deriving DecidableEq, Repr

/-- What is done to a shelf. -/
inductive ShelfAction
  | list
  | keep (id size : Int)
  | update (id size : Int)
  | delete (id : Int)
  | create (name zone : String) (size : Int)
  deriving DecidableEq, Repr

namespace ShelfAction

/-- The word for an action. -/
def word : ShelfAction → String
  | list => "list"
  | keep .. => "keep?"
  | update .. => "update"
  | delete .. => "delete"
  | create .. => "create"

/-- What an action is done with, as plain data. The first one is its subject. -/
def arguments : ShelfAction → List Value
  | list => []
  | keep id size => [.int id, .int size]
  | update id size => [.int id, .int size]
  | delete id => [.int id]
  | create name zone size => [.text name, .text zone, .int size]

/-- An action as plain data. -/
def toValue (a : ShelfAction) : Value := .list (.text a.word :: a.arguments)

/-- What an action is about: a thing there is by its id, a new one by its name. -/
def subject? : ShelfAction → Option Key
  | list => none
  | keep id _ | update id _ | delete id => some (.int id)
  | create name .. => some (.text name)

end ShelfAction

/-- Actions to refuse: those of a word, on one subject or on all. -/
structure Refusal where
  word : String
  subject : Option Key
  deriving DecidableEq, Repr

/-- Whether an action is refused. -/
def Refusal.covers (r : Refusal) (a : ShelfAction) : Bool :=
  r.word = a.word && (r.subject = none || r.subject = a.subject?)

/-- A shelf: its things, the next id, what is broken or refused, and what was done. -/
structure Shelf where
  things : List Thing
  nextId : Int := 100
  broken : List Int := []
  refusals : List Refusal := []
  record : List ShelfAction := []
  deriving DecidableEq, Repr

/-- A thing as plain data. -/
def Thing.toValue (t : Thing) : Value :=
  .record [("id", .int t.id), ("zone", .text t.zone), ("name", .text t.name), ("size", .int t.size)]

namespace Shelf

/-- What is done on shelves. A failure keeps what was done before it. -/
abbrev Work := ExceptT Failure (StateM Shelf)

/-- Records an action, which fails if it is refused. -/
def begin (a : ShelfAction) : Work Unit := do
  modify fun s => { s with record := s.record ++ [a] }
  if (← get).refusals.any (·.covers a) then
    throw (.ofFault ⟨.crashed, .reported (a.word ++ " failed")⟩)

/-- All things. -/
def list : Work (List Thing) := do
  begin .list
  return (← get).things

/-- Whether a thing can be kept. -/
def keeps (t : Thing) (d : ThingSpec) : Work Bool := do
  begin (.keep t.id d.size)
  return t.id ∉ (← get).broken

/-- Gives a thing the size it is to have. -/
def update (t : Thing) (d : ThingSpec) : Work Thing := do
  begin (.update t.id d.size)
  modify fun s => { s with things := s.things.map fun x =>
    if x.id = t.id then { x with size := d.size } else x }
  return { t with size := d.size }

/-- Removes a thing. -/
def delete (t : Thing) : Work Unit := do
  begin (.delete t.id)
  modify fun s => { s with things := s.things.filter (·.id ≠ t.id) }

/-- Adds a thing. -/
def create (zone name : String) (d : ThingSpec) : Work Thing := do
  begin (.create name zone d.size)
  let t : Thing := { id := (← get).nextId, zone, name, size := d.size }
  modify fun s => { s with things := s.things ++ [t], nextId := s.nextId + 1 }
  return t

/-- The zone of a thing to have. One zone cannot be used. -/
def desiredZone (d : ThingSpec) : Except Failure String :=
  if d.zone = "bad" then raise (.terminal (.reported "bad zone")) else .ok d.zone

/-- The names that things get by their positions, where none are given. -/
def defaultName (index : Nat) : String := "thing-" ++ toString index

/-- The things of a shelf as a collection to ensure, named as given as far as the names go. -/
def reconciler (names : List String) : Reconciler Work Failure ThingSpec Thing where
  list := list
  create := create
  update := update
  delete := delete
  zoneOf := (·.zone)
  nameOf := (·.name)
  desiredZone := desiredZone
  desiredName i := (names[i]?).getD (defaultName i)
  keeps := keeps

end Shelf

end ControlPlane
