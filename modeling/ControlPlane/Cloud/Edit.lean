import ControlPlane.Cloud.Store
import ControlPlane.Failure

/-!
# Editing a cloud by hand

The resources of a cloud by kind, as plain data: reading a whole cloud, and what an operator may do
to it behind a reconciler's back. Every kind is read and dumped the same way, so the edits are
written once.
-/

namespace ControlPlane

/-- The kinds of resources. -/
inductive ResourceKind
  | balancers
  | addresses
  | backends
  | frontends
  | rules
  | gateways
  | attachments
  | privateAddresses
  deriving DecidableEq, Repr

namespace ResourceKind

/-- The kinds with their words, in the order of a dump. -/
def words : List (String × ResourceKind) :=
  [("lbs", balancers), ("ips", addresses), ("backends", backends), ("frontends", frontends),
   ("acls", rules), ("gateways", gateways), ("lb_private_networks", attachments),
   ("private_ips", privateAddresses)]

/-- The word for a kind. -/
def word : ResourceKind → String
  | balancers => "lbs"
  | addresses => "ips"
  | backends => "backends"
  | frontends => "frontends"
  | rules => "acls"
  | gateways => "gateways"
  | attachments => "lb_private_networks"
  | privateAddresses => "private_ips"

/-- The type of the resources of a kind. -/
@[reducible] def Model : ResourceKind → Type
  | balancers => LoadBalancer
  | addresses => FlexibleAddress
  | backends => Backend
  | frontends => Frontend
  | rules => Rule
  | gateways => Gateway
  | attachments => Attachment
  | privateAddresses => PrivateAddress

/-- Reads a resource of a kind. -/
def ofValue : (k : ResourceKind) → Schema.Reader k.Model
  | balancers => LoadBalancer.ofValue
  | addresses => FlexibleAddress.ofValue
  | backends => Backend.ofValue
  | frontends => Frontend.ofValue
  | rules => Rule.ofValue
  | gateways => Gateway.ofValue
  | attachments => Attachment.ofValue
  | privateAddresses => PrivateAddress.ofValue

/-- A resource of a kind as plain data. -/
def toValue : (k : ResourceKind) → k.Model → Value
  | balancers => LoadBalancer.toValue
  | addresses => FlexibleAddress.toValue
  | backends => Backend.toValue
  | frontends => Frontend.toValue
  | rules => Rule.toValue
  | gateways => Gateway.toValue
  | attachments => Attachment.toValue
  | privateAddresses => PrivateAddress.toValue

/-- The id of a resource. Attachments have none. -/
def id? : (k : ResourceKind) → k.Model → Option String
  | balancers, b => some b.id
  | addresses, a => some a.id
  | backends, b => some b.id
  | frontends, f => some f.id
  | rules, r => some r.id
  | gateways, g => some g.id
  | attachments, _ => none
  | privateAddresses, a => some a.id

end ResourceKind

namespace Cloud

/-- The resources of a kind. -/
def get (c : Cloud) : (k : ResourceKind) → List k.Model
  | .balancers => c.balancers
  | .addresses => c.addresses
  | .backends => c.backends
  | .frontends => c.frontends
  | .rules => c.rules
  | .gateways => c.gateways
  | .attachments => c.attachments
  | .privateAddresses => c.privateAddresses

/-- Replaces the resources of a kind. -/
def set (c : Cloud) : (k : ResourceKind) → List k.Model → Cloud
  | .balancers, items => { c with balancers := items }
  | .addresses, items => { c with addresses := items }
  | .backends, items => { c with backends := items }
  | .frontends, items => { c with frontends := items }
  | .rules, items => { c with rules := items }
  | .gateways, items => { c with gateways := items }
  | .attachments, items => { c with attachments := items }
  | .privateAddresses, items => { c with privateAddresses := items }

/-- The resources of a kind as plain data. -/
def dump (c : Cloud) (k : ResourceKind) : Value := .list ((c.get k).map k.toValue)

/-- Replaces the first element that meets a test, or adds one at the end. -/
def putFirst (p : α → Bool) (a : α) : List α → List α
  | [] => [a]
  | x :: rest => if p x then a :: rest else x :: putFirst p a rest

/-- Puts a resource in the place of the one with its id, or at the end. -/
def put (c : Cloud) (k : ResourceKind) (a : k.Model) : Cloud :=
  c.set k (putFirst (fun x => (k.id? x).any fun id => k.id? a = some id) a (c.get k))

/-- The resource of a kind with an id. -/
def find (c : Cloud) (k : ResourceKind) (id : String) : Except Failure k.Model :=
  match (c.get k).find? (k.id? · = some id) with
  | some a => .ok a
  | none => raise ⟨.notFound, .absent k.word id⟩

/-- The entries of a table with those of another in their places, or at the end. -/
def override (entries changes : Schema.Entries) : Schema.Entries :=
  changes.foldl (fun acc e => putFirst (·.1 = e.1) e acc) entries

/-- Changes fields of a resource. -/
def edit (c : Cloud) (k : ResourceKind) (id : String) (changes : Schema.Entries) :
    Except Failure Cloud := do
  let a ← c.find k id
  let data := match k.toValue a with
    | .table entries => .table (override entries changes)
    | v => v
  match k.ofValue data with
  | .valid a => .ok (c.put k a)
  | .invalid issues => raise (.invalid issues)

/-- Removes a resource. -/
def remove (c : Cloud) (k : ResourceKind) (id : String) : Except Failure Cloud := do
  let _ ← c.find k id
  return c.set k ((c.get k).filter (k.id? · ≠ some id))

/-- Reverses the order of the resources of a kind. -/
def reverse (c : Cloud) (k : ResourceKind) : Cloud := c.set k (c.get k).reverse

/-- Reads the resources of some kinds. Kinds that the data does not name stay empty. -/
def fill (data : Value) : List ResourceKind → Cloud → Schema.Checked Cloud
  | [], c => .valid c
  | k :: rest, c =>
    match data.get k.word with
    | .list items =>
      match readAll k items with
      | .valid found => (c.set k found).fill data rest
      | .invalid issues => .invalid issues
    | _ => c.fill data rest
where
  /-- Reads resources up to the first that cannot be read. -/
  readAll (k : ResourceKind) : List Value → Schema.Checked (List k.Model)
    | [] => .valid []
    | v :: rest => (k.ofValue v).refine fun a => (List.cons a ·) <$> readAll k rest

/-- Reads the resources of a cloud. Each is a value of its own, and the first that cannot be read is
reported. -/
def ofValue (data : Value) : Schema.Checked Cloud :=
  ({} : Cloud).fill data (ResourceKind.words.map (·.2))

end Cloud

end ControlPlane
