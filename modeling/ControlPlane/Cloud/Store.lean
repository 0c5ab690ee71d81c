import ControlPlane.Resource.Balancer
import ControlPlane.Resource.Pool
import ControlPlane.Resource.PrivateNetwork
import ControlPlane.Resource.Rule

/-!
# A cloud in memory

What a provider holds: its resources, each list in order of creation, and the counters that fresh
ids and addresses are taken from. Ids of all kinds come from one counter, so a fresh id is one that
no resource made here has had.
-/

namespace ControlPlane

/-- The resources of a cloud. -/
structure Cloud where
  balancers : List LoadBalancer := []
  addresses : List FlexibleAddress := []
  backends : List Backend := []
  frontends : List Frontend := []
  rules : List Rule := []
  gateways : List Gateway := []
  attachments : List Attachment := []
  privateAddresses : List PrivateAddress := []
  nextId : Nat := 100
  nextPublic : Nat := 10
  nextPrivate : Nat := 10
  /-- The state of a load balancer that was just created. -/
  newStatus : BalancerStatus := .ready
  /-- Whether a load balancer that is attached without an address gets a fresh one. -/
  booksAddresses : Bool := true
  deriving DecidableEq, Repr

namespace Cloud

/-- A fresh id, which tells the kind of its resource. -/
def freshId (kind : String) (c : Cloud) : String × Cloud :=
  (kind ++ "-" ++ toString c.nextId, { c with nextId := c.nextId + 1 })

/-- Stores a fresh public address for a load balancer. -/
def bookPublic (zone balancerId : String) (c : Cloud) : FlexibleAddress × Cloud :=
  let (id, c) := c.freshId "ip"
  let a : FlexibleAddress :=
    { id, address := "51.15.0." ++ toString c.nextPublic, zone, balancerId := some balancerId }
  (a, { c with addresses := c.addresses ++ [a], nextPublic := c.nextPublic + 1 })

/-- Stores a fresh address of a private network for a load balancer. -/
def bookPrivate (networkId balancerId : String) (c : Cloud) : Cloud :=
  let (id, c) := c.freshId "ipam"
  let a : PrivateAddress :=
    { id, address := "172.16.0." ++ toString c.nextPrivate, networkId, holder := some balancerId }
  { c with privateAddresses := c.privateAddresses ++ [a], nextPrivate := c.nextPrivate + 1 }

/-- Stores a rule of a frontend. -/
def addRule (frontendId : String) (spec : RuleSpec) (c : Cloud) : Rule × Cloud :=
  let (id, c) := c.freshId "acl"
  let rule : Rule := { spec with id, frontendId }
  (rule, { c with rules := c.rules ++ [rule] })

/-- Stores several rules of a frontend. -/
def addRules (frontendId : String) : List RuleSpec → Cloud → List Rule × Cloud
  | [], c => ([], c)
  | spec :: rest, c =>
    let (rule, c) := c.addRule frontendId spec
    let (more, c) := c.addRules frontendId rest
    (rule :: more, c)

/-- Binds a flexible address to a load balancer. -/
def bindAddress (addressId balancerId : String) (c : Cloud) : Cloud :=
  { c with addresses := c.addresses.map fun a =>
      if a.id = addressId then { a with balancerId := some balancerId } else a }

/-- Gives up the flexible addresses of a load balancer that goes away: they are removed if they are
released, else they are bound to nothing. -/
def dropAddresses (held : List FlexibleAddress) (release : Bool) (c : Cloud) : Cloud :=
  let ids := held.map (·.id)
  { c with addresses :=
      if release then c.addresses.filter (·.id ∉ ids)
      else c.addresses.map fun a => if a.id ∈ ids then { a with balancerId := none } else a }

/-- Removes a load balancer and everything under it. The addresses of private networks that it held
become available. -/
def removeBalancer (balancerId : String) (c : Cloud) : Cloud :=
  let frontendIds := (c.frontends.filter (·.balancerId = balancerId)).map (·.id)
  { c with
    balancers := c.balancers.filter (·.id ≠ balancerId)
    backends := c.backends.filter (·.balancerId ≠ balancerId)
    frontends := c.frontends.filter (·.balancerId ≠ balancerId)
    rules := c.rules.filter (·.frontendId ∉ frontendIds)
    attachments := c.attachments.filter (·.balancerId ≠ balancerId)
    privateAddresses := c.privateAddresses.map fun a =>
      if a.holder = some balancerId then { a with holder := none } else a }

end Cloud

end ControlPlane
