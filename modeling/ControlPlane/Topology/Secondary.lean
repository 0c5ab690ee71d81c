import ControlPlane.Ensure
import ControlPlane.Provider.Lookup

/-!
# Secondary load balancers

The secondary load balancers of a cluster, as a collection to ensure. Their names are the cluster's
with the position among the declarations of their zone, so reordering the declarations makes new
load balancers. A load balancer is only kept if it can be brought to what is declared in place.
-/

namespace ControlPlane

/-- Whether two load balancer types are the same but for letter case. -/
def sameType (a b : String) : Bool := Text.lower a = Text.lower b

/-- The id of the flexible address with a given address. A missing one is a configuration error. -/
def findAddressId (s : Site) (zone address : String) : Program String :=
  (·.id) <$> (s.findAddress zone address).handle fun e =>
    if e.isIgnored [.notFound] then
      .fail (.causedBy (.terminal (.pinnedAddressMissing address e.message)) e)
    else .fail e

namespace Secondary

/-- The tags of a secondary load balancer. -/
def tags (s : Scope) : List String := s.tags [Tag.secondary]

/-- The secondary load balancers that there are. -/
def list (s : Scope) : Program (List LoadBalancer) := s.site.findBalancers (tags s)

/-- The zone of a declared load balancer. One that cannot be used is refused here, before anything
is deleted. -/
def desiredZone (s : Scope) (d : BalancerSpec) : Except Failure String := do
  let zone ← s.site.region.resolve d.zone
  s.site.region.checkZone s.site.balancerZones zone
  return zone

/-- The name for a position among the declarations of a zone. -/
def desiredName (s : Scope) (index : Nat) : String := s.resourceName [toString index]

/-- Whether the public address of a load balancer fits a declaration. An address that the provider
allocated cannot be exchanged for a pinned one, nor the other way around. -/
def addressFits (b : LoadBalancer) (d : BalancerSpec) : Bool :=
  b.addresses ≠ [] && match d.address with
    | none => Tag.managedAddress ∈ b.tags
    | some address => b.holds address

/-- Whether the private address of a load balancer fits a declaration. One without any will get the
pinned one when it is attached. -/
def privateAddressFits (s : Scope) (b : LoadBalancer) (d : BalancerSpec) : Program Bool :=
  match d.privateAddress, s.privateNetworkId with
  | some address, some networkId => do
    let held ← Site.heldAddresses networkId [b.id]
    return held = [] || held.any (·.address = address)
  | _, _ => return true

/-- Whether a load balancer can be kept for a declaration. -/
def keeps (s : Scope) (b : LoadBalancer) (d : BalancerSpec) : Program Bool :=
  if s.balancersPrivate || addressFits b d then privateAddressFits s b d else return false

/-- Creates a load balancer for a declaration. -/
def create (s : Scope) (zone name : String) (d : BalancerSpec) : Program LoadBalancer := do
  let (_, type) ← .ofExcept (d.resolve s.site.region)
  let b ← match d.address with
    | some address => do
      let addressId ← findAddressId s.site zone address
      s.site.createBalancer zone name type (some addressId) (tags s) s.balancersPrivate
    | none =>
      s.site.createBalancer zone name type none (tags s ++ [Tag.managedAddress]) s.balancersPrivate
  return { b with privateAddress := d.privateAddress }

/-- Brings a load balancer to the declared type, if one is declared. -/
def update (s : Scope) (b : LoadBalancer) (d : BalancerSpec) : Program LoadBalancer := do
  let b ← match d.type with
    | some type =>
      if sameType type b.type then pure b else s.site.migrateBalancer b.zone b.id type
    | none => pure b
  return { b with privateAddress := d.privateAddress }

/-- Deletes a load balancer, with its address if the provider allocated it. -/
def delete (s : Scope) (b : LoadBalancer) : Program Unit :=
  s.site.deleteBalancer b.zone b.id (Tag.managedAddress ∈ b.tags)

/-- The secondary load balancers as a collection to ensure. -/
def reconciler (s : Scope) : Reconciler Program Failure BalancerSpec LoadBalancer where
  list := list s
  create := create s
  update := update s
  delete := delete s
  zoneOf := (·.zone)
  nameOf := (·.name)
  desiredZone := desiredZone s
  desiredName := desiredName s
  keeps := keeps s

/-- Ensures the given secondary load balancers and no others. -/
def ensure (s : Scope) (desired : List BalancerSpec) : Program (List LoadBalancer) :=
  (reconciler s).ensure desired

end Secondary

end ControlPlane
