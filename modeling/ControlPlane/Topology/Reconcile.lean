import ControlPlane.Topology.Parts

/-!
# Reconciling the topology

One primary load balancer and the declared secondaries. The primary's pool of servers is
authoritative and copied to the secondaries; the addresses of all of them are published at the end.
-/

namespace ControlPlane

namespace Topology

/-- The tags of the primary load balancer. -/
def primaryTags (s : Scope) : List String := s.tags [Tag.primary]

/-- Finds, creates or migrates the primary load balancer. -/
def ensurePrimary (s : Scope) : Program LoadBalancer := do
  let (zone, type) ← .ofExcept (s.primary.resolve s.site.region)
  let found ← (s.site.findBalancer zone (primaryTags s)).orNone
  let b ← match found with
    | none => do
      let addressId ← match s.primary.address with
        | some address => some <$> findAddressId s.site zone address
        | none => pure none
      s.site.createBalancer zone (s.resourceName []) type addressId (primaryTags s)
        s.balancersPrivate
    | some b =>
      if sameType b.type type then pure b else s.site.migrateBalancer zone b.id type
  return { b with privateAddress := s.primary.privateAddress }

/-- Deletes the primary load balancer, with its address unless that is pinned. Nothing can have been
created in a zone that is none. -/
def deletePrimary (s : Scope) : Program Unit := do
  match s.primary.resolve s.site.region with
  | .error _ => return
  | .ok (zone, _) =>
    match ← (s.site.findBalancer zone (primaryTags s)).orNone with
    | none => return
    | some b => s.site.deleteBalancer zone b.id (s.primary.address = none)

/-- Ensures the declared secondary load balancers, or that there are none. -/
def ensureSecondaries (s : Scope) (delete : Bool) : Program (List LoadBalancer) :=
  Secondary.ensure s (if delete then [] else s.secondaries)

/-- The order by zone and then name. -/
def byZoneAndName (a b : LoadBalancer) : Bool :=
  decide (a.zone < b.zone) || (a.zone = b.zone && decide (a.name ≤ b.name))

/-- Publishes the address of the primary, then those of the secondaries by zone and name. -/
def publish (s : Scope) (primary : LoadBalancer) (secondaries : List LoadBalancer) :
    Program Unit := do
  let address := if s.balancersPrivate then privateAddress else publicAddress
  let main ← .ofExcept (address primary)
  .emit (.address main)
  let others ← .ofExcept ((secondaries.mergeSort byZoneAndName).mapM address)
  .emit (.secondaryAddresses others)

/-- Brings the whole topology to what is declared. -/
def reconcile (s : Scope) : Program Unit := do
  let primary ← ensurePrimary s
  let secondaries ← ensureSecondaries s false
  .ofExcept (checkReady (secondaries ++ [primary]))
  let resolved ← ensurePrivateNetwork s (secondaries ++ [primary])
  let primary := resolved.getLastD primary
  let secondaries := resolved.dropLast
  let backends ← ensureBackends s.site primary secondaries
  let frontends ← ensureFrontends s [] backends
  Access.sync s primary.id frontends
  publish s primary secondaries

/-- Removes the whole topology. -/
def delete (s : Scope) : Program Unit := do
  deletePrimary s
  discard <| ensureSecondaries s true

end Topology

end ControlPlane
