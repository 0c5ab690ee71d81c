import ControlPlane.Declaration.Cluster

/-!
# Sites and scopes

A site is where a cluster's resources live: a region, a project, and the zones in which the provider
offers its products. A scope is a declared cluster at a site. Ownership of a resource is told by its
tags alone, so what was made outside a scope is never taken over or removed.
-/

namespace ControlPlane

/-- Where resources live. The zones are those that the provider advertises for every region. -/
structure Site where
  region : Region
  projectId : String
  balancerZones : List String
  gatewayZones : List String
  deriving DecidableEq, Repr

/-- A declared cluster at a site. -/
structure Scope where
  site : Site
  cluster : Cluster
  deriving DecidableEq, Repr

/-- A name with suffixes, joined by dashes. -/
def suffixedName (name : String) (suffixes : List String) : String :=
  String.intercalate "-" (name :: suffixes)

namespace Tag

/-- Marks what this library created. -/
def createdBy : String := "created-by=cluster-provisioner"

/-- Marks the primary load balancer. -/
def primary : String := "lb=main"

/-- Marks a secondary load balancer. -/
def secondary : String := "lb=extra"

/-- Marks a load balancer whose address the provider allocated and takes back with it. -/
def managedAddress : String := "lb-ip=managed"

end Tag

namespace Scope

/-- The name of a resource of the cluster. -/
def resourceName (s : Scope) (suffixes : List String) : String :=
  suffixedName s.cluster.name suffixes

/-- The tags of a resource of the cluster, the given ones last. -/
def tags (s : Scope) (additional : List String) : List String :=
  [Tag.createdBy, "cluster-namespace=" ++ s.cluster.namespaceName,
    "cluster-name=" ++ s.cluster.name] ++ additional

/-- Whether the cluster has a private network. -/
def hasPrivateNetwork (s : Scope) : Bool := s.cluster.network.privateNetwork.enabled

/-- The private network to attach load balancers to, if any. -/
def privateNetworkId (s : Scope) : Option String :=
  if s.hasPrivateNetwork then s.cluster.network.privateNetwork.id else none

/-- The declared primary load balancer. -/
def primary (s : Scope) : PrimarySpec := s.cluster.network.primary

/-- The declared secondary load balancers. -/
def secondaries (s : Scope) : List BalancerSpec := s.cluster.network.secondaries

/-- Whether load balancers only get an address on the private network. -/
def balancersPrivate (s : Scope) : Bool := s.hasPrivateNetwork && s.primary.isPrivate

/-- The port of the API server. -/
def apiServerPort (s : Scope) : Int := s.cluster.network.apiServerPort

end Scope

namespace BalancerSpec

/-- The type of a load balancer that declares none. -/
def defaultType : String := "LB-S"

/-- The declared type, or the default if there is none or an empty one. -/
def resolvedType (s : BalancerSpec) : String :=
  match s.type with
  | none | some "" => defaultType
  | some t => t

/-- The zone and the type that a declaration comes down to in a region. -/
def resolve (s : BalancerSpec) (r : Region) : Except Failure (String × String) :=
  (r.resolve s.zone).map fun zone => (zone, s.resolvedType)

end BalancerSpec

end ControlPlane
