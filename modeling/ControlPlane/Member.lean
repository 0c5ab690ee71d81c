import ControlPlane.Topology.Reconcile

/-!
# Members of the control plane

A member is one node of the control plane. It puts its address into the pool of every load balancer
and has a rule of its own on every frontend, named after it, for the addresses it reaches the
outside by. Load balancers that are being deleted are left alone.
-/

namespace ControlPlane

/-- A member of a cluster's control plane. -/
structure Member where
  scope : Scope
  name : String
  deriving DecidableEq, Repr

namespace Member

/-- The index of a member's rule. -/
def ruleIndex : Int := 1

/-- The name of a member's rule. -/
def ruleName (m : Member) : String := m.scope.resourceName [m.name]

/-- The load balancers of the cluster, the primary last. -/
def findBalancers (m : Member) : Program (List LoadBalancer) := do
  let zone ← .ofExcept (m.scope.site.region.resolve m.scope.primary.zone)
  let primary ← m.scope.site.findBalancer zone (Topology.primaryTags m.scope)
  let secondaries ← m.scope.site.findBalancers (Secondary.tags m.scope)
  return secondaries ++ [primary]

/-- Puts a node's address into the pool of a load balancer, or takes it out. -/
def ensureServer (s : Site) (node : String) (deletion : Bool) (b : LoadBalancer) :
    Program Unit := do
  let backend ← s.findBackend b.zone b.id Topology.backendName
  if deletion && backend.pool.contains node then s.removeServer b.zone backend.id node
  else if !deletion && !backend.pool.contains node then s.addServer b.zone backend.id node
  else return

/-- Acts on each load balancer that is not being deleted, one after the other. -/
def eachLive (act : LoadBalancer → Program Unit) : List LoadBalancer → Program Unit
  | [] => return
  | b :: rest => do
    if b.status ≠ .deleting then act b
    eachLive act rest

/-- Ensures that a node is in the pools of load balancers, or in none of them. -/
def ensureServers (m : Member) (balancers : List LoadBalancer) (node : String)
    (deletion : Bool) : Program Unit :=
  eachLive (ensureServer m.scope.site node deletion) balancers

/-- The rule of the member for some public addresses. -/
def desiredRule (m : Member) (addresses : List String) : DesiredRule :=
  ⟨m.ruleName, .allow, ruleIndex, addresses⟩

/-- Ensures the member's rule on the frontend of a load balancer. In a deletion there is nothing to
do without a frontend. -/
def ensureRule (m : Member) (addresses : List String) (deletion : Bool) (b : LoadBalancer) :
    Program Unit := do
  let frontend ← (some <$> m.scope.site.findFrontend b.zone b.id Topology.frontendName).handle
    fun e => if deletion && e.isIgnored [.notFound] then .done none else .fail e
  match frontend with
  | none => return
  | some f => Access.ensureRule m.scope.site f (m.desiredRule addresses)

/-- Ensures the member's rule on the frontends of load balancers. -/
def ensureRules (m : Member) (balancers : List LoadBalancer) (addresses : List String)
    (deletion : Bool) : Program Unit :=
  eachLive (m.ensureRule addresses deletion) balancers

/-- Registers the member. -/
def reconcile (m : Member) (node : String) (addresses : List String) : Program Unit := do
  let balancers ← m.findBalancers
  m.ensureServers balancers node false
  m.ensureRules balancers addresses false

/-- Removes the member. Without a primary load balancer there is nothing to remove it from. -/
def delete (m : Member) (node : String) : Program Unit := do
  let balancers := (← m.findBalancers.orNone).getD []
  m.ensureRules balancers [] true
  m.ensureServers balancers node true

end Member

end ControlPlane
