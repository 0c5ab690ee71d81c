import ControlPlane.Access.Sync
import ControlPlane.Topology.Secondary

/-!
# The parts of a topology

What the load balancers of a cluster need besides existing: an attachment to the private network, a
backend whose pool is the primary's, and a frontend on the port of the API server.
-/

namespace ControlPlane

namespace Topology

/-- The port that API servers listen on. -/
def serverPort : Int := 6443

/-- The name of the backend of the API server. -/
def backendName : String := "kube-apiserver"

/-- The name of the frontend of the API server. -/
def frontendName : String := "kube-apiserver"

/-- The delay before a load balancer is looked at again that is not ready. -/
def notReadyDelay : Delay := ⟨5, by decide +kernel⟩

/-- The delay before a private address is looked for again. -/
def addressPendingDelay : Delay := ⟨3, by decide +kernel⟩

/-- Fails at the first load balancer that is not ready. -/
def checkReady : List LoadBalancer → Except Failure Unit
  | [] => .ok ()
  | b :: rest =>
    if b.status = .ready then checkReady rest
    else raise ⟨.transient notReadyDelay, .notReady b.id b.status.word⟩

/-- The address that a load balancer is published under. -/
def publicAddress (b : LoadBalancer) : Except Failure String :=
  match b.firstV4 with
  | .error detail => raise (.badValue detail)
  | .ok none => raise ⟨.general, .noPublicAddress b.id⟩
  | .ok (some address) => .ok address

/-- The address that a private load balancer is published under. -/
def privateAddress (b : LoadBalancer) : Except Failure String :=
  match b.privateAddress with
  | none => raise ⟨.general, .noPrivateAddress b.id⟩
  | some address => .ok address

/-! ## The private network -/

/-- The available addresses of a private network, listed only if that has not been done. -/
def availableOnce (networkId : String) :
    Option (List PrivateAddress) → Program (List PrivateAddress)
  | some known => return known
  | none => Site.availableAddresses networkId

/-- The id of the address that a load balancer is pinned to, if it is, and the available addresses
if they had to be listed. -/
def pinnedAddressId (networkId : String) (b : LoadBalancer)
    (known : Option (List PrivateAddress)) :
    Program (Option String × Option (List PrivateAddress)) :=
  match b.privateAddress with
  | none => return (none, known)
  | some address => do
    let available ← availableOnce networkId known
    match available.find? (·.address = address) with
    | none => .fail (.ofFault (.terminal (.pinnedPrivateAddressMissing address)))
    | some a => return (some a.id, some available)

/-- Attaches a load balancer unless it is attached. Returns the available addresses if they are
known by then. -/
def attachOne (s : Site) (networkId : String) (known : Option (List PrivateAddress))
    (b : LoadBalancer) : Program (Option (List PrivateAddress)) := do
  match ← (s.findAttachment b.zone b.id networkId).orNone with
  | some _ => return known
  | none =>
    let (addressId, known) ← pinnedAddressId networkId b known
    s.attach b.zone b.id networkId addressId
    return known

/-- Attaches the load balancers that are not attached, one after the other. -/
def attachAll (s : Site) (networkId : String) :
    (known : Option (List PrivateAddress)) → List LoadBalancer → Program Unit
  | _, [] => return
  | known, b :: rest => do
    let known ← attachOne s networkId known b
    attachAll s networkId known rest

/-- The last of some addresses that a load balancer holds. -/
def heldBy (balancerId : String) (addresses : List PrivateAddress) : Option String :=
  (addresses.reverse.find? (·.holder = some balancerId)).map (·.address)

/-- Gives every load balancer without a private address the one it holds. -/
def resolveAll (held : List PrivateAddress) :
    List LoadBalancer → Except Failure (List LoadBalancer)
  | [] => .ok []
  | b :: rest => do
    let b ← match b.privateAddress with
      | some _ => .ok b
      | none => match heldBy b.id held with
        | some address => .ok { b with privateAddress := some address }
        | none => raise ⟨.transient addressPendingDelay, .privateAddressPending b.name⟩
    return b :: (← resolveAll held rest)

/-- The ids of the load balancers whose private addresses are not known yet. -/
def unresolved (balancers : List LoadBalancer) : List String :=
  (balancers.filter (·.privateAddress = none)).map (·.id)

/-- Finds out the private addresses that are not known yet. They are listed only if there are any.
-/
def resolveHeld (networkId : String) (balancers : List LoadBalancer) :
    Program (List LoadBalancer) := do
  if unresolved balancers = [] then return balancers
  else
    let held ← Site.heldAddresses networkId (unresolved balancers)
    .ofExcept (resolveAll held balancers)

/-- Attaches every load balancer to the cluster's private network and finds out its private address.
A pinned address must be available when its load balancer is attached. -/
def ensurePrivateNetwork (s : Scope) (balancers : List LoadBalancer) :
    Program (List LoadBalancer) :=
  match s.privateNetworkId with
  | none => return balancers
  | some networkId => do
    attachAll s.site networkId none balancers
    resolveHeld networkId balancers

/-! ## Backends and frontends -/

/-- The backend of a load balancer, made with the given servers if there is none. -/
def ensureBackend (s : Site) (b : LoadBalancer) (servers : List String) (update : Bool) :
    Program Backend := do
  let servers := sortTexts servers
  match ← (s.findBackend b.zone b.id backendName).orNone with
  | none => s.createBackend b.zone b.id backendName servers serverPort
  | some backend =>
    if update && servers ≠ sortTexts backend.pool then s.setServers b.zone backend.id servers
    else return backend

/-- The backends of load balancers, with the given servers. -/
def copyPool (s : Site) (servers : List String) : List LoadBalancer → Program (List Backend)
  | [] => return []
  | b :: rest => do
    let backend ← ensureBackend s b servers true
    let more ← copyPool s servers rest
    return backend :: more

/-- The backend of the primary, whose pool is left as it is, and those of the secondaries, which get
the same pool. -/
def ensureBackends (s : Site) (primary : LoadBalancer) (secondaries : List LoadBalancer) :
    Program (List Backend) := do
  let backend ← ensureBackend s primary [] false
  let more ← copyPool s backend.pool secondaries
  return backend :: more

/-- Warns of a frontend that is on another port than declared. -/
def checkPort (f : Frontend) (port : Int) : Program Unit :=
  if f.inboundPort = port then return
  else .emit (.log .warning ("Frontend " ++ f.id ++ " listens on port " ++ toString f.inboundPort ++
    " but the API server port is " ++ toString port))

/-- The frontend of a backend, made if there is none. One that exists is never changed. -/
def ensureFrontend (s : Scope) (b : Backend) : Program Frontend := do
  match ← (s.site.findFrontend b.zone b.balancerId frontendName).orNone with
  | none => s.site.createFrontend b.zone b.balancerId frontendName b.id s.apiServerPort
  | some f =>
    checkPort f s.apiServerPort
    return f

/-- The frontends of backends by load balancer, added to those known. -/
def ensureFrontends (s : Scope) : FrontendMap → List Backend → Program FrontendMap
  | known, [] => return known
  | known, b :: rest => do
    let f ← ensureFrontend s b
    ensureFrontends s (known.put b.balancerId f) rest

end Topology

end ControlPlane
