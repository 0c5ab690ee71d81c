import ControlPlane.Provider.Program
import ControlPlane.Scope
import ControlPlane.Text.Lower

/-!
# Provider operations

The operations that the reconcilers are made of. They refuse zones where the product is not
available, send requests, filter again what a provider lists, and pick the single resource that is
meant.
-/

namespace ControlPlane

/-- Whether all wanted tags are among the tags. -/
def hasTags (tags wanted : List String) : Bool := wanted.all (· ∈ tags)

/-- Fails without any tag to look for. -/
def checkTags (wanted : List String) : Except Failure Unit :=
  if wanted = [] then raise (.badValue .noTags) else .ok ()

/-- The single element of a list. -/
def single (items : List α) (description : String) : Except Failure α :=
  match items with
  | [] => raise ⟨.notFound, .noneFound description⟩
  | [a] => .ok a
  | _ => raise ⟨.tooManyFound, .severalFound items.length description⟩

namespace Site

/-- Fails in a zone where there are no load balancers. -/
def checkZone (s : Site) (zone : String) : Program Unit :=
  .ofExcept (s.region.checkZone s.balancerZones zone)

/-- The load balancer of a zone with all the tags. -/
def findBalancer (s : Site) (zone : String) (tags : List String) : Program LoadBalancer := do
  s.checkZone zone
  .ofExcept (checkTags tags)
  let found ← .request (.listBalancers zone tags)
  .ofExcept
    (single (found.filter (hasTags ·.tags tags)) ("LBs with tags " ++ Text.quotedList tags))

/-- What a request lists in each of some zones, filtered, one zone after the other. -/
def inZones (zones : List String) (list : String → Program (List α)) (p : α → Bool) :
    Program (List α) :=
  match zones with
  | [] => .done []
  | zone :: rest => do
    let found ← list zone
    let more ← inZones rest list p
    return found.filter p ++ more

/-- The load balancers of the region with all the tags. -/
def findBalancers (s : Site) (tags : List String) : Program (List LoadBalancer) := do
  .ofExcept (checkTags tags)
  inZones (s.region.productZones s.balancerZones)
    (fun zone => .request (.listBalancers zone tags)) (hasTags ·.tags tags)

/-- The flexible address of a zone with a given address. -/
def findAddress (s : Site) (zone address : String) : Program FlexibleAddress := do
  s.checkZone zone
  let found ← .request (.listAddresses zone address)
  .ofExcept (single (found.filter (·.address = address)) ("IPs with address " ++ address))

/-- Creates a load balancer. Its type is sent in lower case. -/
def createBalancer (s : Site) (zone name type : String) (addressId : Option String)
    (tags : List String) (isPrivate : Bool) : Program LoadBalancer := do
  s.checkZone zone
  .request (.createBalancer zone name (Text.lower type) addressId isPrivate tags)

/-- Changes the type of a load balancer. It is sent in lower case. -/
def migrateBalancer (s : Site) (zone balancerId type : String) : Program LoadBalancer := do
  s.checkZone zone
  .request (.migrateBalancer zone balancerId (Text.lower type))

/-- Deletes a load balancer, and releases its address if asked to. -/
def deleteBalancer (s : Site) (zone balancerId : String) (releaseAddress : Bool) :
    Program Unit := do
  s.checkZone zone
  .request (.deleteBalancer zone balancerId releaseAddress)

/-- The backend of a load balancer with a name. -/
def findBackend (s : Site) (zone balancerId name : String) : Program Backend := do
  s.checkZone zone
  let found ← .request (.listBackends zone balancerId name)
  .ofExcept (single (found.filter (·.name = name)) ("backends with name " ++ name))

/-- Creates a backend. -/
def createBackend (s : Site) (zone balancerId name : String) (servers : List String) (port : Int) :
    Program Backend := do
  s.checkZone zone
  .request (.createBackend zone balancerId name servers port)

/-- Replaces the pool of a backend. -/
def setServers (s : Site) (zone backendId : String) (servers : List String) :
    Program Backend := do
  s.checkZone zone
  .request (.setServers zone backendId servers)

/-- Adds a server to the pool of a backend. -/
def addServer (s : Site) (zone backendId server : String) : Program Unit := do
  s.checkZone zone
  .request (.addServer zone backendId server)

/-- Removes a server from the pool of a backend. -/
def removeServer (s : Site) (zone backendId server : String) : Program Unit := do
  s.checkZone zone
  .request (.removeServer zone backendId server)

/-- The frontend of a load balancer with a name. -/
def findFrontend (s : Site) (zone balancerId name : String) : Program Frontend := do
  s.checkZone zone
  let found ← .request (.listFrontends zone balancerId name)
  .ofExcept (single (found.filter (·.name = name)) ("frontends with name " ++ name))

/-- Creates a frontend. -/
def createFrontend (s : Site) (zone balancerId name backendId : String) (port : Int) :
    Program Frontend := do
  s.checkZone zone
  .request (.createFrontend zone balancerId name backendId port)

/-- All rules of a frontend. -/
def listRules (s : Site) (zone frontendId : String) : Program (List Rule) := do
  s.checkZone zone
  .request (.listRules zone frontendId none)

/-- The rule of a frontend with a name. -/
def findRule (s : Site) (zone frontendId name : String) : Program Rule := do
  s.checkZone zone
  let found ← .request (.listRules zone frontendId (some name))
  .ofExcept (single (found.filter (·.name = name)) ("ACLs with name " ++ name))

/-- A specification that has been checked. -/
def specified (spec : Schema.Checked RuleSpec) : Except Failure RuleSpec :=
  match spec with
  | .valid spec => .ok spec
  | .invalid issues => raise (.invalid issues)

/-- Creates a rule. -/
def createRule (s : Site) (zone frontendId name : String) (index : Int) (action : RuleAction)
    (subnets : List String) : Program Rule := do
  s.checkZone zone
  let spec ← .ofExcept (specified (RuleSpec.checked name index action subnets))
  .request (.createRule zone frontendId spec)

/-- Replaces what a rule says. -/
def updateRule (s : Site) (zone ruleId name : String) (index : Int) (action : RuleAction)
    (subnets : List String) : Program Rule := do
  s.checkZone zone
  let spec ← .ofExcept (specified (RuleSpec.checked name index action subnets))
  .request (.updateRule zone ruleId spec)

/-- Deletes a rule. -/
def deleteRule (s : Site) (zone ruleId : String) : Program Unit := do
  s.checkZone zone
  .request (.deleteRule zone ruleId)

/-- Replaces all rules of a frontend. -/
def setRules (s : Site) (zone frontendId : String) (specs : List RuleSpec) :
    Program (List Rule) := do
  s.checkZone zone
  .request (.setRules zone frontendId specs)

/-- The gateways of the region with all the tags. -/
def findGateways (s : Site) (tags : List String) : Program (List Gateway) := do
  .ofExcept (checkTags tags)
  inZones (s.region.productZones s.gatewayZones)
    (fun zone => .request (.listGateways zone tags)) (hasTags ·.tags tags)

/-- The attachment of a load balancer to a private network. -/
def findAttachment (s : Site) (zone balancerId networkId : String) : Program Attachment := do
  s.checkZone zone
  let found ← .request (.listAttachments zone balancerId)
  .ofExcept (single (found.filter (·.networkId = networkId))
    ("attached private networks with id " ++ networkId))

/-- Attaches a load balancer to a private network, with a given address of it or with any. -/
def attach (s : Site) (zone balancerId networkId : String) (addressId : Option String) :
    Program Unit := do
  s.checkZone zone
  .request (.attach zone balancerId networkId addressId)

/-- The addresses of a private network that no resource holds. -/
def availableAddresses (networkId : String) : Program (List PrivateAddress) := do
  let found ← .request (.listPrivateAddresses networkId)
  return found.filter fun a => a.networkId = networkId && a.holder = none

/-- The addresses of a private network that one of some load balancers holds. -/
def heldAddresses (networkId : String) (balancerIds : List String) :
    Program (List PrivateAddress) := do
  let found ← .request (.listPrivateAddresses networkId)
  return found.filter fun a => a.networkId = networkId && a.holder.any (· ∈ balancerIds)

end Site

end ControlPlane
