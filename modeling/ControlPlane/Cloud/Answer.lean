import ControlPlane.Cloud.Store
import ControlPlane.Provider.Session

/-!
# How a cloud answers

A cloud as a provider. Listings go by zone, load balancer or frontend and ignore every further wish.
What is created or changed is stored as it was sent. A resource that is not there makes a request
fail with `notFound`, be it the one to change or the one under which another shall be created; the
request then changes nothing, except that a new load balancer has used up its id.
-/

namespace ControlPlane

namespace Cloud

/-- What a cloud does with one request. -/
abbrev Answer (α : Type) := Cloud → Except Failure α × Cloud

/-- Goes on with the first resource that meets a test, or fails since there is none with the id. -/
def withFirst (kind id : String) (items : List α) (p : α → Bool) (act : α → Answer β) :
    Answer β := fun c =>
  match items.find? p with
  | some a => act a c
  | none => (raise ⟨.notFound, .absent kind id⟩, c)

/-- Creates a load balancer with a given address, a fresh one, or none. -/
def createBalancer (zone name type : String) (addressId : Option String) (isPrivate : Bool)
    (tags : List String) : Answer LoadBalancer := fun c =>
  let (id, c) := c.freshId "lb"
  let store (addresses : List FlexibleAddress) (c : Cloud) :
      Except Failure LoadBalancer × Cloud :=
    let b : LoadBalancer := { id, zone, name, type, status := c.newStatus, tags, addresses }
    (.ok b, { c with balancers := c.balancers ++ [b] })
  match addressId with
  | some addressId =>
    c.withFirst "ips" addressId c.addresses (·.id = addressId) (fun a c =>
      store [{ a with balancerId := some id }] (c.bindAddress addressId id))
  | none =>
    if isPrivate then store [] c
    else
      let (a, c) := c.bookPublic zone id
      store [a] c

/-- Changes the type of a load balancer. -/
def migrateBalancer (balancerId type : String) : Answer LoadBalancer := fun c =>
  c.withFirst "lbs" balancerId c.balancers (·.id = balancerId) fun b c =>
    (.ok { b with type },
      { c with balancers := c.balancers.map fun b =>
          if b.id = balancerId then { b with type } else b })

/-- Deletes a load balancer. -/
def deleteBalancer (balancerId : String) (release : Bool) : Answer Unit := fun c =>
  c.withFirst "lbs" balancerId c.balancers (·.id = balancerId) fun b c =>
    (.ok (), (c.dropAddresses b.addresses release).removeBalancer balancerId)

/-- Creates a backend of a load balancer. -/
def createBackend (zone balancerId name : String) (pool : List String) (forwardPort : Int) :
    Answer Backend := fun c =>
  c.withFirst "lbs" balancerId c.balancers (·.id = balancerId) fun _ c =>
    let (id, c) := c.freshId "backend"
    let b : Backend := { id, balancerId, zone, name, forwardPort, pool }
    (.ok b, { c with backends := c.backends ++ [b] })

/-- Changes the pool of a backend. -/
def changePool (backendId : String) (change : List String → List String) : Answer Backend :=
  fun c =>
    c.withFirst "backends" backendId c.backends (·.id = backendId) fun b c =>
      (.ok { b with pool := change b.pool },
        { c with backends := c.backends.map fun b =>
            if b.id = backendId then { b with pool := change b.pool } else b })

/-- Creates a frontend of a load balancer for one of the backends. -/
def createFrontend (zone balancerId name backendId : String) (inboundPort : Int) :
    Answer Frontend := fun c =>
  c.withFirst "lbs" balancerId c.balancers (·.id = balancerId) fun _ c =>
    c.withFirst "backends" backendId c.backends (·.id = backendId) fun _ c =>
      let (id, c) := c.freshId "frontend"
      let f : Frontend := { id, balancerId, zone, name, inboundPort, backendId }
      (.ok f, { c with frontends := c.frontends ++ [f] })

/-- Creates a rule of a frontend. -/
def createRule (frontendId : String) (spec : RuleSpec) : Answer Rule := fun c =>
  c.withFirst "frontends" frontendId c.frontends (·.id = frontendId) fun _ c =>
    let (rule, c) := c.addRule frontendId spec
    (.ok rule, c)

/-- Replaces the rules of a frontend. With no rule to write, the frontend is not looked at. -/
def setRules (frontendId : String) (specs : List RuleSpec) : Answer (List Rule) := fun c =>
  let write (c : Cloud) : Except Failure (List Rule) × Cloud :=
    let (rules, c) := { c with rules := c.rules.filter (·.frontendId ≠ frontendId) }.addRules
      frontendId specs
    (.ok rules, c)
  if specs = [] then write c
  else c.withFirst "frontends" frontendId c.frontends (·.id = frontendId) fun _ c => write c

/-- Replaces what a rule says. -/
def updateRule (ruleId : String) (spec : RuleSpec) : Answer Rule := fun c =>
  c.withFirst "acls" ruleId c.rules (·.id = ruleId) fun r c =>
    (.ok { r with toRuleSpec := spec },
      { c with rules := c.rules.map fun r =>
          if r.id = ruleId then { r with toRuleSpec := spec } else r })

/-- Attaches a load balancer to a private network. -/
def attach (zone balancerId networkId : String) (addressId : Option String) : Answer Unit :=
  fun c =>
    let store (c : Cloud) : Except Failure Unit × Cloud :=
      (.ok (), { c with attachments := c.attachments ++ [⟨balancerId, zone, networkId⟩] })
    c.withFirst "lbs" balancerId c.balancers (·.id = balancerId) fun _ c =>
      match addressId with
      | some addressId =>
        c.withFirst "private_ips" addressId c.privateAddresses (·.id = addressId) fun _ c =>
          store { c with privateAddresses := c.privateAddresses.map fun a =>
            if a.id = addressId then { a with holder := some balancerId } else a }
      | none => store (if c.booksAddresses then c.bookPrivate networkId balancerId else c)

/-- The answer to a request. -/
def answer : (r : Request) → Answer r.Reply
  | .listBalancers zone _, c => (.ok (c.balancers.filter (·.zone = zone)), c)
  | .listAddresses zone _, c => (.ok (c.addresses.filter (·.zone = zone)), c)
  | .createBalancer zone name type addressId isPrivate tags, c =>
    c.createBalancer zone name type addressId isPrivate tags
  | .migrateBalancer _ balancerId type, c => c.migrateBalancer balancerId type
  | .deleteBalancer _ balancerId release, c => c.deleteBalancer balancerId release
  | .listBackends _ balancerId _, c => (.ok (c.backends.filter (·.balancerId = balancerId)), c)
  | .createBackend zone balancerId name pool forwardPort, c =>
    c.createBackend zone balancerId name pool forwardPort
  | .setServers _ backendId servers, c => c.changePool backendId fun _ => servers
  | .addServer _ backendId server, c =>
    let (b, c) := c.changePool backendId (· ++ [server])
    (discard b, c)
  | .removeServer _ backendId server, c =>
    let (b, c) := c.changePool backendId (·.erase server)
    (discard b, c)
  | .listFrontends _ balancerId _, c =>
    (.ok (c.frontends.filter (·.balancerId = balancerId)), c)
  | .createFrontend zone balancerId name backendId inboundPort, c =>
    c.createFrontend zone balancerId name backendId inboundPort
  | .listRules _ frontendId _, c => (.ok (c.rules.filter (·.frontendId = frontendId)), c)
  | .createRule _ frontendId spec, c => c.createRule frontendId spec
  | .updateRule _ ruleId spec, c => c.updateRule ruleId spec
  | .deleteRule _ ruleId, c =>
    c.withFirst "acls" ruleId c.rules (·.id = ruleId) fun _ c =>
      (.ok (), { c with rules := c.rules.filter (·.id ≠ ruleId) })
  | .setRules _ frontendId specs, c => c.setRules frontendId specs
  | .listAttachments _ balancerId, c =>
    (.ok (c.attachments.filter (·.balancerId = balancerId)), c)
  | .attach zone balancerId networkId addressId, c =>
    c.attach zone balancerId networkId addressId
  | .listPrivateAddresses _, c => (.ok c.privateAddresses, c)
  | .listGateways zone _, c => (.ok (c.gateways.filter (·.zone = zone)), c)

/-- A cloud as a provider that takes no time and never fails by itself. -/
def provider : Provider Cloud where
  answer r _ w :=
    let (a, store) := w.store.answer r
    (a, { w with store })

end Cloud

end ControlPlane
