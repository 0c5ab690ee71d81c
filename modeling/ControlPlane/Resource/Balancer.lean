import ControlPlane.Network.Address
import ControlPlane.Schema.Reader

/-!
# Load balancers

Load balancers as a provider reports them, with the flexible addresses bound to them. The private
address is not the provider's: the reconcilers set it.
-/

namespace ControlPlane

/-- What state a provider reports a load balancer in. -/
inductive BalancerStatus
  | unknown
  | ready
  | pending
  | stopped
  | error
  | locked
  | migrating
  | toCreate
  | creating
  | toDelete
  | deleting
  deriving DecidableEq, Repr

/-- The states with the words that a provider uses for them. -/
def BalancerStatus.words : List (String × BalancerStatus) :=
  [("unknown", unknown), ("ready", ready), ("pending", pending), ("stopped", stopped),
   ("error", error), ("locked", locked), ("migrating", migrating), ("to_create", toCreate),
   ("creating", creating), ("to_delete", toDelete), ("deleting", deleting)]

/-- The word for a state. -/
def BalancerStatus.word : BalancerStatus → String
  | unknown => "unknown"
  | ready => "ready"
  | pending => "pending"
  | stopped => "stopped"
  | error => "error"
  | locked => "locked"
  | migrating => "migrating"
  | toCreate => "to_create"
  | creating => "creating"
  | toDelete => "to_delete"
  | deleting => "deleting"

/-- A flexible address, which can be bound to a load balancer. -/
structure FlexibleAddress where
  id : String
  address : String
  zone : String
  balancerId : Option String := none
  tags : List String := []
  deriving DecidableEq, Repr, Inhabited

/-- A load balancer. -/
structure LoadBalancer where
  id : String
  zone : String
  name : String
  type : String
  status : BalancerStatus := .ready
  tags : List String := []
  addresses : List FlexibleAddress := []
  privateAddress : Option String := none
  deriving DecidableEq, Repr

namespace FlexibleAddress

/-- Reads a flexible address. -/
def ofValue : Schema.Reader FlexibleAddress := Schema.table fun entries =>
  mk <$> Schema.required "id" Schema.text entries
    <*> Schema.required "address" Schema.text entries
    <*> Schema.required "zone" Schema.text entries
    <*> Schema.withDefault "lb_id" (Schema.optional Schema.text) none entries
    <*> Schema.withDefault "tags" (Schema.listOf Schema.text) [] entries

/-- A flexible address as plain data. -/
def toValue (a : FlexibleAddress) : Value :=
  .record [("id", .text a.id), ("address", .text a.address), ("zone", .text a.zone),
    ("lb_id", .ofText? a.balancerId), ("tags", .texts a.tags)]

end FlexibleAddress

namespace LoadBalancer

/-- Reads a load balancer. -/
def ofValue : Schema.Reader LoadBalancer := Schema.table fun entries =>
  mk <$> Schema.required "id" Schema.text entries
    <*> Schema.required "zone" Schema.text entries
    <*> Schema.required "name" Schema.text entries
    <*> Schema.required "type" Schema.text entries
    <*> Schema.withDefault "status" (Schema.member BalancerStatus.words) .ready entries
    <*> Schema.withDefault "tags" (Schema.listOf Schema.text) [] entries
    <*> Schema.withDefault "ips" (Schema.listOf FlexibleAddress.ofValue) [] entries
    <*> Schema.withDefault "private_ip" (Schema.optional Schema.text) none entries

/-- A load balancer as plain data. -/
def toValue (b : LoadBalancer) : Value :=
  .record [("id", .text b.id), ("zone", .text b.zone), ("name", .text b.name),
    ("type", .text b.type), ("status", .text b.status.word), ("tags", .texts b.tags),
    ("ips", .list (b.addresses.map FlexibleAddress.toValue)),
    ("private_ip", .ofText? b.privateAddress)]

/-- Whether an address is bound to the load balancer. -/
def holds (b : LoadBalancer) (address : String) : Bool :=
  b.addresses.any (·.address = address)

/-- The first IPv4 address among texts. A text before it that is no address is an error. -/
def firstV4In : List String → Except Detail (Option String)
  | [] => .ok none
  | s :: rest =>
    match Address.ofText? s with
    | none => .error (.addressFormat s)
    | some a => if a.isV4 then .ok (some s) else firstV4In rest

/-- The first IPv4 address bound to the load balancer. -/
def firstV4 (b : LoadBalancer) : Except Detail (Option String) :=
  firstV4In (b.addresses.map (·.address))

end LoadBalancer

end ControlPlane
