import ControlPlane.Schema.Reader

/-!
# Private networks and gateways

What ties a cluster together besides its load balancers: their attachments to a private network, the
addresses of that network, and the public gateways that private nodes reach the outside by.
-/

namespace ControlPlane

/-- A load balancer's attachment to a private network. -/
structure Attachment where
  balancerId : String
  zone : String
  networkId : String
  deriving DecidableEq, Repr

/-- An address of a private network, without prefix length. It is available while no resource holds
it. -/
structure PrivateAddress where
  id : String
  address : String
  networkId : String
  holder : Option String := none
  deriving DecidableEq, Repr

/-- A public gateway. -/
structure Gateway where
  id : String
  zone : String
  name : String
  tags : List String := []
  v4 : Option String := none
  deriving DecidableEq, Repr

/-- Reads an attachment. -/
def Attachment.ofValue : Schema.Reader Attachment := Schema.table fun entries =>
  mk <$> Schema.required "lb_id" Schema.text entries
    <*> Schema.required "zone" Schema.text entries
    <*> Schema.required "private_network_id" Schema.text entries

/-- An attachment as plain data. -/
def Attachment.toValue (a : Attachment) : Value :=
  .record [("lb_id", .text a.balancerId), ("zone", .text a.zone),
    ("private_network_id", .text a.networkId)]

/-- Reads a private address. -/
def PrivateAddress.ofValue : Schema.Reader PrivateAddress := Schema.table fun entries =>
  mk <$> Schema.required "id" Schema.text entries
    <*> Schema.required "address" Schema.text entries
    <*> Schema.required "private_network_id" Schema.text entries
    <*> Schema.withDefault "resource_id" (Schema.optional Schema.text) none entries

/-- A private address as plain data. -/
def PrivateAddress.toValue (a : PrivateAddress) : Value :=
  .record [("id", .text a.id), ("address", .text a.address),
    ("private_network_id", .text a.networkId), ("resource_id", .ofText? a.holder)]

/-- Reads a gateway. -/
def Gateway.ofValue : Schema.Reader Gateway := Schema.table fun entries =>
  mk <$> Schema.required "id" Schema.text entries
    <*> Schema.required "zone" Schema.text entries
    <*> Schema.required "name" Schema.text entries
    <*> Schema.withDefault "tags" (Schema.listOf Schema.text) [] entries
    <*> Schema.withDefault "ipv4" (Schema.optional Schema.text) none entries

/-- A gateway as plain data. -/
def Gateway.toValue (g : Gateway) : Value :=
  .record [("id", .text g.id), ("zone", .text g.zone), ("name", .text g.name),
    ("tags", .texts g.tags), ("ipv4", .ofText? g.v4)]

end ControlPlane
