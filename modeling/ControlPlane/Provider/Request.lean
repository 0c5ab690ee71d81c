import ControlPlane.Number.Decimal
import ControlPlane.Resource.Balancer
import ControlPlane.Resource.Pool
import ControlPlane.Resource.PrivateNetwork
import ControlPlane.Resource.Rule

/-!
# Provider requests

Everything that can be asked of a cloud provider, and the type of each answer. A provider may answer
a listing with more than was asked for: whoever asks filters again. `method` is the operation's name
in reports, `endpoint` and `arguments` are its line in a record of the traffic.
-/

namespace ControlPlane

/-- A request to a provider. -/
inductive Request
  | listBalancers (zone : String) (tags : List String)
  | listAddresses (zone address : String)
  | createBalancer (zone name type : String) (addressId : Option String) (isPrivate : Bool)
      (tags : List String)
  | migrateBalancer (zone balancerId type : String)
  | deleteBalancer (zone balancerId : String) (releaseAddress : Bool)
  | listBackends (zone balancerId name : String)
  | createBackend (zone balancerId name : String) (servers : List String) (port : Int)
  | setServers (zone backendId : String) (servers : List String)
  | addServer (zone backendId server : String)
  | removeServer (zone backendId server : String)
  | listFrontends (zone balancerId name : String)
  | createFrontend (zone balancerId name backendId : String) (port : Int)
  | listRules (zone frontendId : String) (name : Option String)
  | createRule (zone frontendId : String) (spec : RuleSpec)
  | updateRule (zone ruleId : String) (spec : RuleSpec)
  | deleteRule (zone ruleId : String)
  | setRules (zone frontendId : String) (specs : List RuleSpec)
  | listAttachments (zone balancerId : String)
  | attach (zone balancerId networkId : String) (addressId : Option String)
  | listPrivateAddresses (networkId : String)
  | listGateways (zone : String) (tags : List String)
  deriving DecidableEq, Repr

namespace Request

/-- The type of the answer to a request. -/
@[reducible] def Reply : Request → Type
  | listBalancers .. => List LoadBalancer
  | listAddresses .. => List FlexibleAddress
  | createBalancer .. => LoadBalancer
  | migrateBalancer .. => LoadBalancer
  | deleteBalancer .. => Unit
  | listBackends .. => List Backend
  | createBackend .. => Backend
  | setServers .. => Backend
  | addServer .. => Unit
  | removeServer .. => Unit
  | listFrontends .. => List Frontend
  | createFrontend .. => Frontend
  | listRules .. => List Rule
  | createRule .. => Rule
  | updateRule .. => Rule
  | deleteRule .. => Unit
  | setRules .. => List Rule
  | listAttachments .. => List Attachment
  | attach .. => Unit
  | listPrivateAddresses .. => List PrivateAddress
  | listGateways .. => List Gateway

/-- Whether a request may change what the provider holds. -/
def isMutation : Request → Bool
  | listBalancers .. | listAddresses .. | listBackends .. | listFrontends .. | listRules ..
  | listAttachments .. | listPrivateAddresses .. | listGateways .. => false
  | _ => true

/-- The zone that a request goes to, if it goes to one. -/
def zone? : Request → Option String
  | listBalancers zone .. | listAddresses zone .. | createBalancer zone .. | migrateBalancer zone ..
  | deleteBalancer zone .. | listBackends zone .. | createBackend zone .. | setServers zone ..
  | addServer zone .. | removeServer zone .. | listFrontends zone .. | createFrontend zone ..
  | listRules zone .. | createRule zone .. | updateRule zone .. | deleteRule zone ..
  | setRules zone .. | listAttachments zone .. | attach zone .. | listGateways zone .. => some zone
  | listPrivateAddresses _ => none

/-- The name of the operation in reports. -/
def method : Request → String
  | listBalancers .. => "ListLBs"
  | listAddresses .. => "ListIPs"
  | createBalancer .. => "CreateLB"
  | migrateBalancer .. => "MigrateLB"
  | deleteBalancer .. => "DeleteLB"
  | listBackends .. => "ListBackends"
  | createBackend .. => "CreateBackend"
  | setServers .. => "SetBackendServers"
  | addServer .. => "AddBackendServers"
  | removeServer .. => "RemoveBackendServers"
  | listFrontends .. => "ListFrontends"
  | createFrontend .. => "CreateFrontend"
  | listRules .. => "ListACLs"
  | createRule .. => "CreateACL"
  | updateRule .. => "UpdateACL"
  | deleteRule .. => "DeleteACL"
  | setRules .. => "SetACLs"
  | listAttachments .. => "ListLBPrivateNetworks"
  | attach .. => "AttachPrivateNetwork"
  | listPrivateAddresses .. => "ListIPs"
  | listGateways .. => "ListGateways"

/-- The name of the operation in a record of the traffic. -/
def endpoint : Request → String
  | listBalancers .. => "list_lbs"
  | listAddresses .. => "list_lb_ips"
  | createBalancer .. => "create_lb"
  | migrateBalancer .. => "migrate_lb"
  | deleteBalancer .. => "delete_lb"
  | listBackends .. => "list_backends"
  | createBackend .. => "create_backend"
  | setServers .. => "set_backend_servers"
  | addServer .. => "add_backend_server"
  | removeServer .. => "remove_backend_server"
  | listFrontends .. => "list_frontends"
  | createFrontend .. => "create_frontend"
  | listRules .. => "list_acls"
  | createRule .. => "create_acl"
  | updateRule .. => "update_acl"
  | deleteRule .. => "delete_acl"
  | setRules .. => "set_acls"
  | listAttachments .. => "list_lb_private_networks"
  | attach .. => "attach_private_network"
  | listPrivateAddresses .. => "list_private_ips"
  | listGateways .. => "list_gateways"

/-- The arguments of a request as plain data. -/
def arguments : Request → List Value
  | listBalancers zone tags => [.text zone, .texts tags]
  | listAddresses zone address => [.text zone, .text address]
  | createBalancer zone name type addressId isPrivate tags =>
    [.text zone, .text name, .text type, .ofText? addressId, .bool isPrivate, .texts tags]
  | migrateBalancer zone balancerId type => [.text zone, .text balancerId, .text type]
  | deleteBalancer zone balancerId releaseAddress =>
    [.text zone, .text balancerId, .bool releaseAddress]
  | listBackends zone balancerId name => [.text zone, .text balancerId, .text name]
  | createBackend zone balancerId name servers port =>
    [.text zone, .text balancerId, .text name, .texts servers, .int port]
  | setServers zone backendId servers => [.text zone, .text backendId, .texts servers]
  | addServer zone backendId server => [.text zone, .text backendId, .text server]
  | removeServer zone backendId server => [.text zone, .text backendId, .text server]
  | listFrontends zone balancerId name => [.text zone, .text balancerId, .text name]
  | createFrontend zone balancerId name backendId port =>
    [.text zone, .text balancerId, .text name, .text backendId, .int port]
  | listRules zone frontendId name => [.text zone, .text frontendId, .ofText? name]
  | createRule zone frontendId spec => [.text zone, .text frontendId, spec.toValue]
  | updateRule zone ruleId spec => [.text zone, .text ruleId, spec.toValue]
  | deleteRule zone ruleId => [.text zone, .text ruleId]
  | setRules zone frontendId specs =>
    [.text zone, .text frontendId, .list (specs.map RuleSpec.toValue)]
  | listAttachments zone balancerId => [.text zone, .text balancerId]
  | attach zone balancerId networkId addressId =>
    [.text zone, .text balancerId, .text networkId, .ofText? addressId]
  | listPrivateAddresses networkId => [.text networkId]
  | listGateways zone tags => [.text zone, .texts tags]

end Request

/-- A request as it was sent, with the time that was left for it. -/
structure Call where
  request : Request
  timeout : Option Seconds
  deriving DecidableEq, Repr

/-- A call as plain data. -/
def Call.toValue (c : Call) : Value :=
  .list (.text c.request.endpoint :: c.request.arguments ++
    [.ofText? (c.timeout.map (·.fixed 3))])

end ControlPlane
