import ControlPlane.Declaration.Balancer

/-!
# Declared clusters

A cluster declares its name, its namespace and its network: the private network it lives on, the
primary and secondary load balancers of its control plane, and the port of its API server. The order
of the secondaries matters, since their names derive from it.
-/

namespace ControlPlane

/-- The private network of a cluster. -/
structure PrivateNetworkSpec where
  enabled : Bool := false
  id : Option String := none
  deriving DecidableEq, Repr, Inhabited

/-- The network of a cluster. -/
structure NetworkSpec where
  privateNetwork : PrivateNetworkSpec := {}
  primary : PrimarySpec := {}
  secondaries : List BalancerSpec := []
  apiServerPort : Int := 6443
  deriving DecidableEq, Repr, Inhabited

/-- A declared cluster. -/
structure Cluster where
  name : String
  namespaceName : String := "default"
  network : NetworkSpec := {}
  deriving DecidableEq, Repr, Inhabited

namespace PrivateNetworkSpec

/-- Checks that an enabled private network has an id. -/
def check (s : PrivateNetworkSpec) : Schema.Checked PrivateNetworkSpec :=
  if s.enabled ∧ s.id.getD "" = "" then .problem (.rejected .networkIdRequired) else .valid s

/-- The names of the fields. -/
def fieldNames : List String := ["enabled", "id"]

/-- Reads a declared private network. -/
def ofValue : Schema.Reader PrivateNetworkSpec := fun v =>
  (Schema.table (fun entries =>
    (fun enabled id _ => mk enabled id)
      <$> Schema.withDefault "enabled" Schema.truth false entries
      <*> Schema.withDefault "id" (Schema.optional Schema.text) none entries
      <*> Schema.noKeysBut fieldNames entries) v).refine check

/-- The fields of a declared private network as plain data. -/
def fields (s : PrivateNetworkSpec) : List (String × Value) :=
  [("enabled", .bool s.enabled), ("id", .ofText? s.id)]

/-- A declared private network as plain data. -/
def toValue (s : PrivateNetworkSpec) : Value := .record s.fields

end PrivateNetworkSpec

namespace NetworkSpec

/-- The names of the fields. -/
def fieldNames : List String :=
  ["private_network", "control_plane_load_balancer", "control_plane_extra_load_balancers",
    "api_server_port"]

/-- Reads a declared network. -/
def ofValue : Schema.Reader NetworkSpec := Schema.table fun entries =>
  (fun privateNetwork primary secondaries port _ => mk privateNetwork primary secondaries port)
    <$> Schema.withDefault "private_network" PrivateNetworkSpec.ofValue {} entries
    <*> Schema.withDefault "control_plane_load_balancer" PrimarySpec.ofValue {} entries
    <*> Schema.withDefault "control_plane_extra_load_balancers"
      (Schema.nullAsEmpty (Schema.listOf BalancerSpec.ofValue)) [] entries
    <*> Schema.withDefault "api_server_port"
      (fun v => (Schema.whole v).refine (Schema.between 1 65535)) 6443 entries
    <*> Schema.noKeysBut fieldNames entries

/-- The fields of a declared network as plain data. -/
def fields (s : NetworkSpec) : List (String × Value) :=
  [("private_network", s.privateNetwork.toValue),
    ("control_plane_load_balancer", s.primary.toValue),
    ("control_plane_extra_load_balancers", .list (s.secondaries.map BalancerSpec.toValue)),
    ("api_server_port", .int s.apiServerPort)]

/-- A declared network as plain data. -/
def toValue (s : NetworkSpec) : Value := .record s.fields

end NetworkSpec

namespace Cluster

/-- Whether a character may stand in a cluster's name. -/
def isNameChar (c : Char) : Bool := Zone.isLetter c || c.isDigit || c = '-'

/-- Letters, digits and dashes, neither starting nor ending with a dash. -/
def isNameShape (s : List Char) : Bool :=
  s ≠ [] && s.all isNameChar && s.head? ≠ some '-' && s.getLast? ≠ some '-'

/-- The longest name of a cluster. -/
def maxNameLength : Nat := 63

/-- Checks the name of a cluster, first its length. -/
def checkName (name : String) : Schema.Checked String :=
  if maxNameLength < name.length then .problem .tooLong
  else if isNameShape name.toList then .valid name
  else .problem .patternMismatch

/-- The names of the fields. -/
def fieldNames : List String := ["name", "namespace", "network"]

/-- Reads a declared cluster. -/
def ofValue : Schema.Reader Cluster := Schema.table fun entries =>
  (fun name namespaceName network _ => mk name namespaceName network)
    <$> Schema.required "name" (fun v => (Schema.text v).refine checkName) entries
    <*> Schema.withDefault "namespace" Schema.text "default" entries
    <*> Schema.withDefault "network" NetworkSpec.ofValue {} entries
    <*> Schema.noKeysBut fieldNames entries

/-- The fields of a declared cluster as plain data. -/
def fields (c : Cluster) : List (String × Value) :=
  [("name", .text c.name), ("namespace", .text c.namespaceName), ("network", c.network.toValue)]

/-- A declared cluster as plain data. -/
def toValue (c : Cluster) : Value := .record c.fields

end Cluster

end ControlPlane
