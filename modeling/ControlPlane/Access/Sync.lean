import ControlPlane.Access.Compare
import ControlPlane.Provider.Lookup

/-!
# Who may reach the control plane

Three rules live on the frontend of the primary load balancer: the declared ranges and the cluster's
public gateways are allowed, and if ranges are declared everyone else is denied, last. Without
declared ranges the API server can be reached from anywhere. Once these rules are settled, all rules
of the primary are copied to every secondary whose rules differ.
-/

namespace ControlPlane

/-- A rule to have under its name. Without subnets there shall be no such rule. -/
structure DesiredRule where
  name : String
  action : RuleAction
  index : Int
  subnets : List String
  deriving DecidableEq, Repr

/-- A desired rule as plain data. -/
def DesiredRule.toValue (d : DesiredRule) : Value :=
  .record [("name", .text d.name), ("action", .text d.action.word), ("index", .int d.index),
    ("ips", .texts d.subnets)]

/-- The frontends of load balancers by load balancer, in order. -/
abbrev FrontendMap := List (String × Frontend)

/-- Sets the frontend of a load balancer. A new load balancer comes last. -/
def FrontendMap.put (key : String) (f : Frontend) : FrontendMap → FrontendMap
  | [] => [(key, f)]
  | (k, g) :: rest => if k = key then (k, f) :: rest else (k, g) :: put key f rest

namespace Access

/-- The name of the rule for the declared ranges. -/
def rangesName : String := "allowed-ranges"

/-- The name of the rule for the cluster's gateways. -/
def gatewayName : String := "public-gateway"

/-- The name of the rule for everyone else. -/
def denyAllName : String := "deny-all"

/-- All addresses. -/
def everywhere : List String := ["0.0.0.0/0", "::/0"]

/-- Brings one rule of a frontend to what is desired. A rule that exists is only replaced if its
subnets differ. -/
def ensureRule (s : Site) (f : Frontend) (desired : DesiredRule) : Program Unit := do
  let existing ← (s.findRule f.zone f.id desired.name).orNone
  match desired.subnets, existing with
  | [], some rule => s.deleteRule f.zone rule.id
  | [], none => return
  | _, none =>
    discard <|
      s.createRule f.zone f.id desired.name desired.index desired.action desired.subnets
  | _, some rule =>
    if sameTexts desired.subnets rule.subnets then return
    else discard <|
      s.updateRule f.zone rule.id desired.name desired.index desired.action desired.subnets

/-- The IPv4 addresses of the cluster's gateways, which only matter on a private network. -/
def gatewayAddresses (s : Scope) : Program (List String) := do
  if s.hasPrivateNetwork then
    let gateways ← s.site.findGateways (s.tags [])
    return (gateways.filterMap (·.v4)).filter (· ≠ "")
  else return []

/-- The rules of the primary's frontend. -/
def desiredRules (s : Scope) : Program (List DesiredRule) := do
  let ranges := s.primary.allowedRanges
  let gateways ← gatewayAddresses s
  return [⟨rangesName, .allow, 0, ranges⟩, ⟨gatewayName, .allow, 0, gateways⟩,
    ⟨denyAllName, .deny, RuleSpec.maxIndex, if ranges = [] then [] else everywhere⟩]

/-- Ensures several rules, one after the other. -/
def ensureRules (s : Site) (f : Frontend) : List DesiredRule → Program Unit
  | [] => return
  | desired :: rest => do
    ensureRule s f desired
    ensureRules s f rest

/-- Copies rules to a frontend, where its own differ. -/
def copyTo (s : Site) (rules : List Rule) (f : Frontend) : Program Unit := do
  let others ← s.listRules f.zone f.id
  unless RuleSpec.sameRules (rules.map (·.toRuleSpec)) (others.map (·.toRuleSpec)) do
    discard <| s.setRules f.zone f.id (rules.map (·.toRuleSpec))

/-- Copies rules to the frontends of other load balancers than the given one. -/
def copyRules (s : Site) (primaryId : String) (rules : List Rule) : FrontendMap → Program Unit
  | [] => return
  | (balancerId, f) :: rest => do
    if balancerId ≠ primaryId then copyTo s rules f
    copyRules s primaryId rules rest

/-- Copies the rules of the primary to the frontends of secondaries, if there are any. -/
def spread (s : Site) (primaryId : String) (f : Frontend) (frontends : FrontendMap) :
    Program Unit := do
  if 1 < frontends.length then
    let rules ← s.listRules f.zone f.id
    copyRules s primaryId rules frontends

/-- Ensures the rules of the primary and copies them to the secondaries. -/
def sync (s : Scope) (primaryId : String) (frontends : FrontendMap) : Program Unit := do
  match frontends.lookup primaryId with
  | none => .fail (.ofFault ⟨.missingKey, .absentKey primaryId⟩)
  | some f =>
    let desired ← desiredRules s
    ensureRules s.site f desired
    spread s.site primaryId f frontends

end Access

end ControlPlane
