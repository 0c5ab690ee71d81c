import ControlPlane.Number.Decimal
import ControlPlane.Schema.Reader

/-!
# Cluster status

What reconciling publishes about a cluster: the addresses of its load balancers and its conditions.
There is one condition per type. Setting a condition again keeps the time of its last transition as
long as its truth does not change.
-/

namespace ControlPlane

/-- An instant in microseconds since the epoch. -/
structure Timestamp where
  microseconds : Int
  deriving DecidableEq, Repr, Inhabited

namespace Timestamp

/-- The timestamp nearest to an instant of the clock. -/
def ofSeconds : Seconds → Timestamp
  | .finite u =>
    let n := Binary64.roundHalfEven (u.natAbs * 1000000) Binary64.oneUnits
    ⟨if u < 0 then -n else n⟩
  | _ => ⟨0⟩

/-- The seconds since the epoch. -/
def toSeconds (t : Timestamp) : Seconds :=
  .ofRatio (decide (t.microseconds < 0)) t.microseconds.natAbs 1000000

end Timestamp

/-- A condition of a cluster: whether it holds, why, and since when. -/
structure Condition where
  type : String
  holds : Bool
  reason : String := ""
  message : String := ""
  since : Timestamp
  deriving DecidableEq, Repr

namespace Condition

/-- Reads a condition, which changed last at a given time. -/
def ofValue (since : Timestamp) : Schema.Reader Condition := Schema.table fun entries =>
  (fun type holds reason message => { type, holds, reason, message, since })
    <$> Schema.required "type" Schema.text entries
    <*> Schema.required "status" (Schema.member [("True", true), ("False", false)]) entries
    <*> Schema.withDefault "reason" Schema.text "" entries
    <*> Schema.withDefault "message" Schema.text "" entries

/-- The word for whether a condition holds. -/
def statusWord (c : Condition) : String := if c.holds then "True" else "False"

/-- A condition as plain data. -/
def toValue (c : Condition) : Value :=
  .record [("type", .text c.type), ("status", .text c.statusWord), ("reason", .text c.reason),
    ("message", .text c.message), ("time", .text (c.since.toSeconds.fixed 3))]

end Condition

/-- The published status of a cluster. -/
structure ClusterStatus where
  address : Option String := none
  secondaryAddresses : List String := []
  conditions : List Condition := []
  deriving DecidableEq, Repr, Inhabited

namespace ClusterStatus

/-- Replaces the condition of the same type, or adds the condition at the end. -/
def place (condition : Condition) : List Condition → List Condition
  | [] => [condition]
  | existing :: rest =>
    if existing.type = condition.type then
      (if existing.holds = condition.holds then { condition with since := existing.since }
        else condition) :: rest
    else existing :: place condition rest

/-- Sets a condition. -/
def setCondition (s : ClusterStatus) (condition : Condition) : ClusterStatus :=
  { s with conditions := place condition s.conditions }

/-- The condition of a type. -/
def condition? (s : ClusterStatus) (type : String) : Option Condition :=
  s.conditions.find? (·.type = type)

/-- All addresses, sorted. -/
def addresses (s : ClusterStatus) : List String :=
  let primary := match s.address with
    | some a => if a = "" then [] else [a]
    | none => []
  (s.secondaryAddresses ++ primary).mergeSort fun a b => decide (a ≤ b)

/-- A status as plain data. -/
def toValue (s : ClusterStatus) : Value :=
  .record [("load_balancer_ip", .ofText? s.address),
    ("extra_load_balancer_ips", .texts s.secondaryAddresses),
    ("load_balancer_ips", .texts s.addresses),
    ("conditions", .list (s.conditions.map Condition.toValue))]

end ClusterStatus

end ControlPlane
