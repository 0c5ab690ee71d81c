import ControlPlane.Network.Range
import ControlPlane.Schema.Reader
import ControlPlane.Zone

/-!
# Declared load balancers

What a cluster declares about a load balancer. Nothing is required: the zone defaults to the first
of the region, the type to a small one, and without a pinned address the provider allocates one. The
primary load balancer also says who may reach it and whether it is private.
-/

namespace ControlPlane

/-- The declaration of a load balancer. A pinned private address only counts on a private
network. -/
structure BalancerSpec where
  zone : Option String := none
  type : Option String := none
  address : Option String := none
  privateAddress : Option String := none
  deriving DecidableEq, Repr, Inhabited

/-- The declaration of the primary load balancer. -/
structure PrimarySpec extends BalancerSpec where
  isPrivate : Bool := false
  allowedRanges : List String := []
  deriving DecidableEq, Repr, Inhabited

namespace BalancerSpec

/-- A text that a check refuses with a condition, or null. -/
def checkedText (check : String → Option Detail) : Schema.Reader (Option String) := fun v =>
  (Schema.optional Schema.text v).refine fun
    | none => .valid none
    | some s => match check s with
      | none => .valid (some s)
      | some detail => .problem (.rejected detail)

/-- Why a text is no zone, if so. -/
def zoneFault? (s : String) : Option Detail :=
  match Zone.parse s with
  | .ok _ => none
  | .error detail => some detail

/-- Why a text is no address, if so. -/
def addressFault? (s : String) : Option Detail :=
  if (Address.ofText? s).isSome then none else some (.addressFormat s)

/-- Reads the fields of a declared load balancer. -/
def ofEntries (entries : Schema.Entries) : Schema.Checked BalancerSpec :=
  mk <$> Schema.withDefault "zone" (checkedText zoneFault?) none entries
    <*> Schema.withDefault "type" (Schema.optional Schema.text) none entries
    <*> Schema.withDefault "ip" (checkedText addressFault?) none entries
    <*> Schema.withDefault "private_ip" (checkedText addressFault?) none entries

/-- The names of the fields. -/
def fieldNames : List String := ["zone", "type", "ip", "private_ip"]

/-- Reads a declared load balancer. -/
def ofValue : Schema.Reader BalancerSpec := Schema.table fun entries =>
  (fun spec _ => spec) <$> ofEntries entries <*> Schema.noKeysBut fieldNames entries

/-- The fields of a declared load balancer as plain data. -/
def fields (s : BalancerSpec) : List (String × Value) :=
  [("zone", .ofText? s.zone), ("type", .ofText? s.type), ("ip", .ofText? s.address),
    ("private_ip", .ofText? s.privateAddress)]

/-- A declared load balancer as plain data. -/
def toValue (s : BalancerSpec) : Value := .record s.fields

end BalancerSpec

namespace PrimarySpec

/-- Checks that every text is a range, and drops repetitions. The first text that is none is
reported. -/
def checkRanges (ranges : List String) : Schema.Checked (List String) :=
  match ranges.find? fun s => (AddressRange.ofText? s).isNone with
  | some s => .problem (.rejected (.rangeFormat s))
  | none => .valid (firstOccurrences ranges)
where
  /-- The elements of a list without their repetitions, in order of first occurrence. -/
  firstOccurrences (xs : List String) : List String :=
    xs.foldl (fun kept x => if x ∈ kept then kept else kept ++ [x]) []

/-- The names of the fields. -/
def fieldNames : List String := BalancerSpec.fieldNames ++ ["private", "allowed_ranges"]

/-- Reads the declared primary load balancer. -/
def ofValue : Schema.Reader PrimarySpec := Schema.table fun entries =>
  (fun spec isPrivate ranges _ => ⟨spec, isPrivate, ranges⟩)
    <$> BalancerSpec.ofEntries entries
    <*> Schema.withDefault "private" Schema.truth false entries
    <*> Schema.withDefault "allowed_ranges"
      (fun v => (Schema.nullAsEmpty (Schema.listOf Schema.text) v).refine checkRanges) [] entries
    <*> Schema.noKeysBut fieldNames entries

/-- The fields of the declared primary load balancer as plain data. -/
def fields (s : PrimarySpec) : List (String × Value) :=
  s.toBalancerSpec.fields ++
    [("private", .bool s.isPrivate), ("allowed_ranges", .texts s.allowedRanges)]

/-- The declared primary load balancer as plain data. -/
def toValue (s : PrimarySpec) : Value := .record s.fields

end PrimarySpec

end ControlPlane
