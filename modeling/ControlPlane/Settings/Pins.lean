import ControlPlane.Declaration.Cluster

/-!
# Pinned addresses

No address may be pinned on more than one load balancer of a cluster. Public and private addresses
are looked at one after the other, and every load balancer that pins an address after the first one
that does is a clash with that one.
-/

namespace ControlPlane

/-- An address that a second load balancer pins. Load balancers are told by their places in the
declaration. -/
structure Clash where
  address : String
  first : String
  second : String
  deriving DecidableEq, Repr

namespace Clash

/-- The wording of a clash. -/
def message (c : Clash) : String :=
  "IP " ++ c.address ++ " is pinned on both " ++ c.first ++ " and " ++ c.second

/-- The clashes among pins, where some addresses have been pinned before. -/
def among (seen : List (String × String)) : List (String × Option String) → List Clash
  | [] => []
  | (_, none) :: rest => among seen rest
  | (place, some address) :: rest =>
    match seen.lookup address with
    | some first => ⟨address, first, place⟩ :: among seen rest
    | none => among ((address, place) :: seen) rest

end Clash

namespace NetworkSpec

/-- The declared load balancers with their places, the primary first. -/
def places (n : NetworkSpec) : List (String × BalancerSpec) :=
  ("control_plane_load_balancer", n.primary.toBalancerSpec) ::
    n.secondaries.zipIdx.map fun (d, i) =>
      ("control_plane_extra_load_balancers[" ++ toString i ++ "]", d)

/-- All clashes of a network. -/
def clashes (n : NetworkSpec) : List Clash :=
  Clash.among [] (n.places.map fun (place, d) => (place, d.address)) ++
    Clash.among [] (n.places.map fun (place, d) => (place, d.privateAddress))

end NetworkSpec

end ControlPlane
