import ControlPlane.Tick
import ControlPlane.Topology.Reconcile

/-!
# The control loop of a cluster

A cluster has one service, which looks after its load balancers. A turn of the control loop acts on
the services of a scope.
-/

namespace ControlPlane

/-- The service that looks after the load balancers. -/
def Topology.service (s : Scope) : Service where
  name := "lb"
  reconcile := reconcile s
  delete := delete s

/-- The services of a cluster, in the order that they reconcile. -/
def Scope.services (s : Scope) : List Service := [Topology.service s]

/-- One turn of the control loop of a cluster. -/
def Scope.turn (s : Scope) (action : Action) : Program Outcome := Tick.run action s.services

end ControlPlane
