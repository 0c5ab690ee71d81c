import ControlPlane.Provider.Program

/-!
# One turn of the control loop

Once per turn every service of a cluster reconciles, or deletes, its part. The first failure ends
the turn. If something in its chain tells what to do about it, the turn ends with that disposition
and the cluster's `Ready` condition is false; else the failure goes to the caller. Without a failure
the condition is true.
-/

namespace ControlPlane

/-- A part of a cluster with a life of its own. -/
structure Service where
  name : String
  reconcile : Program Unit
  delete : Program Unit

/-- What a turn of the control loop does. -/
inductive Action
  | reconcile
  | delete
  deriving DecidableEq, Repr

/-- The word for an action. -/
def Action.word : Action → String
  | reconcile => "reconcile"
  | delete => "delete"

/-- How a turn ended: all is well, it is to be tried again, or an operator must act. -/
inductive Outcome
  | succeeded
  | requeue (after : Seconds)
  | terminal
  deriving DecidableEq, Repr

namespace Outcome

/-- The delay before the next turn, if it is to come by itself. -/
def requeueAfter? : Outcome → Option Seconds
  | requeue after => some after
  | _ => none

/-- An outcome as plain data. -/
def toValue (o : Outcome) : Value :=
  .record [("requeue_after", .ofText? (o.requeueAfter?.map (·.fixed 3))),
    ("terminal", .bool (o = terminal)), ("succeeded", .bool (o = succeeded))]

end Outcome

/-- What a service does in a turn. -/
def Service.act (s : Service) : Action → Program Unit
  | .reconcile => s.reconcile
  | .delete => s.delete

namespace Tick

/-- The type of the condition that tells whether a cluster is ready. -/
def readyType : String := "Ready"

/-- The end of a turn in which a service failed. -/
def conclude (action : Action) (service : String) (e : Failure) : Program Outcome :=
  match e.resolution? with
  | none => .fail e
  | some (_, .terminal) => do
    .emit (.log .error ("Failed to " ++ action.word ++ " service " ++ service ++ ": " ++ e.message))
    .emit (.condition readyType false "TerminalError" e.message)
    return .terminal
  | some (_, .retry after) => do
    .emit (.condition readyType false "TransientError" e.message)
    return .requeue after

/-- Runs services in order, up to the first that fails. -/
def runServices (action : Action) : List Service → Program Outcome
  | [] => do
    .emit (.condition readyType true "" "")
    return .succeeded
  | s :: rest => do
    match ← (s.act action).attempt with
    | .ok () => runServices action rest
    | .error e => conclude action s.name e

/-- One turn: services reconcile in order and delete in reverse order. -/
def run (action : Action) (services : List Service) : Program Outcome :=
  runServices action (match action with
    | .reconcile => services
    | .delete => services.reverse)

end Tick

end ControlPlane
