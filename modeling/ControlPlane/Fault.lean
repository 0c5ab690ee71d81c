import ControlPlane.Number.Decimal
import ControlPlane.Schema.Issue

/-!
# Faults

A fault is one thing that went wrong: its kind and its detail. Kinds lie on two axes. Conditions
(`notFound`, `tooManyFound`, `forbidden`, `preconditionFailed`) say what a provider found; the kinds
with a disposition say whether and when to try again. `Fault.message` words a fault as a whole.
-/

namespace ControlPlane

/-- What a control loop does about a fault: nothing until an operator acts, or another try. -/
inductive Disposition
  | terminal
  | retry (after : Seconds)
  deriving DecidableEq, Repr

/-- The kind of a fault. -/
inductive Kind
  | general
  | notFound
  | tooManyFound
  | forbidden
  | preconditionFailed
  | callFailed
  | unresolved
  | terminal
  | transient (after : Delay)
  | interrupted (after : Delay)
  | crashed
  | timedOut
  | badValue
  | missingKey
  | invalid (issues : List Schema.Issue)
  deriving DecidableEq, Repr

namespace Kind

/-- The disposition of a kind, if it has one. An unresolved fault is retried at once. -/
def disposition? : Kind → Option Disposition
  | unresolved => some (.retry 0)
  | terminal => some .terminal
  | transient after => some (.retry after.length)
  | interrupted after => some (.retry after.length)
  | _ => none

/-- Whether a kind is a temporary condition. -/
def isTransient : Kind → Bool
  | transient _ | interrupted _ => true
  | _ => false

/-- Whether a kind belongs to the provisioner, rather than to its surroundings. -/
def isOwn : Kind → Bool
  | crashed | timedOut | badValue | missingKey | invalid _ => false
  | _ => true

/-- The kind that a provider's HTTP status stands for. -/
def ofStatus (status : Int) : Kind :=
  if status = 403 then forbidden
  else if status = 404 then notFound
  else if status = 412 then preconditionFailed
  else general

end Kind

/-- One thing that went wrong. -/
structure Fault where
  kind : Kind
  detail : Detail
  deriving DecidableEq, Repr

namespace Fault

/-- The wording of a fault: terminal faults say that reconciling failed, temporary ones when the
next try is. -/
def message (f : Fault) : String :=
  match f.kind with
  | .terminal => "reconcile error: " ++ f.detail.message
  | .transient after | .interrupted after =>
    f.detail.message ++ ". Object will be requeued after " ++ after.length.general 6 ++ "s"
  | _ => f.detail.message

/-- A configuration that will not mend itself. -/
def terminal (detail : Detail) : Fault := ⟨.terminal, detail⟩

/-- A value that is not acceptable. -/
def badValue (detail : Detail) : Fault := ⟨.badValue, detail⟩

/-- The delay after an interruption. -/
def interruptionDelay : Delay := ⟨1, by decide +kernel⟩

/-- A run that was cut short. -/
def interrupted (detail : Detail) : Fault := ⟨.interrupted interruptionDelay, detail⟩

/-- A model that could not be read. -/
def invalid (issues : List Schema.Issue) : Fault := ⟨.invalid issues, .malformed issues.length⟩

end Fault

end ControlPlane
