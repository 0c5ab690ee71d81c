import ControlPlane.Provider.Program
import ControlPlane.Status

/-!
# Sessions

A session runs a program against a provider. Before each request it checks that the run is neither
canceled nor out of time, and it tells the provider how much time is left. While a request is
processed the provider may move the clock and cancel the run. A failed request becomes a failed
call, or an interruption if the run was canceled or its time passed meanwhile; a failure that
already has a disposition stays as it is.
-/

namespace ControlPlane

/-- What a provider acts on: its own state, the clock, and whether the run is canceled. -/
structure World (σ : Type) where
  store : σ
  now : Seconds
  canceled : Bool

/-- A provider, as the way it answers a request for which some time is left. -/
structure Provider (σ : Type) where
  answer : (r : Request) → (timeout : Option Seconds) → World σ → Except Failure r.Reply × World σ

/-- The time left before a deadline. -/
def remaining (deadline : Option Seconds) (now : Seconds) : Option Seconds :=
  deadline.map fun d => (d - now).clampBelow

/-- Fails if a run is canceled or has no time left. -/
def checkRun (canceled : Bool) (left : Option Seconds) : Except Failure Unit :=
  if canceled then raise (.interrupted .canceled)
  else match left with
    | some t => if 0 < t then .ok () else raise (.interrupted .deadlineExceeded)
    | none => .ok ()

/-- What a failed request means for the run. -/
def classify (method : String) (canceled : Bool) (left : Option Seconds) (f : Failure) : Failure :=
  if f.fault.kind.disposition?.isSome then f
  else if f.fault.kind = .timedOut ∨ canceled ∨ left = some 0 then
    .causedBy (.interrupted (.callInterrupted method f.message)) f
  else .causedBy ⟨.callFailed, .callFailed method f.message⟩ f

/-- A run in progress: the world, the calls made so far, the log and the status. -/
structure Session (σ : Type) where
  world : World σ
  calls : List Call := []
  log : List (LogLevel × String) := []
  status : ClusterStatus := {}

namespace Session

variable {σ : Type}

/-- Makes one call. -/
def call (p : Provider σ) (deadline : Option Seconds) (r : Request) (s : Session σ) :
    Except Failure r.Reply × Session σ :=
  let left := remaining deadline s.world.now
  match checkRun s.world.canceled left with
  | .error e => (.error e, s)
  | .ok () =>
    let (answer, world) := p.answer r left s.world
    let s := { s with world := world, calls := s.calls ++ [⟨r, left⟩] }
    match answer with
    | .ok a => (.ok a, s)
    | .error e =>
      (.error (classify r.method world.canceled (remaining deadline world.now) e), s)

/-- Takes note of an event. -/
def note (s : Session σ) : Event → Session σ
  | .log level line => { s with log := s.log ++ [(level, line)] }
  | .address a => { s with status := { s.status with address := some a } }
  | .secondaryAddresses as => { s with status := { s.status with secondaryAddresses := as } }
  | .condition type holds reason message =>
    let since := Timestamp.ofSeconds s.world.now
    { s with status := s.status.setCondition ⟨type, holds, reason, message, since⟩ }

end Session

/-- Runs a program against a provider, with a deadline or without. -/
def Program.run {σ : Type} (p : Provider σ) (deadline : Option Seconds) :
    Program α → Session σ → Except Failure α × Session σ
  | .done a, s => (.ok a, s)
  | .fail e, s => (.error e, s)
  | .send r next, s =>
    let (answer, s) := s.call p deadline r
    (next answer).run p deadline s
  | .report e next, s => next.run p deadline (s.note e)

end ControlPlane
