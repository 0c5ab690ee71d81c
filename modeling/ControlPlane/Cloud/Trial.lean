import ControlPlane.Cloud.Answer

/-!
# Clouds on trial

A cloud whose requests take time, and which can be disturbed: a disturbance waits for requests to
one endpoint, for all of them or for one in particular, and then lets time pass, cancels the run, or
makes the request fail before it has any effect.
-/

namespace ControlPlane

/-- Something that happens when a request comes in. -/
structure Disturbance where
  endpoint : String
  /-- Which of the requests to the endpoint it waits for, counted from one; all if absent. -/
  nth : Option Nat := none
  delay : Seconds := 0
  cancels : Bool := false
  failure : Option Failure := none

/-- A cloud on trial: how long a request takes, the disturbances in order, and the endpoints of the
requests since these were set. -/
structure Trial where
  cloud : Cloud
  step : Seconds := 0
  disturbances : List Disturbance := []
  received : List String := []

namespace Trial

/-- Whether a disturbance happens at a request that is the given one to its endpoint. -/
def applies (endpoint : String) (count : Nat) (d : Disturbance) : Bool :=
  d.endpoint = endpoint && d.nth.all (· = count)

/-- Lets disturbances happen, up to the first that makes the request fail. -/
def disturb : List Disturbance → World Trial → Except Failure Unit × World Trial
  | [], w => (.ok (), w)
  | d :: rest, w =>
    let w := { w with now := w.now + d.delay, canceled := w.canceled || d.cancels }
    match d.failure with
    | some e => (.error e, w)
    | none => disturb rest w

/-- A cloud on trial as a provider. -/
def provider : Provider Trial where
  answer r _ w :=
    let received := w.store.received ++ [r.endpoint]
    let w := { w with
      store := { w.store with received }
      now := w.now + w.store.step }
    let now := w.store.disturbances.filter (applies r.endpoint (received.count r.endpoint))
    match disturb now w with
    | (.error e, w) => (.error e, w)
    | (.ok (), w) =>
      let (a, cloud) := w.store.cloud.answer r
      (a, { w with store := { w.store with cloud } })

end Trial

end ControlPlane
