import ControlPlane.Proofs.Provider.Execution
import ControlPlane.Proofs.Status.Conditions
import ControlPlane.Tick

/-!
# How a turn ends

A turn of the control loop lets services act one after the other, whatever they are. It ends well if
all of them do (`Tick.Serves`). Else the first failure decides: `Tick.Verdict` says how, from the
first fault of its chain that has a disposition, or from there being none.
`Tick.first_failure_decides` is the statement about a whole turn.

Services are arbitrary programs and failures arbitrary graphs of faults. What a turn does to the
status by itself is to set the `Ready` condition (`Session.Declares`).
-/

namespace ControlPlane

variable {σ α : Type}

/-! ## The first disposition -/

/-- The first fault in the chain of a failure that has a disposition has this one. -/
def Failure.FirstDisposition (e : Failure) (d : Disposition) : Prop :=
  ∃ before f after, e.chain = before ++ f :: after ∧
    (∀ g ∈ before, g.kind.disposition? = none) ∧ f.kind.disposition? = some d

/-- The disposition that a failure resolves to is the first one along its chain. -/
theorem Failure.firstDisposition_of_resolution? {e : Failure} {f : Fault} {d : Disposition}
    (h : e.resolution? = some (f, d)) : e.FirstDisposition d := by
  unfold resolution? at h
  obtain ⟨before, g, after, hchain, hg, hbefore⟩ := List.findSome?_eq_some_iff.1 h
  obtain ⟨d', hd, heq⟩ := Option.map_eq_some_iff.1 hg
  cases heq
  exact ⟨before, f, after, hchain, fun x hx => Option.map_eq_none_iff.1 (hbefore x hx), hd⟩

/-- A failure that resolves to nothing has no disposition along its chain. -/
theorem Failure.no_disposition_of_resolution? {e : Failure} (h : e.resolution? = none) :
    ∀ g ∈ e.chain, g.kind.disposition? = none := fun g hg =>
  Option.map_eq_none_iff.1 (List.findSome?_eq_none_iff.1 h g hg)

/-! ## Sessions of a turn -/

namespace Program

/-- An attempt returns what the program comes to, be it a failure. -/
theorem run_attempt (p : Provider σ) (deadline : Option Seconds) (q : Program α) (x : Session σ) :
    q.attempt.run p deadline x =
      (.ok (q.run p deadline x).1, (q.run p deadline x).2) := by
  induction q generalizing x with
  | done | fail => rfl
  | send r next ih => exact ih _ _
  | report e next ih => exact ih _

end Program

/-- A session goes over into one that says whether the cluster is ready, and why. Nothing else
happens, but that lines are added to the log. -/
structure Session.Declares (x : Session σ) (lines : List (LogLevel × String)) (holds : Bool)
    (reason message : String) (x' : Session σ) : Prop where
  world : x'.world = x.world
  calls : x'.calls = x.calls
  log : x'.log = x.log ++ lines
  status : x.status.Shows
    ⟨Tick.readyType, holds, reason, message, .ofSeconds x.world.now⟩ x'.status

/-- Noting the readiness of the cluster declares it, and calls nothing. -/
theorem Session.declares_note (x : Session σ) (holds : Bool) (reason message : String) :
    x.Declares [] holds reason message (x.note (.condition Tick.readyType holds reason message)) where
  world := rfl
  calls := rfl
  log := (List.append_nil _).symm
  status := x.status.setCondition_shows _

namespace Tick

/-- Services act one after the other, and none of them fails. -/
inductive Serves (p : Provider σ) (deadline : Option Seconds) (action : Action) :
    List Service → Session σ → Session σ → Prop
  | nil (x : Session σ) : Serves p deadline action [] x x
  | cons {s : Service} {rest : List Service} {x y z : Session σ}
    (h : (s.act action).run p deadline x = (.ok (), y))
    (hrest : Serves p deadline action rest y z) : Serves p deadline action (s :: rest) x z

/-- How a turn ends in which a service has failed, from the session in which it did. -/
inductive Verdict (action : Action) (service : String) (e : Failure) (x : Session σ) :
    Except Failure Outcome → Session σ → Prop
  | terminal {x' : Session σ} (h : e.FirstDisposition .terminal)
    (hx : x.Declares [(.error,
      "Failed to " ++ action.word ++ " service " ++ service ++ ": " ++ e.message)]
      false "TerminalError" e.message x') : Verdict action service e x (.ok .terminal) x'
  | retry {after : Seconds} {x' : Session σ} (h : e.FirstDisposition (.retry after))
    (hx : x.Declares [] false "TransientError" e.message x') :
    Verdict action service e x (.ok (.requeue after)) x'
  | propagates (h : ∀ f ∈ e.chain, f.kind.disposition? = none) :
    Verdict action service e x (.error e) x

section

variable (p : Provider σ) (deadline : Option Seconds) (action : Action)

/-- Ending a turn with a failure is judging it. -/
theorem conclude_verdict (service : String) (e : Failure) (x : Session σ) :
    Verdict action service e x ((conclude action service e).run p deadline x).1
      ((conclude action service e).run p deadline x).2 := by
  unfold conclude
  rcases h : e.resolution? with _ | ⟨f, _ | after⟩
  · exact .propagates (e.no_disposition_of_resolution? h)
  · -- The line of the log comes before the condition.
    have hlog := (x.note (.log .error ("Failed to " ++ action.word ++ " service " ++ service ++
      ": " ++ e.message))).declares_note false "TerminalError" e.message
    refine .terminal (e.firstDisposition_of_resolution? h) ⟨rfl, rfl, rfl, ?_⟩
    exact hlog.status
  · exact .retry (e.firstDisposition_of_resolution? h) (x.declares_note false "TransientError" _)

/-- Services either all act with success, or there is a first one that fails. -/
theorem serves_or_fails (services : List Service) (x : Session σ) :
    (∃ y, Serves p deadline action services x y) ∨
      ∃ before s after y e z, services = before ++ s :: after ∧
        Serves p deadline action before x y ∧ (s.act action).run p deadline y = (.error e, z) := by
  induction services generalizing x with
  | nil => exact .inl ⟨x, .nil x⟩
  | cons s rest ih =>
    rcases hact : (s.act action).run p deadline x with ⟨e | u, y⟩
    · exact .inr ⟨[], s, rest, x, e, y, rfl, .nil x, hact⟩
    · rcases ih y with ⟨z, hserves⟩ | ⟨before, s', after, y', e, z, heq, hserves, hfails⟩
      · exact .inl ⟨z, .cons hact hserves⟩
      · exact .inr ⟨s :: before, s', after, y', e, z, congrArg (s :: ·) heq, .cons hact hserves,
          hfails⟩

/-- What the first of several services comes to decides whether the others act. -/
theorem runServices_cons (s : Service) (rest : List Service) (x : Session σ) :
    (runServices action (s :: rest)).run p deadline x =
      match (s.act action).run p deadline x with
      | (.ok _, y) => (runServices action rest).run p deadline y
      | (.error e, y) => (conclude action s.name e).run p deadline y := by
  show ((s.act action).attempt >>= _).run p deadline x = _
  rw [Program.run_bind, Program.run_attempt]
  rcases (s.act action).run p deadline x with ⟨_ | _, y⟩ <;> rfl

end

/-- Once services have acted with success, the turn goes on with the others. -/
theorem runServices_of_serves {p : Provider σ} {deadline : Option Seconds} {action : Action}
    {before rest : List Service} {x y : Session σ} (h : Serves p deadline action before x y) :
    (runServices action (before ++ rest)).run p deadline x =
      (runServices action rest).run p deadline y := by
  induction h with
  | nil x => rfl
  | cons hact _ ih =>
    rw [List.cons_append, runServices_cons, hact]
    exact ih

/-- The first failure decides a turn. Services reconcile in order and delete in reverse order. If
all of them succeed, so does the turn, and `Ready` is true. Else the services up to the first that
fails have acted, and none after it. If a fault in the chain of its failure has a disposition, the
first that has one decides: the turn is terminal, or comes again after exactly that delay, and
`Ready` is false with the message of the failure as a whole. If none has one, the failure goes to
the caller and nothing is changed. In every case a turn by itself leaves the addresses and all other
conditions as they are. -/
theorem first_failure_decides (p : Provider σ) (deadline : Option Seconds) (action : Action)
    (services : List Service) (x : Session σ) :
    let order := match action with
      | .reconcile => services
      | .delete => services.reverse
    let result := ((run action services).run p deadline x).1
    let x' := ((run action services).run p deadline x).2
    (∃ y, Serves p deadline action order x y ∧
      result = .ok .succeeded ∧ y.Declares [] true "" "" x') ∨
    ∃ before s after y e z, order = before ++ s :: after ∧
      Serves p deadline action before x y ∧ (s.act action).run p deadline y = (.error e, z) ∧
      Verdict action s.name e z result x' := by
  intro order result x'
  have hresult : (runServices action order).run p deadline x = (result, x') := rfl
  rcases serves_or_fails p deadline action order x with
    ⟨y, hserves⟩ | ⟨before, s, after, y, e, z, horder, hserves, hfails⟩
  · -- All services are served, and the turn ends well.
    have hrun : (result, x') = (.ok .succeeded, y.note (.condition readyType true "" "")) := by
      rw [← hresult, ← List.append_nil order, runServices_of_serves hserves]
      rfl
    obtain ⟨hok, hx'⟩ := Prod.mk.inj hrun
    exact .inl ⟨y, hserves, hok, hx' ▸ y.declares_note true "" ""⟩
  · -- The first one that fails ends the turn, and those after it do not run.
    have hrun : (result, x') = (conclude action s.name e).run p deadline z := by
      rw [← hresult, horder, runServices_of_serves hserves, runServices_cons, hfails]
    refine .inr ⟨before, s, after, y, e, z, horder, hserves, hfails, ?_⟩
    have hverdict := conclude_verdict p deadline action s.name e z
    rwa [← hrun] at hverdict

end Tick

end ControlPlane
