import Mathlib.Data.List.Basic
import ControlPlane.Cloud.Trial
import ControlPlane.Proofs.Failure.Trail
import ControlPlane.Proofs.Provider.Execution

/-!
# Runs that are disturbed

A cloud on trial lets any request fail before it has an effect, and lets time pass or cancels the
run on the way. `Session.Outcome` says all that a call can come to there: the cloud answers, the
cloud refuses, or the call is lost and nothing has changed. A lost call looks as if something was
not found only if a disturbance said so, since a failure keeps its chain when it is classified
(`isNotFound_classify`).

A program that is `Brittle` ends with the failure of a failed request, unless a look-up found
nothing. However a run of such a program is disturbed, it follows the undisturbed one for a while
and stops: what holds of every cloud that the undisturbed run visits, holds of all that the
disturbed one passes through (`Brittle.passes`).
-/

namespace ControlPlane

/-- Classifying a failure does not make it one of a look-up. -/
theorem isNotFound_classify (method : String) (canceled : Bool) (left : Option Seconds)
    (e : Failure) : (classify method canceled left e).isNotFound = e.isNotFound := by
  unfold classify
  split
  · rfl
  · split
    · exact Failure.has_causedBy ..
    · exact Failure.has_causedBy ..

/-! ## Calls -/

/-- The cloud of a session on trial. -/
abbrev Session.cloud (x : Session Trial) : Cloud := x.world.store.cloud

/-- No disturbance of the session fails as if something was not found. -/
def Session.Gentle (x : Session Trial) : Prop :=
  ∀ d ∈ x.world.store.disturbances, ∀ e, d.failure = some e → e.isNotFound = false

/-- What a call can come to. -/
inductive Session.Outcome (x : Session Trial) (r : Request) (x' : Session Trial) :
    Except Failure r.Reply → Prop
  | answered (v : r.Reply) (h : x.cloud.answer r = (.ok v, x'.cloud)) : Outcome x r x' (.ok v)
  | refused (e e' : Failure) (h : x.cloud.answer r = (.error e', x'.cloud)) :
    Outcome x r x' (.error e)
  | lost (e : Failure) (h : x'.cloud = x.cloud) (gentle : x.Gentle → e.isNotFound = false) :
    Outcome x r x' (.error e)

/-- Disturbances leave the cloud as it is, and fail as one of them says. -/
theorem Trial.disturb_spec (ds : List Disturbance) (w : World Trial) :
    (Trial.disturb ds w).2.store = w.store ∧
      ∀ e, (Trial.disturb ds w).1 = .error e → ∃ d ∈ ds, d.failure = some e := by
  induction ds generalizing w with
  | nil => exact ⟨rfl, nofun⟩
  | cons d rest ih =>
    unfold Trial.disturb
    cases hd : d.failure with
    | some e =>
      refine ⟨rfl, fun e' he' => ⟨d, List.mem_cons_self, ?_⟩⟩
      cases he'
      exact hd
    | none =>
      obtain ⟨hstore, hfailed⟩ :=
        -- A disturbance that does not fail only delays and cancels.
        ih { w with now := w.now + d.delay, canceled := w.canceled || d.cancels }
      refine ⟨hstore, fun e he => ?_⟩
      obtain ⟨d', hd', hfailure⟩ := hfailed e he
      exact ⟨d', List.mem_cons_of_mem _ hd', hfailure⟩

/-- Either a disturbance fails, and nothing has changed, or the cloud answers. -/
theorem Trial.answer_cases (r : Request) (left : Option Seconds) (w : World Trial) :
    ((Trial.provider.answer r left w).2.store.disturbances = w.store.disturbances) ∧
    ((∃ e, (Trial.provider.answer r left w).1 = .error e ∧
        (Trial.provider.answer r left w).2.store.cloud = w.store.cloud ∧
        ∃ d ∈ w.store.disturbances, d.failure = some e) ∨
      ((Trial.provider.answer r left w).1 = (w.store.cloud.answer r).1 ∧
        (Trial.provider.answer r left w).2.store.cloud = (w.store.cloud.answer r).2)) := by
  simp only [Trial.provider]
  generalize hds : w.store.disturbances.filter _ = ds
  generalize hw : World.mk _ _ _ = w1
  obtain ⟨hstore, hfailed⟩ := Trial.disturb_spec ds w1
  -- Counting the request leaves the cloud and the disturbances as they are.
  have hcloud : w1.store.cloud = w.store.cloud := by rw [← hw]
  have hdisturbances : w1.store.disturbances = w.store.disturbances := by rw [← hw]
  rcases hdisturb : Trial.disturb ds w1 with ⟨e | u, w2⟩
  all_goals
    rw [hdisturb] at hstore hfailed
    dsimp only at hstore hfailed ⊢
    rw [hstore, hdisturbances, hcloud]
  · -- A disturbance fails the request, and it does not reach the cloud.
    obtain ⟨d, hd, hfailure⟩ := hfailed e rfl
    rw [← hds, List.mem_filter] at hd
    exact ⟨rfl, .inl ⟨e, rfl, rfl, d, hd.1, hfailure⟩⟩
  · exact ⟨rfl, .inr ⟨rfl, rfl⟩⟩

/-- Every call comes to one of the outcomes, and the disturbances stay. -/
theorem Session.call_outcome (deadline : Option Seconds) (r : Request) (x : Session Trial) :
    x.Outcome r (x.call Trial.provider deadline r).2 (x.call Trial.provider deadline r).1 ∧
      (x.call Trial.provider deadline r).2.world.store.disturbances =
        x.world.store.disturbances := by
  rcases hrun : checkRun x.world.canceled (remaining deadline x.world.now) with e | u
  -- The run is canceled or out of time.
  · simp only [Session.call, hrun]
    exact ⟨.lost e rfl fun _ => Program.checkRun_error hrun, trivial⟩
  · have hcases := Trial.answer_cases r (remaining deadline x.world.now) x.world
    rcases hanswer : Trial.provider.answer r (remaining deadline x.world.now) x.world with ⟨a, w⟩
    simp only [Session.call, hrun, hanswer]
    rw [hanswer] at hcases
    obtain ⟨hdisturbances, ⟨e, he, hcloud, d, hd, hfailure⟩ | ⟨ha, hcloud⟩⟩ := hcases
    · dsimp only at he hcloud hdisturbances
      subst he
      refine ⟨.lost _ hcloud fun hgentle => ?_, hdisturbances⟩
      rw [isNotFound_classify]
      exact hgentle d hd e hfailure
    · dsimp only at ha hcloud hdisturbances
      have hboth : x.cloud.answer r = (a, w.store.cloud) := Prod.ext ha.symm hcloud.symm
      cases a with
      | error e => exact ⟨.refused _ e hboth, hdisturbances⟩
      | ok v => exact ⟨.answered v hboth, hdisturbances⟩

/-- A gentle session stays gentle after a call. -/
theorem Session.Gentle.call {deadline : Option Seconds} {r : Request} {x : Session Trial}
    (h : x.Gentle) : (x.call Trial.provider deadline r).2.Gentle := by
  unfold Session.Gentle
  rw [(Session.call_outcome deadline r x).2]
  exact h

/-- Taking note of an event does not touch the world. -/
theorem Session.note_world {σ : Type} (x : Session σ) (e : Event) : (x.note e).world = x.world := by
  cases e <;> rfl

/-! ## The clouds that a run passes through -/

namespace Program

variable {α β : Type}

/-- The clouds after each request of a program on a cloud. -/
def visits : Program α → Cloud → List Cloud
  | done _, _ => []
  | fail _, _ => []
  | send r next, c => (c.answer r).2 :: (next (c.answer r).1).visits (c.answer r).2
  | report _ next, c => next.visits c

/-- The clouds after each call of a run on trial. -/
def passes (deadline : Option Seconds) : Program α → Session Trial → List Cloud
  | done _, _ => []
  | fail _, _ => []
  | send r next, x =>
    let (answer, x) := x.call Trial.provider deadline r
    x.cloud :: (next answer).passes deadline x
  | report e next, x => next.passes deadline (x.note e)

/-- A run leaves the last cloud that it passes through, or the one at its start. -/
theorem run_mem_passes (deadline : Option Seconds) (p : Program α) (x : Session Trial) :
    (p.run Trial.provider deadline x).2.cloud ∈ x.cloud :: p.passes deadline x := by
  induction p generalizing x with
  | done | fail => exact List.mem_cons_self
  | send r next ih => exact List.mem_cons_of_mem _ (ih _ _)
  | report e next ih =>
    have hrest := ih (x.note e)
    unfold Session.cloud at hrest ⊢
    rw [x.note_world] at hrest
    exact hrest

/-- Whatever is visited is visited by the first part, or by the second once the first returns. -/
theorem mem_visits_bind {p : Program α} {f : α → Program β} {c v : Cloud}
    (h : v ∈ (p >>= f).visits c) :
    v ∈ p.visits c ∨ ∃ a c', p.Returns c a c' ∧ v ∈ (f a).visits c' := by
  induction p generalizing c with
  | done a => exact .inr ⟨a, c, rfl, h⟩
  | fail e => cases h
  | send r next ih =>
    rcases List.mem_cons.1 h with rfl | h
    · exact .inl List.mem_cons_self
    · exact (ih _ h).imp_left (List.mem_cons_of_mem _)
  | report e next ih => exact ih h

/-- A program ends on the cloud that it started on or on one that it visits. -/
theorem exec_mem_visits (p : Program α) (c : Cloud) : (p.exec c).2 ∈ c :: p.visits c := by
  induction p generalizing c with
  | done | fail => exact List.mem_cons_self
  | send r next ih => exact List.mem_cons_of_mem _ (ih _ _)
  | report e next ih => exact ih c

/-- A program that returns ends on the cloud that it started on or on one that it visits. -/
theorem Returns.mem_visits {p : Program α} {c c' : Cloud} {a : α} (h : p.Returns c a c') :
    c' ∈ c :: p.visits c := by
  have hexec : p.exec c = (.ok a, c') := h
  have hmem := p.exec_mem_visits c
  rwa [hexec] at hmem

/-- Something holds of the cloud that a program starts on and of every one that it visits. -/
def Upholds (P : Cloud → Prop) (p : Program α) (c : Cloud) : Prop := ∀ v ∈ c :: p.visits c, P v

section

variable {P : Cloud → Prop} {c : Cloud}

/-- A value upholds what holds already. -/
theorem upholds_done (h : P c) (a : α) : (done a).Upholds P c :=
  List.forall_mem_singleton.2 h

/-- A check upholds what holds already. -/
theorem upholds_ofExcept (h : P c) (r : Except Failure α) : (ofExcept r).Upholds P c := by
  cases r <;> exact List.forall_mem_singleton.2 h

/-- A single request upholds what holds of the cloud before and after it. -/
theorem upholds_request (h : P c) {r : Request} (hr : P (c.answer r).2) :
    (request r).Upholds P c := by
  have hvisits : (request r).visits c = [(c.answer r).2] := by
    unfold request visits
    rcases (c.answer r).1 with e | v <;> rfl
  unfold Upholds
  rw [hvisits]
  exact List.forall_mem_cons.2 ⟨h, List.forall_mem_singleton.2 hr⟩

/-- What is upheld holds where the program returns. -/
theorem Upholds.of_returns {p : Program α} (hp : p.Upholds P c) {a : α} {c' : Cloud}
    (h : p.Returns c a c') : P c' :=
  hp c' h.mem_visits

/-- Two programs in turn uphold what the first upholds, and the second from where the first returns.
-/
theorem Upholds.bind {p : Program α} {f : α → Program β} (hp : p.Upholds P c)
    (hf : ∀ a c', p.Returns c a c' → P c' → (f a).Upholds P c') : (p >>= f).Upholds P c := by
  intro v hv
  rcases List.mem_cons.1 hv with rfl | hv
  · exact hp _ List.mem_cons_self
  · rcases mem_visits_bind hv with hv | ⟨a, c', hreturns, hv⟩
    · exact hp v (List.mem_cons_of_mem _ hv)
    · exact hf a c' hreturns (hp.of_returns hreturns) v (List.mem_cons_of_mem _ hv)

/-- Dropping the value upholds the same. -/
theorem Upholds.discard {p : Program α} (hp : p.Upholds P c) :
    (Functor.discard p).Upholds P c :=
  hp.bind fun _ _ _ h => upholds_done h _

/-- What every allowed request keeps, answered or refused, is upheld. -/
theorem Orderly.upholds {allowed : Request → Prop} {p : Program α} (hp : p.Orderly allowed)
    (step : ∀ r c, allowed r → P c → P (c.answer r).2) (hc : P c) : p.Upholds P c := by
  induction p generalizing c with
  | done a => exact upholds_done hc a
  | fail e => exact List.forall_mem_singleton.2 hc
  | send r next ih =>
    obtain ⟨hr, _, hnext⟩ := hp
    exact List.forall_mem_cons.2 ⟨hc, ih _ (hnext _) (step r c hr hc)⟩
  | report e next ih =>
    cases e with
    | log level line => exact ih hp hc
    | address | secondaryAddresses | condition => exact hp.elim

/-- A program that only looks up upholds everything. -/
theorem ReadOnly.upholds {p : Program α} (hp : p.ReadOnly) (hc : P c) : p.Upholds P c := by
  refine Orderly.upholds hp (fun r c hr hc => ?_) hc
  obtain ⟨v, hv⟩ := Cloud.answer_lookup hr c
  rw [hv]
  exact hc

end

/-! ## Runs that are cut short -/

/-- A failed request ends the program with the failure, unless a look-up found nothing. -/
def Brittle : Program α → Prop
  | done _ => True
  | fail _ => True
  | send r next =>
    (∀ e, r.isMutation = true ∨ e.isNotFound = false → next (.error e) = fail e) ∧
      ∀ answer, (next answer).Brittle
  | report _ next => next.Brittle

/-- A program that handles no failure but that of a look-up which found nothing is brittle. -/
theorem Orderly.brittle {allowed : Request → Prop} {p : Program α} (hp : p.Orderly allowed) :
    p.Brittle := by
  induction p with
  | done | fail => trivial
  | send r next ih => exact ⟨hp.2.1, fun answer => ih answer (hp.2.2 answer)⟩
  | report e next ih =>
    cases e with
    | log level line => exact ih hp
    | address | secondaryAddresses | condition => exact hp.elim

/-- A check is brittle. -/
theorem brittle_ofExcept (r : Except Failure α) : (ofExcept r).Brittle := by
  cases r <;> trivial

/-- Reporting an event is brittle. -/
theorem brittle_emit (e : Event) : (emit e).Brittle := trivial

/-- Two programs in turn are brittle if both are. -/
theorem Brittle.bind {p : Program α} {f : α → Program β} (hp : p.Brittle)
    (hf : ∀ a, (f a).Brittle) : (p >>= f).Brittle := by
  induction p with
  | done a => exact hf a
  | fail e => trivial
  | send r next ih =>
    obtain ⟨hfail, hnext⟩ := hp
    refine ⟨fun e he => ?_, fun answer => ih answer (hnext answer)⟩
    show (next (.error e)).bind f = fail e
    rw [hfail e he]
    rfl
  | report e next ih => exact ih hp

/-- However gently a run of a brittle program is disturbed, it passes through such clouds only as
the undisturbed run visits, so that all of them are as that one upholds. -/
theorem Brittle.passes {P : Cloud → Prop} {p : Program α} (hp : p.Brittle)
    {deadline : Option Seconds} {x : Session Trial} (hx : x.Gentle) (h : p.Upholds P x.cloud) :
    ∀ v ∈ p.passes deadline x, P v := by
  induction p generalizing x with
  | done | fail => exact nofun
  | send r next ih =>
    obtain ⟨hfail, hnext⟩ := hp
    obtain ⟨hstart, hlater⟩ := List.forall_mem_cons.1 h
    have hgentle : (x.call Trial.provider deadline r).2.Gentle := hx.call
    have hcall := (x.call_outcome deadline r).1
    unfold Program.passes
    rcases hresult : x.call Trial.provider deadline r with ⟨answer, x'⟩
    rw [hresult] at hcall hgentle
    dsimp only at hcall hgentle ⊢
    cases hcall with
    | answered a ha =>
      unfold Program.visits at hlater
      rw [ha] at hlater
      exact List.forall_mem_cons.2 ⟨(List.forall_mem_cons.1 hlater).1,
        ih _ (hnext _) hgentle hlater⟩
    | refused e e' ha =>
      -- What is refused is a change, and that ends the program.
      rw [hfail e (.inl (Cloud.isMutation_of_error ha))]
      unfold Program.visits at hlater
      rw [ha] at hlater
      exact List.forall_mem_singleton.2 (List.forall_mem_cons.1 hlater).1
    | lost e hcloud hsoft =>
      rw [hfail e (.inr (hsoft hx))]
      refine List.forall_mem_singleton.2 ?_
      rw [hcloud]
      exact hstart
  | report e next ih =>
    have hworld := x.note_world e
    refine ih (x := x.note e) hp ?_ ?_
    · unfold Session.Gentle
      rwa [hworld]
    · unfold Session.cloud
      rwa [hworld]

/-- Where a brittle program returns, it returns the same in every live session, and leaves the same
resources. -/
theorem Brittle.run_of_returns {p : Program α} (hp : p.Brittle) {deadline : Option Seconds}
    {x : Session Cloud} (live : x.Live deadline) {a : α} {c' : Cloud}
    (h : p.Returns x.world.store a c') :
    ∃ x', p.run Cloud.provider deadline x = (.ok a, x') ∧ x'.world.store = c' := by
  induction p generalizing x with
  | done b =>
    obtain ⟨rfl, rfl⟩ := returns_done.1 h
    exact ⟨x, rfl, rfl⟩
  | fail e => exact (returns_fail h).elim
  | send r next ih =>
    obtain ⟨hfail, hnext⟩ := hp
    have h' : (next (x.world.store.answer r).1).Returns (x.world.store.answer r).2 a c' := h
    unfold Program.run
    rw [Session.call_of_live live]
    rcases ha : x.world.store.answer r with ⟨e | v, c1⟩
    -- A refused request has ended the program.
    · rw [ha] at h'
      dsimp only at h'
      rw [hfail e (.inl (Cloud.isMutation_of_error ha))] at h'
      exact (returns_fail h').elim
    · rw [ha] at h'
      dsimp only
      exact ih (.ok v) (hnext _) (x := { x with
        world := { x.world with store := c1 }
        calls := x.calls ++ [⟨r, remaining deadline x.world.now⟩] }) live h'
  | report e next ih =>
    have hworld := x.note_world e
    refine ih (x := x.note e) hp ?_ ?_
    · unfold Session.Live
      rwa [hworld]
    · rw [hworld]
      exact h

end Program

end ControlPlane
