import ControlPlane.ControlLoop
import ControlPlane.Proofs.Provider.Exchanges
import ControlPlane.Proofs.Topology.Resumption

/-!
# Failures, deadlines and cancellations

Whatever is run for a cluster, against whatever provider: a request that fails is the last one,
unless a look-up found nothing, and the run fails because of it (`Job.stops_at_failure`). And
nothing is sent once the deadline has passed or the run is canceled, so that a deadline only cuts
the traffic short (`Job.sends_in_time`).
-/

namespace ControlPlane

variable {σ : Type}

/-- No failure of a provider is swallowed. If a request of a job fails, and not because something
was not found, then nothing is sent or published after it, and the failure of the job has that
failure's whole chain behind it: it is the same one if that has a disposition, an interruption if
the provider ran out of time or the run was canceled or expired meanwhile, and else a failed call.
-/
theorem Job.stops_at_failure (s : Scope) (j : Job) (p : Provider σ) (deadline : Option Seconds)
    (x : Session σ) {n : Nat} {k : Exchange σ} {e : Failure}
    (hk : ((j.program s).exchanges p deadline x)[n]? = some k) (he : k.answer = .error e)
    (hfound : e.isNotFound = false) :
    ((j.program s).exchanges p deadline x).length = n + 1 ∧
    ∃ f, (j.program s).run p deadline x = (.error f, k.left) ∧
      e.chain <:+ f.chain ∧
      (e.fault.kind.disposition?.isSome → f = e) ∧
      (e.fault.kind.disposition? = none →
        let interrupted := e.fault.kind = .timedOut ∨ k.after.canceled ∨
          ∃ d, deadline = some d ∧ ¬k.after.now < d
        (interrupted → f = .causedBy
          (.interrupted (.callInterrupted k.request.method e.message)) e) ∧
        (¬interrupted → f = .causedBy ⟨.callFailed, .callFailed k.request.method e.message⟩ e)) := by
  obtain ⟨hlength, hrun⟩ := (Job.brittle s j).ends_at_failure hk he hfound
  have hlate : (e.fault.kind = .timedOut ∨ k.after.canceled ∨
        remaining deadline k.after.now = some 0) ↔
      e.fault.kind = .timedOut ∨ k.after.canceled ∨ ∃ d, deadline = some d ∧ ¬k.after.now < d :=
    or_congr_right (or_congr_right remaining_eq_zero)
  refine ⟨hlength, _, hrun, ?_⟩
  -- A failure with a disposition passes as it is; others are wrapped, by whether the session is
  -- late.
  unfold classify
  split
  · next hdisposition =>
    refine ⟨List.suffix_refl _, fun _ => rfl, fun hnone => ?_⟩
    rw [hnone] at hdisposition
    cases hdisposition
  · next hdisposition =>
    split
    · next hinterrupted =>
      refine ⟨?_, fun h => absurd h hdisposition, fun _ =>
        ⟨fun _ => rfl, absurd (hlate.1 hinterrupted)⟩⟩
      rw [Failure.chain_causedBy]
      exact List.suffix_cons ..
    · next hinterrupted =>
      refine ⟨?_, fun h => absurd h hdisposition, fun _ =>
        ⟨fun h => absurd (hlate.2 h) hinterrupted, fun _ => rfl⟩⟩
      rw [Failure.chain_causedBy]
      exact List.suffix_cons ..

/-- A second load balancer takes too long to make. -/
def Sample.stalled : Circumstances where
  disturbances := [{ endpoint := "create_lb", nth := some 2
                     failure := some (.ofFault ⟨.timedOut, .noTags⟩) }]

/-- A cloud that stalls: the fifth request runs out of time, none follows it, and the run ends
interrupted by the failure of that request. -/
theorem sample_stops_at_failure :
    ∃ (k : Exchange Trial) (f : Failure),
      ((Job.reconcile.program Sample.pinnedScope).exchanges Trial.provider none
        (Sample.stalled.session Sample.vacantCloud)).length = 5 ∧
      (Job.reconcile.program Sample.pinnedScope).run Trial.provider none
        (Sample.stalled.session Sample.vacantCloud) = (.error f, k.left) ∧
      f = .causedBy (.interrupted (.callInterrupted k.request.method "tags cannot be empty"))
        (.ofFault ⟨.timedOut, .noTags⟩) := by
  have hfailed : (((Job.reconcile.program Sample.pinnedScope).exchanges Trial.provider none
      (Sample.stalled.session Sample.vacantCloud))[4]?.bind fun k =>
        match k.answer with
        | .ok _ => none
        | .error e => some e) = some (.ofFault ⟨.timedOut, .noTags⟩) := by
    decide +kernel
  obtain ⟨k, hk, hanswer⟩ := Option.bind_eq_some_iff.1 hfailed
  -- The last of the five requests is the one that times out.
  have he : k.answer = .error (.ofFault ⟨.timedOut, .noTags⟩) := by
    rcases ha : k.answer with e | a <;> rw [ha] at hanswer <;> cases hanswer
    rfl
  obtain ⟨hlength, f, hrun, _, _, hclass⟩ :=
    Job.stops_at_failure Sample.pinnedScope .reconcile Trial.provider none
      (Sample.stalled.session Sample.vacantCloud) hk he (by decide)
  exact ⟨k, f, hlength, hrun, (hclass rfl).1 (.inl rfl)⟩

/-- The program that is run for a job by whoever is in charge: for a cluster, a turn of the control
loop. -/
def Job.turn (s : Scope) : Job → Program Unit
  | .reconcile => Functor.discard (s.turn .reconcile)
  | .delete => Functor.discard (s.turn .delete)
  | j => j.program s

/-- Nothing is sent after the deadline or a cancellation. Every request of a job reaches the
provider while the run is not canceled and before the deadline, with the difference to the deadline
as the time left. So, as long as another run without a deadline gets the same answers, and is
canceled where the first one is, the requests of the first are the first requests of the other. -/
theorem Job.sends_in_time (s : Scope) (j : Job) (p : Provider σ) (deadline : Option Seconds)
    (x : Session σ) :
    let ks := (j.turn s).exchanges p deadline x
    ((j.turn s).run p deadline x).2.calls = x.calls ++ ks.map Exchange.call ∧
    (∀ k ∈ ks, k.before.world.canceled = false ∧
      (∀ d, deadline = some d → k.before.world.now < d ∧
        0 < d - k.before.world.now ∧ k.timeout = some (d - k.before.world.now)) ∧
      (deadline = none → k.timeout = none)) ∧
    ∀ (τ : Type) (p' : Provider τ) (y : Session τ) (n : Nat),
      x.world.canceled = y.world.canceled →
      Program.Agree n ks ((j.turn s).exchanges p' none y) →
      (ks.take (n + 1)).map Exchange.request <+:
        ((j.turn s).exchanges p' none y).map Exchange.request := by
  refine ⟨Program.run_calls .., fun k hk => ?_, fun τ p' y n hcanceled hagree => ?_⟩
  · obtain ⟨hcanceled, htimeout, hlt⟩ := Program.exchanges_timely p deadline (j.turn s) x k hk
    refine ⟨hcanceled, ?_, ?_⟩
    · rintro d rfl
      -- The timeout is positive also after rounding.
      exact ⟨hlt d rfl, Binary64.sub_pos_iff.2 (hlt d rfl), htimeout⟩
    · rintro rfl
      exact htimeout
  · exact Program.exchanges_prefix p p' deadline (j.turn s) x y n hcanceled hagree

/-- With a second for each request and nine to go, the turn sends nine requests, the first nine of a
turn that has no deadline. -/
theorem sample_sends_in_time :
    let ks := (Job.reconcile.turn Sample.pinnedScope).exchanges Trial.provider (some 9)
      ({ step := 1 : Circumstances }.session Sample.vacantCloud)
    ks.length = 9 ∧ ks.map Exchange.request <+:
      ((Job.reconcile.turn Sample.pinnedScope).exchanges Trial.provider none
        ({ step := 1 : Circumstances }.session Sample.vacantCloud)).map Exchange.request := by
  intro ks
  have hlength : ks.length = 9 := by decide +kernel
  have hprefix := (Job.sends_in_time Sample.pinnedScope .reconcile Trial.provider (some 9)
    ({ step := 1 : Circumstances }.session Sample.vacantCloud)).2.2 Trial Trial.provider
    ({ step := 1 : Circumstances }.session Sample.vacantCloud) 9 rfl
    (Program.exchanges_agree (fun _ _ _ => rfl) _ _ _ _ rfl 9)
  rw [List.take_of_length_le (Nat.le_succ_of_le (Nat.le_of_eq hlength))] at hprefix
  exact ⟨hlength, hprefix⟩

end ControlPlane
