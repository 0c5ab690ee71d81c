import ControlPlane.Proofs.Provider.Exchanges
import ControlPlane.Proofs.Provider.Walks

/-!
# Programs followed along the cloud

What a request may do can depend on what the cloud holds when it is sent: an address may be released
if the load balancer that holds it then has the tags for it. `Program.Tracked` follows a program
along the clouds that answer it. From the cloud that it starts on, the program sends allowed
requests only, and ends with a value and a cloud that meet a condition. At any place a request may
be refused, or be lost before the cloud has got it (`Cloud.MayAnswer`), and the program must stay
within its bounds then as well.

If allowed requests keep an invariant, then however a run is disturbed, every request that it sends
is allowed on the cloud of that moment (`Tracked.exchanges`), and the cloud that it leaves meets the
invariant, and the condition if the run has returned (`Tracked.run`).
-/

namespace ControlPlane

/-- What can come back for a request to a cloud on trial, and the cloud then. -/
inductive Cloud.MayAnswer (c : Cloud) (r : Request) : Except Failure r.Reply → Cloud → Prop
  | answered {v : r.Reply} {c' : Cloud} (h : c.answer r = (.ok v, c')) : MayAnswer c r (.ok v) c'
  | refused {e e' : Failure} {c' : Cloud} (h : c.answer r = (.error e', c')) :
    MayAnswer c r (.error e) c'
  | lost (e : Failure) : MayAnswer c r (.error e) c

namespace Cloud.MayAnswer

variable {c c' : Cloud} {r : Request} {a : Except Failure r.Reply}

/-- What a request keeps is kept whatever comes back. -/
theorem keeps {P : Cloud → Prop} (h : c.MayAnswer r a c') (hc : P c) (hr : P (c.answer r).2) :
    P c' := by
  cases h with
  | answered h | refused h =>
    rw [h] at hr
    exact hr
  | lost e => exact hc

/-- Whatever comes back for a look-up, the cloud is as it was. -/
theorem eq_of_lookup (h : c.MayAnswer r a c') (hr : r.isMutation = false) : c' = c := by
  refine h.keeps (P := (· = c)) rfl ?_
  obtain ⟨v, hv⟩ := Cloud.answer_lookup hr c
  rw [hv]

end Cloud.MayAnswer

/-- Nothing else comes back in a session on trial. -/
theorem Session.call_mayAnswer (deadline : Option Seconds) (r : Request) (x : Session Trial) :
    x.cloud.MayAnswer r (x.call Trial.provider deadline r).1
      (x.call Trial.provider deadline r).2.cloud := by
  have houtcome := (x.call_outcome deadline r).1
  rcases hcall : x.call Trial.provider deadline r with ⟨a, x'⟩
  rw [hcall] at houtcome
  dsimp only at houtcome ⊢
  cases houtcome with
  | answered v h => exact .answered h
  | refused e e' h => exact .refused h
  | lost e h _ =>
    rw [h]
    exact .lost e

namespace Program

variable {α β : Type}

/-- From a cloud, the program sends allowed requests only and ends with a value and a cloud that
meet a condition, if all clouds on the way meet an invariant, whatever fails. -/
def Tracked (allowed : Cloud → Request → Prop) (inv : Cloud → Prop) (P : α → Cloud → Prop) :
    Program α → Cloud → Prop
  | done a, c => P a c
  | fail _, _ => True
  | send r next, c => allowed c r ∧
      ∀ a c', c.MayAnswer r a c' → inv c' → (next a).Tracked allowed inv P c'
  | report _ next, c => next.Tracked allowed inv P c

section

variable {allowed : Cloud → Request → Prop} {inv : Cloud → Prop} {P : α → Cloud → Prop}
  {Q : β → Cloud → Prop} {c : Cloud}

/-- A check sends nothing, and leaves the cloud as it is. -/
theorem tracked_ofExcept (r : Except Failure α) :
    (ofExcept r).Tracked allowed inv (fun a c' => r = .ok a ∧ c' = c) c := by
  cases r with
  | error e => trivial
  | ok a => exact ⟨rfl, rfl⟩

/-- A single request that is allowed ends with the cloud's answer. -/
theorem tracked_request {r : Request} (hr : allowed c r) :
    (request r).Tracked allowed inv (fun v c' => c.answer r = (.ok v, c')) c := by
  refine ⟨hr, fun a c' ha _ => ?_⟩
  cases ha with
  | answered hv => exact hv
  | refused _ => trivial
  | lost _ => trivial

/-- What holds of the first value, and of the cloud then, may be used in what follows. -/
theorem Tracked.bind {p : Program α} {f : α → Program β} (hp : p.Tracked allowed inv P c)
    (hc : inv c)
    (hf : ∀ a c', inv c' → P a c' → (f a).Tracked allowed inv Q c') :
    (p >>= f).Tracked allowed inv Q c := by
  induction p generalizing c with
  | done a => exact hf a c hc hp
  | fail e => trivial
  | send r next ih => exact ⟨hp.1, fun a c' ha hc' => ih a (hp.2 a c' ha hc') hc'⟩
  | report e next ih => exact ih hp hc

/-- To stay within bounds wherever the invariant holds at the start is closed under sequencing. -/
theorem tracked_closed (allowed : Cloud → Request → Prop) (inv : Cloud → Prop) :
    Closed fun p => ∀ c, inv c → p.Tracked allowed inv (fun _ _ => True) c :=
  ⟨fun _ _ _ => trivial, fun hp hf c hc => (hp c hc).bind hc fun a c' hc' _ => hf a c' hc'⟩

/-- What a program is tracked to may be weakened, on the clouds that it can reach. -/
theorem Tracked.mono {R : α → Cloud → Prop} {p : Program α}
    (hp : p.Tracked allowed inv P c) (hc : inv c)
    (h : ∀ a c', inv c' → P a c' → R a c') : p.Tracked allowed inv R c := by
  have hbind := hp.bind (f := done) (Q := R) hc h
  rwa [bind_done] at hbind

/-- Conditions that are met one by one are met together. -/
theorem Tracked.and {R : α → Cloud → Prop} {p : Program α} (hp : p.Tracked allowed inv P c)
    (hp' : p.Tracked allowed inv R c) :
    p.Tracked allowed inv (fun a c' => P a c' ∧ R a c') c := by
  induction p generalizing c with
  | done a => exact ⟨hp, hp'⟩
  | fail e => trivial
  | send r next ih =>
    exact ⟨hp.1, fun a c' ha hc' => ih a (hp.2 a c' ha hc') (hp'.2 a c' ha hc')⟩
  | report e next ih => exact ih hp hp'

/-- A function of the value leaves the requests and the cloud as they are. -/
theorem Tracked.map {p : Program α} {f : α → β} (hp : p.Tracked allowed inv P c) (hc : inv c)
    (h : ∀ a c', inv c' → P a c' → Q (f a) c') :
    (f <$> p).Tracked allowed inv Q c :=
  hp.bind hc h

/-- Dropping the value leaves the requests and the cloud as they are. -/
theorem Tracked.discard {p : Program α} (hp : p.Tracked allowed inv P c) (hc : inv c) :
    (Functor.discard p).Tracked allowed inv (fun _ _ => True) c :=
  hp.map hc fun _ _ _ _ => trivial

/-- A handler of failures is tracked as the program it guards, from every cloud that meets the
invariant. -/
theorem Tracked.handle {p : Program α} {f : Failure → Program α}
    (hp : p.Tracked allowed inv P c) (hc : inv c)
    (hf : ∀ e c', inv c' → (f e).Tracked allowed inv P c') :
    (p.handle f).Tracked allowed inv P c := by
  induction p generalizing c with
  | done a => exact hp
  | fail e => exact hf e c hc
  | send r next ih => exact ⟨hp.1, fun a c' ha hc' => ih a (hp.2 a c' ha hc') hc'⟩
  | report e next ih => exact ih hp hc

/-- Of what is not found, nothing is known but that the invariant holds. -/
theorem Tracked.orNone {p : Program α} (hp : p.Tracked allowed inv P c) (hc : inv c) :
    p.orNone.Tracked allowed inv (fun found c' => ∀ a ∈ found, P a c') c := by
  refine Tracked.handle (hp.map hc fun a c' _ ha => ?_) hc fun e c' _ => ?_
  · rintro _ ⟨⟩
    exact ha
  · split
    · exact nofun
    · trivial

/-- Of an orderly program it is known what it sends, on whatever cloud. -/
theorem Orderly.tracked {allowed' : Request → Prop} {p : Program α} (hp : p.Orderly allowed')
    (h : ∀ c r, allowed' r → allowed c r) : p.Tracked allowed inv (fun _ _ => True) c := by
  induction p generalizing c with
  | done | fail => trivial
  | send r next ih =>
    obtain ⟨hr, _, hnext⟩ := hp
    exact ⟨h c r hr, fun a _ _ _ => ih a (hnext a)⟩
  | report e next ih =>
    cases e with
    | log level line => exact ih hp
    | address | secondaryAddresses | condition => exact hp.elim

/-- A program that only looks things up leaves the cloud as it was. -/
theorem ReadOnly.tracked {p : Program α} (hp : p.ReadOnly)
    (h : ∀ c r, r.isMutation = false → allowed c r) :
    p.Tracked allowed inv (fun _ c' => c' = c) c := by
  induction p with
  | done a => rfl
  | fail e => trivial
  | send r next ih =>
    obtain ⟨hr, _, hnext⟩ := hp
    refine ⟨h c r hr, fun a c' ha _ => ?_⟩
    rw [ha.eq_of_lookup hr]
    exact ih a (hnext a)
  | report e next ih =>
    cases e with
    | log level line => exact ih hp
    | address | secondaryAddresses | condition => exact hp.elim

/-- Under a stronger invariant, a program does no more than under a weaker one. -/
theorem Tracked.of_imp {inv' : Cloud → Prop} {p : Program α} (hp : p.Tracked allowed inv P c)
    (h : ∀ c, inv' c → inv c) : p.Tracked allowed inv' P c := by
  induction p generalizing c with
  | done | fail => exact hp
  | send r next ih => exact ⟨hp.1, fun a c' ha hc' => ih a (hp.2 a c' ha (h c' hc'))⟩
  | report e next ih => exact ih hp

/-- What every allowed request keeps holds in the end, if it does at the start. -/
theorem Tracked.keep {R : Cloud → Prop} {p : Program α} (hp : p.Tracked allowed inv P c)
    (step : ∀ c r, inv c → allowed c r → R c → R (c.answer r).2) (hc : inv c) (hR : R c) :
    p.Tracked allowed inv (fun a c' => P a c' ∧ R c') c := by
  induction p generalizing c with
  | done a => exact ⟨hp, hR⟩
  | fail e => trivial
  | send r next ih =>
    refine ⟨hp.1, fun a c' ha hc' => ?_⟩
    exact ih a (hp.2 a c' ha hc') hc' (ha.keeps hR (step c r hc hp.1 hR))
  | report e next ih => exact ih hp hc hR

end

/-! ## Runs -/

section

variable {allowed : Cloud → Request → Prop} {inv : Cloud → Prop} {P : α → Cloud → Prop}
  {p : Program α} {x : Session Trial}

/-- However a run is disturbed, each of its requests is allowed on the cloud that it is sent to. -/
theorem Tracked.exchanges (hp : p.Tracked allowed inv P x.cloud)
    (step : ∀ c r, inv c → allowed c r → inv (c.answer r).2) (hx : inv x.cloud)
    (deadline : Option Seconds) : ∀ k ∈ p.exchanges Trial.provider deadline x,
      inv k.before.cloud ∧ allowed k.before.cloud k.request := by
  induction p generalizing x with
  | done | fail => exact List.forall_mem_nil _
  | send r next ih =>
    obtain ⟨hr, hnext⟩ := hp
    -- A run that is canceled or past its deadline sends nothing any more.
    rcases hrun : checkRun x.world.canceled (remaining deadline x.world.now) with e | _
    · rw [exchanges_of_error _ hrun]
      exact List.forall_mem_nil _
    · rw [exchanges_of_ok hrun]
      have hcall := x.call_mayAnswer deadline r
      have hafter := hcall.keeps hx (step x.cloud r hx hr)
      exact List.forall_mem_cons.2 ⟨⟨hx, hr⟩, ih _ (hnext _ _ hcall hafter) hafter⟩
  -- A report touches the status, and not the cloud.
  | report e next ih =>
    have hcloud : (x.note e).cloud = x.cloud := congrArg (·.store.cloud) (x.note_world e)
    exact ih (x := x.note e) (hcloud.symm ▸ hp) (hcloud.symm ▸ hx)

/-- However a run is disturbed, all clouds on its way meet the invariant. -/
theorem Tracked.passes (hp : p.Tracked allowed inv P x.cloud)
    (step : ∀ c r, inv c → allowed c r → inv (c.answer r).2) (hx : inv x.cloud)
    (deadline : Option Seconds) : ∀ v ∈ p.passes deadline x, inv v := by
  induction p generalizing x with
  | done | fail => exact List.forall_mem_nil _
  | send r next ih =>
    have hcall := x.call_mayAnswer deadline r
    have hafter := hcall.keeps hx (step x.cloud r hx hp.1)
    exact List.forall_mem_cons.2 ⟨hafter, ih _ (hp.2 _ _ hcall hafter) hafter⟩
  | report e next ih =>
    have hcloud : (x.note e).cloud = x.cloud := congrArg (·.store.cloud) (x.note_world e)
    exact ih (x := x.note e) (hcloud.symm ▸ hp) (hcloud.symm ▸ hx)

/-- However a run is disturbed, it leaves a cloud that meets the invariant, and one that meets the
condition if it returns. -/
theorem Tracked.run (hp : p.Tracked allowed inv P x.cloud)
    (step : ∀ c r, inv c → allowed c r → inv (c.answer r).2) (hx : inv x.cloud)
    (deadline : Option Seconds) :
    inv (p.run Trial.provider deadline x).2.cloud ∧
      ∀ a, (p.run Trial.provider deadline x).1 = .ok a →
        P a (p.run Trial.provider deadline x).2.cloud := by
  induction p generalizing x with
  | done a =>
    refine ⟨hx, ?_⟩
    rintro _ ⟨⟩
    exact hp
  | fail e => exact ⟨hx, nofun⟩
  | send r next ih =>
    -- However the call ends, its answer is one that the cloud may give.
    have hcall := x.call_mayAnswer deadline r
    have hafter := hcall.keeps hx (step x.cloud r hx hp.1)
    exact ih _ (hp.2 _ _ hcall hafter) hafter
  | report e next ih =>
    have hcloud : (x.note e).cloud = x.cloud := congrArg (·.store.cloud) (x.note_world e)
    exact ih (x := x.note e) (hcloud.symm ▸ hp) (hcloud.symm ▸ hx)

/-- A run that nothing disturbs leaves a cloud that meets the invariant, and the condition. -/
theorem Tracked.returns {c c' : Cloud} {a : α} (hp : p.Tracked allowed inv P c)
    (step : ∀ c r, inv c → allowed c r → inv (c.answer r).2) (hc : inv c) (h : p.Returns c a c') :
    inv c' ∧ P a c' := by
  induction p generalizing c with
  | done b =>
    obtain ⟨rfl, rfl⟩ := returns_done.1 h
    exact ⟨hc, hp⟩
  | fail e => exact (returns_fail h).elim
  | send r next ih =>
    have hanswer : c.MayAnswer r (c.answer r).1 (c.answer r).2 := by
      rcases hv : c.answer r with ⟨e | v, c1⟩
      · exact .refused hv
      · exact .answered hv
    have hafter := step c r hc hp.1
    exact ih _ (hp.2 _ _ hanswer hafter) hafter h
  | report e next ih => exact ih hp hc h

end

end Program

end ControlPlane
