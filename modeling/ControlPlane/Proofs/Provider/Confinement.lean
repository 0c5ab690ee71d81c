import ControlPlane.Proofs.Provider.Trials
import ControlPlane.Proofs.Provider.Walks

/-!
# Programs that stay within bounds

What a request may act on often depends on what was looked up before: a load balancer may be deleted
since it was found with the cluster's tags. `Program.Confined` follows a program along its answers.
The program sends allowed requests only, as long as the answers come from clouds that meet an
invariant, and ends in values of which something holds; a failed request may come at any place and
the program must stay within its bounds then as well. If allowed requests keep the invariant, every
run keeps it, however it is disturbed (`Confined.run`).
-/

namespace ControlPlane

namespace Program

variable {α β : Type}

/-- The program sends allowed requests only and ends in values that meet a condition, if clouds that
meet an invariant answer, whatever fails. -/
def Confined (allowed : Request → Prop) (inv : Cloud → Prop) (post : α → Prop) :
    Program α → Prop
  | done a => post a
  | fail _ => True
  | send r next =>
    allowed r ∧
      (∀ c v c', inv c → c.answer r = (.ok v, c') → (next (.ok v)).Confined allowed inv post) ∧
      ∀ e, (next (.error e)).Confined allowed inv post
  | report _ next => next.Confined allowed inv post

variable {allowed : Request → Prop} {inv : Cloud → Prop} {P : α → Prop}

/-- A check sends nothing, and ends in the value that it yields. -/
theorem confined_ofExcept {r : Except Failure α} (h : ∀ a, r = .ok a → P a) :
    (ofExcept r).Confined allowed inv P := by
  cases r with
  | error e => trivial
  | ok a => exact h a rfl

/-- A single request is confined if it is allowed, and ends in what sound answers to it are. -/
theorem confined_request {r : Request} {P : r.Reply → Prop} (hr : allowed r)
    (h : ∀ c v c', inv c → c.answer r = (.ok v, c') → P v) :
    (request r).Confined allowed inv P :=
  ⟨hr, h, fun _ => trivial⟩

/-- What holds of the first value may be used in what follows. -/
theorem Confined.bind {p : Program α} {f : α → Program β} {Q : β → Prop}
    (hp : p.Confined allowed inv P) (hf : ∀ a, P a → (f a).Confined allowed inv Q) :
    (p >>= f).Confined allowed inv Q := by
  induction p with
  | done a => exact hf a hp
  | fail e => trivial
  | send r next ih =>
    obtain ⟨hr, hok, hfailed⟩ := hp
    exact ⟨hr, fun c v c' hc hv => ih _ (hok c v c' hc hv), fun e => ih _ (hfailed e)⟩
  | report e next ih => exact ih hp

/-- A function of the value leaves the requests as they are. -/
theorem Confined.map {p : Program α} {f : α → β} {Q : β → Prop}
    (hp : p.Confined allowed inv P) (h : ∀ a, P a → Q (f a)) :
    (f <$> p).Confined allowed inv Q :=
  hp.bind h

/-- Dropping the value leaves the requests as they are. -/
theorem Confined.discard {p : Program α} (hp : p.Confined allowed inv P) :
    (Functor.discard p).Confined allowed inv fun _ => True :=
  hp.map fun _ _ => trivial

/-- A handler of failures is confined as the program it guards. -/
theorem Confined.handle {p : Program α} {f : Failure → Program α}
    (hp : p.Confined allowed inv P) (hf : ∀ e, (f e).Confined allowed inv P) :
    (p.handle f).Confined allowed inv P := by
  induction p with
  | done a => exact hp
  | fail e => exact hf e
  | send r next ih =>
    obtain ⟨hr, hok, hfailed⟩ := hp
    exact ⟨hr, fun c v c' hc hv => ih _ (hok c v c' hc hv), fun e => ih _ (hfailed e)⟩
  | report e next ih => exact ih hp

/-- Nothing may be found in place of a value that meets the condition. -/
theorem Confined.orNone {p : Program α} (hp : p.Confined allowed inv P) :
    p.orNone.Confined allowed inv fun found => ∀ a ∈ found, P a := by
  refine Confined.handle (hp.map fun a ha => ?_) fun e => ?_
  · rintro _ ⟨⟩
    exact ha
  · split
    · exact nofun
    · trivial

/-! ## Walks through lists -/

section

variable {as : List α}

/-- Staying within bounds is closed under sequencing. -/
theorem confined_closed (allowed : Request → Prop) (inv : Cloud → Prop) :
    Closed fun p => p.Confined allowed inv fun _ => True :=
  ⟨fun _ => trivial, fun hp hf => hp.bind fun a _ => hf a⟩

/-- What holds of each value holds of all that are collected. -/
theorem Confined.mapM' {f : α → Program β} {Q : β → Prop}
    (h : ∀ a ∈ as, (f a).Confined allowed inv Q) :
    (as.mapM' f).Confined allowed inv fun bs => ∀ b ∈ bs, Q b := by
  induction as with
  | nil => exact nofun
  | cons a rest ih =>
    obtain ⟨ha, hrest⟩ := List.forall_mem_cons.1 h
    refine ha.bind fun b hb => (ih hrest).bind fun more hmore => ?_
    exact List.forall_mem_cons.2 ⟨hb, hmore⟩

/-- What each step keeps of the value that is handed on holds in the end. -/
theorem Confined.foldlM {f : β → α → Program β} {Q : β → Prop} {b : β}
    (h : ∀ b, Q b → ∀ a ∈ as, (f b a).Confined allowed inv Q) (hb : Q b) :
    (as.foldlM f b).Confined allowed inv Q := by
  induction as generalizing b with
  | nil => exact hb
  | cons a rest ih =>
    rw [List.foldlM_cons]
    refine (h b hb a List.mem_cons_self).bind fun b' hb' => ?_
    exact ih (fun b hb a ha => h b hb a (List.mem_cons_of_mem _ ha)) hb'

end

/-! ## Runs -/

/-- Of an orderly program it is known what it sends, whatever is answered. -/
theorem Orderly.confined {allowed' : Request → Prop} {p : Program α} (hp : p.Orderly allowed')
    (h : ∀ r, allowed' r → allowed r) : p.Confined allowed inv fun _ => True := by
  induction p with
  | done | fail => trivial
  | send r next ih =>
    obtain ⟨hr, _, hnext⟩ := hp
    exact ⟨h r hr, fun _ v _ _ _ => ih _ (hnext (.ok v)), fun e => ih _ (hnext (.error e))⟩
  | report e next ih =>
    cases e with
    | log level line => exact ih hp
    | address | secondaryAddresses | condition => exact hp.elim

/-- However a run is disturbed, it keeps what allowed requests keep, answered or refused. -/
theorem Confined.run {p : Program α} (hp : p.Confined allowed inv P)
    (step : ∀ r c, allowed r → inv c → inv (c.answer r).2) {deadline : Option Seconds}
    {x : Session Trial} (hx : inv x.cloud) : inv (p.run Trial.provider deadline x).2.cloud := by
  induction p generalizing x with
  | done | fail => exact hx
  | send r next ih =>
    obtain ⟨hr, hok, hfailed⟩ := hp
    have hanswer := step r x.cloud hr hx
    have hcall := (x.call_outcome deadline r).1
    unfold Program.run
    rcases hresult : x.call Trial.provider deadline r with ⟨answer, x'⟩
    rw [hresult] at hcall
    dsimp only at hcall ⊢
    cases hcall with
    | answered v ha =>
      rw [ha] at hanswer
      exact ih _ (hok _ v _ hx ha) hanswer
    | refused e e' ha =>
      rw [ha] at hanswer
      exact ih _ (hfailed e) hanswer
    | lost e hcloud _ =>
      -- The request did not reach the cloud.
      refine ih _ (hfailed e) ?_
      rw [hcloud]
      exact hx
  | report e next ih =>
    refine ih (x := x.note e) hp ?_
    unfold Session.cloud
    rw [x.note_world]
    exact hx

end Program

end ControlPlane
