import ControlPlane.Proofs.Provider.Exchanges
import ControlPlane.Proofs.Provider.Operations
import ControlPlane.Proofs.Provider.Walks

/-!
# How runs end that are cut short

A run that is canceled or out of time sends nothing any more, but it goes on with what it has: the
failure of its last request may be ignored, or become another one, before the next request is due.
`Program.Settles` is about that stretch, from a node of a program to the next request, and says what
the program may end with on it. `Program.Guarded` says the same about every request that may fail:
if nothing can be sent after the failure, the program ends with a value or a failure of some kind,
which may depend on the failure that there was.

Both are kept by `bind` and by handlers. `Guarded.run_cut_short` gives them their meaning for a run
against any provider: if a request fails and leaves the run canceled or out of time, the run ends as
the program is guarded, or with an interruption.
-/

namespace ControlPlane

namespace Program

variable {α β : Type} {F : Failure → Prop} {G : Failure → Failure → Prop} {V : α → Prop} {W : β → Prop}

/-! ## Up to the next request -/

/-- If the program ends before it sends a request, then with such a value or such a failure. -/
def Settles (F : Failure → Prop) (V : α → Prop) : Program α → Prop
  | done a => V a
  | fail f => F f
  | send _ _ => True
  | report _ next => next.Settles F V

/-- A check ends with its value or its failure. -/
theorem settles_ofExcept {r : Except Failure α} (hv : ∀ a, r = .ok a → V a)
    (hf : ∀ f, r = .error f → F f) : (ofExcept r).Settles F V := by
  cases r with
  | ok a => exact hv a rfl
  | error f => exact hf f rfl

/-- What a program ends with may be weakened. -/
theorem Settles.mono {F' : Failure → Prop} {V' : α → Prop} {p : Program α} (hp : p.Settles F V)
    (hf : ∀ f, F f → F' f) (hv : ∀ a, V a → V' a) : p.Settles F' V' := by
  induction p with
  | done a => exact hv a hp
  | fail f => exact hf f hp
  | send r next => trivial
  | report e next ih => exact ih hp

/-- If the first program ends before it sends a request, the second one starts from its value. -/
theorem Settles.bind {p : Program α} {f : α → Program β} (hp : p.Settles F V)
    (hf : ∀ a, V a → (f a).Settles F W) : (p >>= f).Settles F W := by
  induction p with
  | done a => exact hf a hp
  | fail e => exact hp
  | send r next => trivial
  | report e next ih => exact ih hp

/-- A program that cannot end before its next request does not settle what comes after it. -/
theorem Settles.bind_of_sends {p : Program α} {f : α → Program β} (hp : p.Settles F fun _ => False) :
    (p >>= f).Settles F W :=
  hp.bind fun _ h => h.elim

/-- If the program ends before it sends a request, a handler takes up its failure. -/
theorem Settles.handle {F' : Failure → Prop} {p : Program α} {f : Failure → Program α}
    (hp : p.Settles F' V) (hf : ∀ e, F' e → (f e).Settles F V) : (p.handle f).Settles F V := by
  induction p with
  | done a => exact hp
  | fail e => exact hf e hp
  | send r next => trivial
  | report e next ih => exact ih hp

/-! ## After every failed request -/

/-- If a request fails and the program ends before the next one, then with such a value or with a
failure that may come of the failed request's. -/
def Guarded (G : Failure → Failure → Prop) (V : α → Prop) : Program α → Prop
  | done _ => True
  | fail _ => True
  | send _ next => (∀ e, (next (.error e)).Settles (G e) V) ∧ ∀ answer, (next answer).Guarded G V
  | report _ next => next.Guarded G V

/-- After a failed request, the program does not return before the next one. -/
abbrev Stops (G : Failure → Failure → Prop) : Program α → Prop := Guarded G fun _ => False

/-- A check sends no request that could fail. -/
theorem guarded_ofExcept (r : Except Failure α) : (ofExcept r).Guarded G V := by
  cases r <;> trivial

/-- A request alone fails as it does. -/
theorem guarded_request (refl : ∀ e, G e e) (r : Request) {V : r.Reply → Prop} :
    (request r).Guarded G V :=
  ⟨refl, guarded_ofExcept⟩

/-- The values that a program may end with after a failed request may be weakened. -/
theorem Guarded.mono {V' : α → Prop} {p : Program α} (hp : p.Guarded G V) (hv : ∀ a, V a → V' a) :
    p.Guarded G V' := by
  induction p with
  | done | fail => trivial
  | send r next ih =>
    exact ⟨fun e => (hp.1 e).mono (fun _ h => h) hv, fun answer => ih answer (hp.2 answer)⟩
  | report e next ih => exact ih hp

/-- What returns after a failed request must be settled by what comes next. -/
theorem Guarded.bind {p : Program α} {f : α → Program β} (hp : p.Guarded G V)
    (hsettles : ∀ e a, V a → (f a).Settles (G e) W) (hf : ∀ a, (f a).Guarded G W) :
    (p >>= f).Guarded G W := by
  induction p with
  | done a => exact hf a
  | fail e => trivial
  | send r next ih =>
    exact ⟨fun e => (hp.1 e).bind (hsettles e), fun answer => ih answer (hp.2 answer)⟩
  | report e next ih => exact ih hp

/-- A program that stops after a failed request keeps what comes after it from being reached. -/
theorem Stops.bind {p : Program α} {f : α → Program β} (hp : p.Stops G)
    (hf : ∀ a, (f a).Guarded G W) : (p >>= f).Guarded G W :=
  Guarded.bind hp (fun _ _ h => h.elim) hf

/-- To stop at each failed request is closed under sequencing. -/
theorem stops_closed (G : Failure → Failure → Prop) : Closed fun p => p.Stops G :=
  ⟨fun _ => trivial, Stops.bind⟩

/-- A function of the value does not matter where none is returned. -/
theorem Stops.map {p : Program α} (f : α → β) (hp : p.Stops G) : (f <$> p).Stops G :=
  hp.bind fun _ => trivial

/-- Dropping the value does not matter where none is returned. -/
theorem Stops.discard {p : Program α} (hp : p.Stops G) : (Functor.discard p).Stops G :=
  hp.bind fun _ => trivial

/-- What is known beforehand may be used. -/
theorem guarded_ofExcept_bind {r : Except Failure α} {f : α → Program β}
    (hf : ∀ a, r = .ok a → (f a).Guarded G W) : (ofExcept r >>= f).Guarded G W := by
  cases r with
  | ok a => exact hf a rfl
  | error e => trivial

/-- A handler must settle what it makes of a failure. -/
theorem Guarded.handle {p : Program α} {f : Failure → Program α} (hp : p.Guarded G V)
    (hsettles : ∀ e e', G e e' → (f e').Settles (G e) V) (hf : ∀ e, (f e).Guarded G V) :
    (p.handle f).Guarded G V := by
  induction p with
  | done a => trivial
  | fail e => exact hf e
  | send r next ih =>
    exact ⟨fun e => (hp.1 e).handle (hsettles e), fun answer => ih answer (hp.2 answer)⟩
  | report e next ih => exact ih hp

/-- Where something might not be found, nothing is returned after a failed request. -/
theorem Stops.orNone {p : Program α} (hp : p.Stops G) : p.orNone.Guarded G (· = none) := by
  refine Guarded.handle ((hp.map some).mono fun _ h => h.elim) (fun e e' he => ?_) fun e => ?_
  · split
    · exact rfl
    · exact he
  · split <;> trivial

end Program

/-! ## Zones -/

namespace Site

open Program hiding ofExcept

variable {α : Type} {G : Failure → Failure → Prop} {V : α → Prop} {s : Site} {zone : String}

/-- An operation in a zone is guarded if it is so in a zone of the region. -/
theorem guarded_in_zone {p : Program α} (hp : zone ∈ s.zones → p.Guarded G V) :
    (s.checkZone zone >>= fun _ => p).Guarded G V :=
  guarded_ofExcept_bind fun _ h => hp (Region.checkZone_eq_ok.1 h)

/-- In a zone of the region, an operation begins with what comes after the check. -/
theorem settles_in_zone {F : Failure → Prop} {p : Program α} (hzone : zone ∈ s.zones)
    (hp : p.Settles F V) : (s.checkZone zone >>= fun _ => p).Settles F V := by
  unfold checkZone
  rw [Region.checkZone_eq_ok.2 hzone]
  exact hp

/-- If a request to find something in a zone has failed, then in a zone of the region. -/
theorem guarded_orNone_in_zone {p : Program α} (hp : p.Stops G) :
    (s.checkZone zone >>= fun _ => p).orNone.Guarded G fun found => found = none ∧ zone ∈ s.zones := by
  by_cases hzone : zone ∈ s.zones
  · exact (Stops.orNone (guarded_in_zone fun _ => hp)).mono fun _ h => ⟨h, hzone⟩
  · unfold checkZone
    cases hcheck : s.region.checkZone s.balancerZones zone with
    | ok u => exact absurd (Region.checkZone_eq_ok.1 hcheck) hzone
    | error e =>
      show Program.Guarded G _ (if e.isIgnored [.notFound] then done none else fail e)
      split <;> trivial

end Site

/-! ## Runs -/

/-- In a session that is canceled or out of time, nothing can be sent. -/
def World.Late {σ : Type} (deadline : Option Seconds) (w : World σ) : Prop :=
  w.canceled = true ∨ ∃ d, deadline = some d ∧ ¬w.now < d

namespace Program

variable {σ α : Type} {p : Provider σ} {deadline : Option Seconds} {x : Session σ}
  {G : Failure → Failure → Prop} {V : α → Prop}

/-- The failures of a run that may not go on. -/
def IsStop (f : Failure) : Prop :=
  f = .ofFault (.interrupted .canceled) ∨ f = .ofFault (.interrupted .deadlineExceeded)

/-- A run that is late may not go on. -/
theorem checkRun_of_late (h : World.Late deadline x.world) :
    ∃ e, checkRun x.world.canceled (remaining deadline x.world.now) = .error e ∧ IsStop e := by
  unfold checkRun raise
  rcases h with hcanceled | hexpired
  · rw [if_pos hcanceled]
    exact ⟨_, rfl, .inl rfl⟩
  · rw [remaining_eq_zero.2 hexpired]
    split
    · exact ⟨_, rfl, .inl rfl⟩
    · exact ⟨_, if_neg Binary64.not_zero_lt_zero, .inr rfl⟩

/-- In a late session, a brittle program settles or is stopped. -/
theorem Settles.run_late {F : Failure → Prop} {q : Program α} (hq : q.Settles F V)
    (hbrittle : q.Brittle) (late : World.Late deadline x.world) :
    (∃ a, (q.run p deadline x).1 = .ok a ∧ V a) ∨
      ∃ f, (q.run p deadline x).1 = .error f ∧ (F f ∨ IsStop f) := by
  induction q generalizing x with
  | done a => exact .inl ⟨a, rfl, hq⟩
  | fail f => exact .inr ⟨f, rfl, .inl hq⟩
  | send r next ih =>
    -- The first request is not sent any more, and its failure ends a brittle program.
    obtain ⟨e, hcheck, hstop⟩ := checkRun_of_late late
    refine .inr ⟨e, ?_, .inr hstop⟩
    unfold run
    rw [Session.call_of_error hcheck]
    dsimp only
    rw [hbrittle.1 e (.inr (checkRun_error hcheck))]
    rfl
  | report e next ih =>
    refine ih (x := x.note e) hq hbrittle ?_
    rwa [x.note_world]

/-- If a request of a guarded program fails and leaves the run canceled or out of time, the run ends
with a value or a failure as the program is guarded, or it is stopped. -/
theorem Guarded.run_cut_short {q : Program α} (hq : q.Guarded G V) (hbrittle : q.Brittle) {n : Nat}
    {k : Exchange σ} {e : Failure} (hk : (q.exchanges p deadline x)[n]? = some k)
    (he : k.answer = .error e) (late : World.Late deadline k.after) :
    (∃ a, (q.run p deadline x).1 = .ok a ∧ V a) ∨
      ∃ f, (q.run p deadline x).1 = .error f ∧
        (G (classify k.request.method k.after.canceled (remaining deadline k.after.now) e) f ∨
          IsStop f) := by
  induction q generalizing x n with
  | done | fail => cases hk
  | send r next ih =>
    rcases h : checkRun x.world.canceled (remaining deadline x.world.now) with e' | _
    · rw [exchanges_of_error _ h] at hk
      cases hk
    · rw [exchanges_of_ok h] at hk
      cases n with
      | succ n => exact ih _ (hq.2 _) (hbrittle.2 _) hk
      | zero =>
        -- This is the exchange that fails, and there is no time left after it.
        obtain rfl : x.exchange p deadline r = k := Option.some.inj hk
        unfold run
        rw [Session.call_of_failed h he]
        exact Settles.run_late (x := (x.exchange p deadline r).left) (hq.1 _) (hbrittle.2 _) late
  | report e' next ih => exact ih hq hbrittle hk

end Program

end ControlPlane
