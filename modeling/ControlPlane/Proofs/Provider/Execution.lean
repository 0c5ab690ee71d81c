import ControlPlane.Cloud.Answer

/-!
# Programs on a cloud

`Program.exec` runs a program against the resources of a cloud alone: no clock, no cancellation, no
record of calls. `Program.Returns` says that a program ends with a value there, and the `iff` lemmas
take such a statement apart along the program, one node at a time.

A run in a session does more than `exec`: it can be canceled or out of time at any request. Programs
that are `Orderly` end with the failure of a failed request, unless a look-up failed because nothing
was found; so a run of such a program that returns has had all its requests answered, and
`Program.Orderly.returns` finds the same value and the same resources by `exec`. The other way
around, a program that `Idles` on a cloud reads only, and `Program.Idles.run` runs it in any session
that is still live.
-/

namespace ControlPlane

namespace Program

variable {α β γ : Type}

/-! ## Sequencing -/

/-- Returning a value is being done with it. -/
@[simp]
theorem pure_eq (a : α) : (pure a : Program α) = done a := rfl

/-- What follows a value starts from the value. -/
@[simp]
theorem done_bind (a : α) (f : α → Program β) : (done a >>= f) = f a := rfl

/-- Nothing follows a failure. -/
@[simp]
theorem fail_bind (e : Failure) (f : α → Program β) : (fail e >>= f) = fail e := rfl

/-- What follows a program that sends a request follows each answer to it. -/
theorem send_bind (r : Request) (next : Except Failure r.Reply → Program α) (f : α → Program β) :
    (send r next >>= f) = send r fun answer => next answer >>= f := rfl

/-- What follows a program that reports an event follows the event. -/
theorem report_bind (e : Event) (next : Program α) (f : α → Program β) :
    (report e next >>= f) = report e (next >>= f) := rfl

/-- Applying a function to the value is one more step at the end. -/
theorem map_eq_bind (f : α → β) (p : Program α) : f <$> p = p >>= fun a => done (f a) := rfl

/-- Being done at the end adds nothing. -/
theorem bind_done (p : Program α) : (p >>= done) = p := by
  induction p with
  | done | fail => rfl
  | send r next ih => rw [send_bind]; exact congrArg (send r) (funext ih)
  | report e next ih => rw [report_bind]; exact congrArg (report e) ih

/-- It does not matter how programs in turn are bracketed. -/
theorem bind_assoc (p : Program α) (f : α → Program β) (g : β → Program γ) :
    (p >>= f >>= g) = p >>= fun a => f a >>= g := by
  induction p with
  | done | fail => rfl
  | send r next ih => simp only [send_bind]; exact congrArg (send r) (funext ih)
  | report e next ih => simp only [report_bind]; exact congrArg (report e) ih

instance : LawfulMonad Program :=
  LawfulMonad.mk' Program bind_done (fun _ _ => rfl) bind_assoc

/-! ## Execution -/

/-- The result of a program on a cloud, and the cloud that it leaves. -/
def exec : Program α → Cloud → Except Failure α × Cloud
  | done a, c => (.ok a, c)
  | fail e, c => (.error e, c)
  | send r next, c => (next (c.answer r).1).exec (c.answer r).2
  | report _ next, c => next.exec c

/-- On one cloud, a program ends with a value and leaves another cloud. -/
def Returns (p : Program α) (c : Cloud) (a : α) (c' : Cloud) : Prop := p.exec c = (.ok a, c')

/-- What a program returns on a cloud, and what it leaves, is determined. -/
theorem Returns.unique {p : Program α} {c c1 c2 : Cloud} {a b : α} (h : p.Returns c a c1)
    (h' : p.Returns c b c2) : a = b ∧ c1 = c2 := by
  obtain ⟨ha, hc⟩ := Prod.mk.inj (h.symm.trans h')
  exact ⟨Except.ok.inj ha, hc⟩

/-- Two programs in turn run on a cloud one after the other, unless the first fails. -/
theorem exec_bind (p : Program α) (f : α → Program β) (c : Cloud) :
    (p >>= f).exec c = match p.exec c with
      | (.ok a, c') => (f a).exec c'
      | (.error e, c') => (.error e, c') := by
  induction p generalizing c with
  | done | fail => rfl
  | send r next ih => exact ih _ _
  | report e next ih => exact ih c

/-- The handler of a program starts on the cloud that the failure leaves. -/
theorem exec_handle (p : Program α) (f : Failure → Program α) (c : Cloud) :
    (p.handle f).exec c = match p.exec c with
      | (.ok a, c') => (.ok a, c')
      | (.error e, c') => (f e).exec c' := by
  induction p generalizing c with
  | done | fail => rfl
  | send r next ih => exact ih _ _
  | report e next ih => exact ih c

/-- A value is returned at once, on the same cloud. -/
@[simp]
theorem returns_done {a b : α} {c c' : Cloud} :
    (done a).Returns c b c' ↔ b = a ∧ c' = c := by
  simp [Returns, exec, eq_comm]

/-- A failure does not return. -/
@[simp]
theorem returns_fail {e : Failure} {a : α} {c c' : Cloud} : ¬(fail e).Returns c a c' := by
  simp [Returns, exec]

/-- A check returns the value that it yields, on the same cloud. -/
@[simp]
theorem returns_ofExcept {r : Except Failure α} {a : α} {c c' : Cloud} :
    (ofExcept r).Returns c a c' ↔ r = .ok a ∧ c' = c := by
  cases r <;> simp [Returns, ofExcept, exec, eq_comm]

/-- Reporting an event returns on the same cloud. -/
@[simp]
theorem returns_emit {e : Event} {u : Unit} {c c' : Cloud} :
    (emit e).Returns c u c' ↔ c' = c := by
  simp [Returns, emit, exec, eq_comm]

/-- A request returns what the cloud answers. -/
@[simp]
theorem returns_request {r : Request} {a : r.Reply} {c c' : Cloud} :
    (request r).Returns c a c' ↔ c.answer r = (.ok a, c') := by
  unfold Returns request exec
  rcases c.answer r with ⟨_ | _, _⟩ <;> simp [ofExcept, exec]

/-- Two programs in turn return where both do. -/
@[simp]
theorem returns_bind {p : Program α} {f : α → Program β} {c c'' : Cloud} {b : β} :
    (p >>= f).Returns c b c'' ↔ ∃ a c', p.Returns c a c' ∧ (f a).Returns c' b c'' := by
  unfold Returns
  rw [exec_bind]
  rcases p.exec c with ⟨_ | a, c'⟩
  · simp
  · constructor
    · exact fun h => ⟨a, c', rfl, h⟩
    · rintro ⟨a', c1, h, h'⟩
      cases h
      exact h'

/-- Applying a function to the value returns the function of what is returned. -/
@[simp]
theorem returns_map {p : Program α} {f : α → β} {c c' : Cloud} {b : β} :
    (f <$> p).Returns c b c' ↔ ∃ a, p.Returns c a c' ∧ b = f a := by
  rw [map_eq_bind, returns_bind]
  simp only [returns_done]
  constructor
  · rintro ⟨a, _, h, rfl, rfl⟩
    exact ⟨a, h, rfl⟩
  · rintro ⟨a, h, rfl⟩
    exact ⟨a, c', h, rfl, rfl⟩

/-- Dropping the value returns where the program does. -/
@[simp]
theorem returns_discard {p : Program α} {c c' : Cloud} {u : Unit} :
    (discard p).Returns c u c' ↔ ∃ a, p.Returns c a c' := by
  show ((fun _ => ()) <$> p).Returns c u c' ↔ _
  rw [returns_map]
  exact exists_congr fun a => and_iff_left rfl

/-- A failure that says that nothing was found is taken for nothing, and others stay failures. -/
theorem exec_orNone (p : Program α) (c : Cloud) :
    p.orNone.exec c = match p.exec c with
      | (.ok a, c') => (.ok (some a), c')
      | (.error e, c') =>
        if e.isIgnored [.notFound] then (.ok none, c') else (.error e, c') := by
  unfold orNone
  rw [exec_handle, map_eq_bind, exec_bind]
  rcases p.exec c with ⟨e | a, c'⟩
  · dsimp only
    split <;> rfl
  · rfl

/-- Where something is found, it makes no difference that nothing might have been. -/
theorem returns_orNone_some {p : Program α} {c c' : Cloud} {a : α} :
    p.orNone.Returns c (some a) c' ↔ p.Returns c a c' := by
  unfold Returns
  rw [exec_orNone]
  rcases p.exec c with ⟨e | b, c1⟩
  · dsimp only
    split <;> exact iff_of_false nofun nofun
  · simp

end Program

/-! ## Look-ups -/

/-- A cloud answers every look-up, and is left as it was. -/
theorem Cloud.answer_lookup {r : Request} (hr : r.isMutation = false) (c : Cloud) :
    ∃ a, c.answer r = (.ok a, c) := by
  cases r <;> first
    | exact ⟨_, rfl⟩
    | cases hr

/-- A request that fails is no look-up. -/
theorem Cloud.isMutation_of_error {r : Request} {c c' : Cloud} {e : Failure}
    (h : c.answer r = (.error e, c')) : r.isMutation = true := by
  rw [← Bool.not_eq_false]
  intro hlookup
  obtain ⟨a, ha⟩ := Cloud.answer_lookup hlookup c
  rw [ha] at h
  cases h

namespace Program

/-- Whatever is answered, the program sends allowed requests only and reports no more than lines of
the log. A failed request ends it with the failure, unless a look-up found nothing. -/
def Orderly (allowed : Request → Prop) : Program α → Prop
  | done _ => True
  | fail _ => True
  | send r next =>
    allowed r ∧ (∀ e, r.isMutation = true ∨ e.isNotFound = false → next (.error e) = fail e) ∧
      ∀ answer, (next answer).Orderly allowed
  | report (.log _ _) next => next.Orderly allowed
  | report _ _ => False

/-- The program is orderly and sends look-ups only. -/
abbrev ReadOnly : Program α → Prop := Orderly fun r => r.isMutation = false

section Orderly

variable {allowed : Request → Prop}

/-- A check sends nothing. -/
@[simp]
theorem orderly_ofExcept (r : Except Failure α) : (ofExcept r).Orderly allowed := by
  cases r <;> trivial

/-- A single request is orderly if it is allowed. -/
theorem orderly_request {r : Request} (hr : allowed r) : (request r).Orderly allowed :=
  ⟨hr, fun _ _ => rfl, orderly_ofExcept⟩

/-- Two programs in turn are orderly if both are. -/
theorem Orderly.bind {p : Program α} {f : α → Program β} (hp : p.Orderly allowed)
    (hf : ∀ a, (f a).Orderly allowed) : (p >>= f).Orderly allowed := by
  induction p with
  | done a => exact hf a
  | fail e => trivial
  | send r next ih =>
    obtain ⟨hr, hfail, hnext⟩ := hp
    refine ⟨hr, fun e he => ?_, fun answer => ih answer (hnext answer)⟩
    -- A failure of the first program is handed on past the second.
    show (next (.error e)).bind f = fail e
    rw [hfail e he]
    rfl
  | report e next ih =>
    cases e with
    | log level line => exact ih hp
    | address | secondaryAddresses | condition => exact hp.elim

/-- An orderly program is orderly with a function of its value. -/
theorem Orderly.map {p : Program α} (f : α → β) (hp : p.Orderly allowed) :
    (f <$> p).Orderly allowed :=
  hp.bind fun _ => trivial

/-- An orderly program is orderly when its value is dropped. -/
theorem Orderly.discard {p : Program α} (hp : p.Orderly allowed) :
    (Functor.discard p).Orderly allowed :=
  hp.bind fun _ => trivial

/-- More requests may be allowed. -/
theorem Orderly.mono {allowed' : Request → Prop} {p : Program α} (hp : p.Orderly allowed)
    (h : ∀ r, allowed r → allowed' r) : p.Orderly allowed' := by
  induction p with
  | done | fail => trivial
  | send r next ih => exact ⟨h r hp.1, hp.2.1, fun answer => ih answer (hp.2.2 answer)⟩
  | report e next ih =>
    cases e with
    | log level line => exact ih hp
    | address | secondaryAddresses | condition => exact hp.elim

/-- What every allowed request that succeeds may do to a cloud, a run that returns may do. -/
theorem Orderly.changes {R : Cloud → Cloud → Prop} {p : Program α} {c c' : Cloud} {a : α}
    (hp : p.Orderly allowed) (h : p.Returns c a c') (refl : ∀ c, R c c)
    (trans : ∀ c c' c'', R c c' → R c' c'' → R c c'')
    (step : ∀ (r : Request) (c : Cloud) (v : r.Reply) (c' : Cloud), allowed r →
      c.answer r = (.ok v, c') → R c c') : R c c' := by
  induction p generalizing c with
  | done b => rw [(returns_done.1 h).2]; exact refl c
  | fail e => exact (returns_fail h).elim
  | send r next ih =>
    obtain ⟨hr, hfail, hnext⟩ := hp
    have h' : (next (c.answer r).1).Returns (c.answer r).2 a c' := h
    rcases hv : c.answer r with ⟨e | v, c1⟩
    -- A failed request, which is no look-up, has ended the program.
    · have hend : next (.error e) = fail e := hfail e (.inl (Cloud.isMutation_of_error hv))
      rw [hv] at h'
      dsimp only at h'
      rw [hend] at h'
      exact (returns_fail h').elim
    · rw [hv] at h'
      exact trans _ _ _ (step r c v c1 hr hv) (ih _ (hnext _) h')
  | report e next ih =>
    cases e with
    | log level line => exact ih hp h
    | address | secondaryAddresses | condition => exact hp.elim

end Orderly

/-- A single look-up only looks up. -/
theorem readOnly_request {r : Request} (hr : r.isMutation = false) : (request r).ReadOnly :=
  orderly_request hr

/-- A program that only reads leaves a cloud as it was. -/
theorem ReadOnly.returns_eq {p : Program α} {c c' : Cloud} {a : α} (hp : p.ReadOnly)
    (h : p.Returns c a c') : c' = c := by
  refine hp.changes (R := fun c c' => c' = c) h (fun _ => rfl) (fun _ _ _ h h' => h'.trans h) ?_
  intro r c v c' hr hv
  obtain ⟨w, hw⟩ := Cloud.answer_lookup hr c
  rw [hw] at hv
  cases hv
  rfl

/-- Look-ups may be handled, if failures are passed on unless something was not found. -/
theorem Orderly.handle {p : Program α} {f : Failure → Program α}
    (hp : p.Orderly fun r => r.isMutation = false ∧ allowed r)
    (hf : ∀ e, e.isNotFound = false → f e = fail e) (hfs : ∀ e, (f e).Orderly allowed) :
    (p.handle f).Orderly allowed := by
  induction p with
  | done a => trivial
  | fail e => exact hfs e
  | send r next ih =>
    obtain ⟨hr, hfail, hnext⟩ := hp
    refine ⟨hr.2, fun e he => ?_, fun answer => ih answer (hnext answer)⟩
    -- A look-up changes nothing, so that the failure is one that is passed on.
    have he' : e.isNotFound = false := by
      rcases he with he | he
      · rw [hr.1] at he
        cases he
      · exact he
    show (next (.error e)).handle f = fail e
    rw [hfail e (.inr he')]
    exact hf e he'
  | report e next ih =>
    cases e with
    | log level line => exact ih hp
    | address | secondaryAddresses | condition => exact hp.elim

/-- A look-up may be given a handler that looks up where nothing was found, and passes on other
failures. -/
theorem ReadOnly.handle {p : Program α} {f : Failure → Program α} (hp : p.ReadOnly)
    (hf : ∀ e, e.isNotFound = false → f e = fail e) (hfs : ∀ e, (f e).ReadOnly) :
    (p.handle f).ReadOnly :=
  Orderly.handle (hp.mono fun _ hr => ⟨hr, hr⟩) hf hfs

/-- Only what was not found is ever ignored. -/
theorem isIgnored_notFound {e : Failure} (h : e.isNotFound = false) :
    e.isIgnored [.notFound] = false := by
  have h' : e.has .notFound = false := h
  simp [Failure.isIgnored, h']

/-- A look-up may find nothing. -/
theorem ReadOnly.orNone {p : Program α} (hp : p.ReadOnly) : p.orNone.ReadOnly := by
  refine ReadOnly.handle (hp.map some) (fun e he => ?_) fun e => ?_
  · rw [isIgnored_notFound he]
    rfl
  · split <;> trivial

/-- On a cloud, the program ends with a value, having sent look-ups only and reported no more than
lines of the log. -/
def Idles : Program α → Cloud → α → Prop
  | done b, _, a => b = a
  | fail _, _, _ => False
  | send r next, c, a => r.isMutation = false ∧ (next (c.answer r).1).Idles c a
  | report (.log _ _) next, c, a => next.Idles c a
  | report _ _, _, _ => False

/-- A value idles. -/
theorem idles_done (a : α) (c : Cloud) : (done a).Idles c a := rfl

/-- A check that passes idles. -/
theorem idles_ofExcept {r : Except Failure α} {a : α} (h : r = .ok a) (c : Cloud) :
    (ofExcept r).Idles c a := by
  rw [h]
  exact idles_done a c

/-- A program that idles returns, and leaves the cloud as it was. -/
theorem Idles.returns {p : Program α} {c : Cloud} {a : α} (hp : p.Idles c a) :
    p.Returns c a c := by
  induction p with
  | done b => exact returns_done.2 ⟨hp.symm, rfl⟩
  | fail e => exact hp.elim
  | send r next ih =>
    -- The request is a look-up, which is always answered.
    obtain ⟨v, hv⟩ := Cloud.answer_lookup hp.1 c
    have hnext := ih _ hp.2
    unfold Returns exec
    rw [hv] at hnext ⊢
    exact hnext
  | report e next ih =>
    cases e with
    | log level line => exact ih hp
    | address | secondaryAddresses | condition => exact hp.elim

/-- Two programs in turn idle if both do. -/
theorem Idles.bind {p : Program α} {f : α → Program β} {c : Cloud} {a : α} {b : β}
    (hp : p.Idles c a) (hf : (f a).Idles c b) : (p >>= f).Idles c b := by
  induction p with
  | done a' => cases hp; exact hf
  | fail e => exact hp.elim
  | send r next ih => exact ⟨hp.1, ih _ hp.2⟩
  | report e next ih =>
    cases e with
    | log level line => exact ih hp
    | address | secondaryAddresses | condition => exact hp.elim

/-- A program that only reads idles on every cloud on which it returns. -/
theorem ReadOnly.idles {p : Program α} {c : Cloud} {a : α} (hp : p.ReadOnly)
    (h : p.Returns c a c) : p.Idles c a := by
  induction p with
  | done b => exact (returns_done.1 h).1.symm
  | fail e => exact (returns_fail h).elim
  | send r next ih =>
    obtain ⟨hr, _, hnext⟩ := hp
    obtain ⟨v, hv⟩ := Cloud.answer_lookup hr c
    have h' : (next (c.answer r).1).Returns (c.answer r).2 a c := h
    rw [hv] at h'
    refine ⟨hr, ?_⟩
    rw [hv]
    exact ih _ (hnext _) h'
  | report e next ih =>
    cases e with
    | log level line => exact ih hp h
    | address | secondaryAddresses | condition => exact hp.elim

/-! ## Sessions -/

/-- An interruption does not come from a look-up that found nothing. -/
theorem checkRun_error {canceled : Bool} {left : Option Seconds} {e : Failure}
    (h : checkRun canceled left = .error e) : e.isNotFound = false := by
  unfold checkRun raise at h
  split at h
  · cases h; decide
  · split at h
    · split at h
      · cases h
      · cases h; decide
    · cases h

end Program

/-- The run is neither canceled nor out of time. -/
def Session.Live (deadline : Option Seconds) (x : Session Cloud) : Prop :=
  checkRun x.world.canceled (remaining deadline x.world.now) = .ok ()

/-- A call that the checks refuse fails, and leaves the session as it is. -/
theorem Session.call_of_error {σ : Type} {p : Provider σ} {deadline : Option Seconds}
    {x : Session σ} {r : Request} {e : Failure}
    (h : checkRun x.world.canceled (remaining deadline x.world.now) = .error e) :
    x.call p deadline r = (.error e, x) := by
  simp only [Session.call, h]

/-- In a live session the cloud's answer is the call's, but that a failure is classified. -/
theorem Session.call_of_live {deadline : Option Seconds} {x : Session Cloud} {r : Request}
    (live : x.Live deadline) :
    x.call Cloud.provider deadline r =
      ((match (x.world.store.answer r).1 with
        | .ok a => .ok a
        | .error e => .error
          (classify r.method x.world.canceled (remaining deadline x.world.now) e)),
      { x with
        world := { x.world with store := (x.world.store.answer r).2 }
        calls := x.calls ++ [⟨r, remaining deadline x.world.now⟩] }) := by
  have hlive : checkRun x.world.canceled (remaining deadline x.world.now) = .ok () := live
  simp only [Session.call, Cloud.provider, hlive]
  rcases (x.world.store.answer r).1 with e | a <;> rfl

namespace Program

/-- Two programs in turn run one after the other, with any provider, unless the first fails. -/
theorem run_bind {σ : Type} (provider : Provider σ) (deadline : Option Seconds) (p : Program α)
    (f : α → Program β) (x : Session σ) :
    (p >>= f).run provider deadline x = match p.run provider deadline x with
      | (.ok a, x') => (f a).run provider deadline x'
      | (.error e, x') => (.error e, x') := by
  induction p generalizing x with
  | done | fail => rfl
  | send r next ih => exact ih _ _
  | report e next ih => exact ih _

/-- If a run of an orderly program in a session with a cloud returns, the program returns the same
value by itself, and the same resources are left. -/
theorem Orderly.returns {allowed : Request → Prop} {p : Program α} (hp : p.Orderly allowed)
    {deadline : Option Seconds} {x x' : Session Cloud} {a : α}
    (h : p.run Cloud.provider deadline x = (.ok a, x')) :
    p.Returns x.world.store a x'.world.store := by
  induction p generalizing x with
  | done b => cases h; exact rfl
  | fail e => cases h
  | send r next ih =>
    unfold run at h
    obtain ⟨_, hfail, hnext⟩ := hp
    rcases hc : checkRun x.world.canceled (remaining deadline x.world.now) with e | _
    -- The run is canceled or out of time, and that ends the program.
    · have hend : next (.error e) = fail e := hfail e (.inr (checkRun_error hc))
      rw [Session.call_of_error hc] at h
      dsimp only at h
      rw [hend] at h
      cases h
    · rw [Session.call_of_live hc] at h
      rcases ha : x.world.store.answer r with ⟨e | v, c⟩
      -- A failed request is no look-up, so that its failure ends the program.
      · rw [ha] at h
        dsimp only at h
        rw [hfail _ (.inl (Cloud.isMutation_of_error ha))] at h
        cases h
      · rw [ha] at h
        have hv := ih (.ok v) (hnext _) h
        unfold Returns Program.exec
        rw [ha]
        exact hv
  | report e next ih =>
    cases e with
    | log level line => exact ih (x := x.note (.log level line)) hp h
    | address | secondaryAddresses | condition => exact hp.elim

/-- A program that idles on a session's cloud returns there if the session is live. The session then
differs in its record of calls, all of them look-ups, and in its log. -/
theorem Idles.run {p : Program α} {deadline : Option Seconds} {x : Session Cloud} {a : α}
    (hp : p.Idles x.world.store a) (live : x.Live deadline) :
    ∃ calls log, p.run Cloud.provider deadline x =
        (.ok a, { x with calls := x.calls ++ calls, log := x.log ++ log }) ∧
      ∀ k ∈ calls, k.request.isMutation = false := by
  induction p generalizing x with
  | done b => cases hp; exact ⟨[], [], by simp [Program.run], by simp⟩
  | fail e => exact hp.elim
  | send r next ih =>
    obtain ⟨hr, hn⟩ := hp
    obtain ⟨v, hv⟩ := Cloud.answer_lookup hr x.world.store
    rw [hv] at hn
    -- The world is as it was, so that the rest runs in a session that is live as well.
    let k : Call := ⟨r, remaining deadline x.world.now⟩
    obtain ⟨calls, log, h, hcalls⟩ := ih _ (x := { x with calls := x.calls ++ [k] }) hn live
    refine ⟨k :: calls, log, ?_, ?_⟩
    · unfold Program.run
      rw [Session.call_of_live live, hv]
      dsimp only at h ⊢
      rw [h]
      simp [k]
    · rintro k' (_ | ⟨_, hk⟩)
      · exact hr
      · exact hcalls k' hk
  | report e next ih =>
    cases e with
    | log level line =>
      obtain ⟨calls, log, h, hcalls⟩ :=
        ih (x := { x with log := x.log ++ [(level, line)] }) hp live
      refine ⟨calls, (level, line) :: log, ?_, hcalls⟩
      unfold Program.run
      simp only [Session.note, h]
      simp
    | address | secondaryAddresses | condition => exact hp.elim

end Program

end ControlPlane
