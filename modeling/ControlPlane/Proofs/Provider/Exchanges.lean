import ControlPlane.Proofs.Number.Differences
import ControlPlane.Proofs.Provider.Trials

/-!
# What passes between a run and its provider

A session records the requests of a run. `Program.exchanges` records more about each of them: the
session that it was sent in, what the provider answered, and the world that it left behind.
`run_calls` says that nothing else reaches the provider.

Three things hold of this record whatever the provider does. A request is sent only while the run is
neither canceled nor out of time, with what time is left (`exchanges_timely`). If a failure that is
no finding comes back to a brittle program, that is the last exchange, and the failure of the run
(`Brittle.ends_at_failure`). And a deadline does nothing but end the record early
(`exchanges_prefix`). At the end stands what else holds of runs whatever the provider does: an
orderly program publishes nothing, and if a run returns, so have its parts.
-/

namespace ControlPlane

/-! ## The time left -/

/-- A run that may go on is not canceled, and what time it has left is more than none. -/
theorem checkRun_eq_ok {canceled : Bool} {left : Option Seconds} :
    checkRun canceled left = .ok () ↔ canceled = false ∧ ∀ t, left = some t → 0 < t := by
  unfold checkRun raise
  cases canceled with
  | true => simp
  | false =>
    cases left with
    | none => simp
    | some t => by_cases ht : 0 < t <;> simp [ht]

/-- A run without time left may not go on. -/
theorem checkRun_zero (canceled : Bool) : ∃ e, checkRun canceled (some 0) = .error e := by
  cases canceled with
  | true => exact ⟨_, rfl⟩
  | false =>
    unfold checkRun raise
    simp [Binary64.not_zero_lt_zero]

/-- What time is left, if any is left, is the difference to the deadline. -/
theorem remaining_of_pos {d now t : Seconds} (h : remaining (some d) now = some t) (ht : 0 < t) :
    t = d - now ∧ now < d := by
  have hclamp : (d - now).clampBelow = t := Option.some.inj h
  unfold Binary64.clampBelow at hclamp
  split at hclamp
  · next hpos => exact ⟨hclamp.symm, Binary64.sub_pos_iff.1 hpos⟩
  · rw [← hclamp] at ht
    exact absurd ht Binary64.not_zero_lt_zero

/-- No time is left once the deadline is not to come any more. -/
theorem remaining_eq_zero {deadline : Option Seconds} {now : Seconds} :
    remaining deadline now = some 0 ↔ ∃ d, deadline = some d ∧ ¬now < d := by
  cases deadline with
  | none => exact iff_of_false nofun (fun ⟨_, h, _⟩ => nomatch h)
  | some d =>
    -- A difference that is not positive counts as zero.
    have hclamp : (d - now).clampBelow = 0 ↔ ¬now < d := by
      unfold Binary64.clampBelow
      split
      · next hpos =>
        refine iff_of_false (fun h => ?_) (not_not_intro (Binary64.sub_pos_iff.1 hpos))
        rw [h] at hpos
        exact Binary64.not_zero_lt_zero hpos
      · next hpos => exact iff_of_true rfl (mt Binary64.sub_pos_iff.2 hpos)
    constructor
    · exact fun h => ⟨d, rfl, hclamp.1 (Option.some.inj h)⟩
    · rintro ⟨d', hd, hlate⟩
      cases hd
      exact congrArg some (hclamp.2 hlate)

/-! ## The record of a run -/

/-- A request that reached the provider: the session that it was sent in, the time left for it, the
answer, and the world after it. -/
structure Exchange (σ : Type) where
  before : Session σ
  request : Request
  timeout : Option Seconds
  answer : Except Failure request.Reply
  after : World σ

namespace Exchange

variable {σ : Type}

/-- The call that a session records of an exchange. -/
def call (k : Exchange σ) : Call := ⟨k.request, k.timeout⟩

/-- The session once the answer is there. -/
def left (k : Exchange σ) : Session σ :=
  { k.before with world := k.after, calls := k.before.calls ++ [k.call] }

/-- What a run gets to see of an exchange. -/
def seen (k : Exchange σ) : (r : Request) × Except Failure r.Reply × Bool :=
  ⟨k.request, k.answer, k.after.canceled⟩

end Exchange

variable {σ τ : Type} {α : Type}

/-- The exchange of a request that is sent in a session. -/
def Session.exchange (p : Provider σ) (deadline : Option Seconds) (r : Request) (x : Session σ) :
    Exchange σ where
  before := x
  request := r
  timeout := remaining deadline x.world.now
  answer := (p.answer r (remaining deadline x.world.now) x.world).1
  after := (p.answer r (remaining deadline x.world.now) x.world).2

/-- A call that reaches the provider comes to its answer, but that a failure is classified. -/
theorem Session.call_of_ok {p : Provider σ} {deadline : Option Seconds} {x : Session σ}
    {r : Request} (h : checkRun x.world.canceled (remaining deadline x.world.now) = .ok ()) :
    x.call p deadline r =
      let (answer, w) := p.answer r (remaining deadline x.world.now) x.world
      (answer.mapError (classify r.method w.canceled (remaining deadline w.now)),
        (x.exchange p deadline r).left) := by
  rcases ha : p.answer r (remaining deadline x.world.now) x.world with ⟨_ | _, w⟩ <;>
    simp only [Session.call, Session.exchange, Exchange.left, Exchange.call, h, ha] <;> rfl

/-- A call that fails at the provider comes to the failure, classified. -/
theorem Session.call_of_failed {p : Provider σ} {deadline : Option Seconds} {x : Session σ}
    {r : Request} {e : Failure}
    (h : checkRun x.world.canceled (remaining deadline x.world.now) = .ok ())
    (he : (x.exchange p deadline r).answer = .error e) :
    x.call p deadline r =
      (.error (classify r.method (x.exchange p deadline r).after.canceled
        (remaining deadline (x.exchange p deadline r).after.now) e),
        (x.exchange p deadline r).left) := by
  have hfailed : (p.answer r (remaining deadline x.world.now) x.world).1 = .error e := he
  simp only [Session.call_of_ok h, hfailed, Except.mapError]
  rfl

/-- As long as some time is left, it does not matter how much. -/
theorem classify_of_left {left : Option Seconds} (h : left ≠ some 0) (method : String)
    (canceled : Bool) (e : Failure) :
    classify method canceled left e = classify method canceled none e := by
  simp [classify, h]

namespace Program

/-- The exchanges of a run, in order. -/
def exchanges (p : Provider σ) (deadline : Option Seconds) :
    Program α → Session σ → List (Exchange σ)
  | done _, _ => []
  | fail _, _ => []
  | send r next, x =>
    let rest := (next (x.call p deadline r).1).exchanges p deadline (x.call p deadline r).2
    match checkRun x.world.canceled (remaining deadline x.world.now) with
    | .error _ => rest
    | .ok () => x.exchange p deadline r :: rest
  | report e next, x => next.exchanges p deadline (x.note e)

section

variable {p : Provider σ} {deadline : Option Seconds} {x : Session σ} {r : Request}

/-- A request that the checks let through is the first exchange, and the rest goes on from its
answer. -/
theorem exchanges_of_ok {next : Except Failure r.Reply → Program α}
    (h : checkRun x.world.canceled (remaining deadline x.world.now) = .ok ()) :
    (send r next).exchanges p deadline x = x.exchange p deadline r ::
      (next (x.call p deadline r).1).exchanges p deadline (x.call p deadline r).2 := by
  simp only [exchanges, h]

/-- A run that is canceled or out of time sends nothing any more. -/
theorem exchanges_of_error {e : Failure} (q : Program α)
    (h : checkRun x.world.canceled (remaining deadline x.world.now) = .error e) :
    q.exchanges p deadline x = [] := by
  induction q generalizing x with
  | done | fail => rfl
  | send r next ih =>
    simp only [exchanges, h, Session.call_of_error h]
    exact ih _ h
  | report e next ih =>
    refine ih (x := x.note e) ?_
    rwa [x.note_world]

end

/-- The calls that a session records are those of the exchanges. -/
theorem run_calls (p : Provider σ) (deadline : Option Seconds) (q : Program α) (x : Session σ) :
    (q.run p deadline x).2.calls =
      x.calls ++ (q.exchanges p deadline x).map Exchange.call := by
  induction q generalizing x with
  | done | fail => exact (List.append_nil _).symm
  | send r next ih =>
    have hrun := ih (x.call p deadline r).1 (x.call p deadline r).2
    rcases h : checkRun x.world.canceled (remaining deadline x.world.now) with e | _
    · rw [Session.call_of_error h] at hrun
      simp only [run, exchanges, h, Session.call_of_error h]
      exact hrun
    · rw [exchanges_of_ok h, List.map_cons]
      refine hrun.trans ?_
      rw [Session.call_of_ok h]
      exact List.append_assoc ..
  | report e next ih =>
    have hcalls : (x.note e).calls = x.calls := by cases e <;> rfl
    rw [← hcalls]
    exact ih (x.note e)

/-- A request is exchanged if the run may go on, and then comes what follows its answer. -/
theorem exchanges_send (p : Provider σ) (deadline : Option Seconds) {r : Request}
    (next : Except Failure r.Reply → Program α) (x : Session σ) :
    (send r next).exchanges p deadline x =
      (match checkRun x.world.canceled (remaining deadline x.world.now) with
        | .error _ => []
        | .ok () => [x.exchange p deadline r]) ++
      (next (x.call p deadline r).1).exchanges p deadline (x.call p deadline r).2 := by
  rcases h : checkRun x.world.canceled (remaining deadline x.world.now) with e | _
  · simp only [exchanges, h, List.nil_append]
  · exact exchanges_of_ok h

/-- What two programs exchange that run one after the other. -/
theorem exchanges_bind {β : Type} (p : Provider σ) (deadline : Option Seconds) (q : Program α)
    (f : α → Program β) (x : Session σ) :
    (q >>= f).exchanges p deadline x = q.exchanges p deadline x ++
      match q.run p deadline x with
      | (.ok a, x') => (f a).exchanges p deadline x'
      | (.error _, _) => [] := by
  induction q generalizing x with
  | done | fail => rfl
  | send r next ih =>
    rw [send_bind, exchanges_send, exchanges_send, ih, List.append_assoc]
    rfl
  | report e next ih => exact ih (x.note e)

/-- An attempt exchanges what the program does. -/
theorem exchanges_attempt (p : Provider σ) (deadline : Option Seconds) (q : Program α)
    (x : Session σ) : q.attempt.exchanges p deadline x = q.exchanges p deadline x := by
  induction q generalizing x with
  | done | fail => rfl
  | send r next ih =>
    show (send r fun answer => (next answer).attempt).exchanges p deadline x = _
    rw [exchanges_send, exchanges_send, ih]
  | report e next ih => exact ih (x.note e)

/-- A program that idles exchanges look-ups only, also if it is interrupted. -/
theorem Idles.exchanges {q : Program α} {deadline : Option Seconds} {x : Session Cloud} {a : α}
    (h : q.Idles x.world.store a) :
    ∀ k ∈ q.exchanges Cloud.provider deadline x, k.request.isMutation = false := by
  rcases hrun : checkRun x.world.canceled (remaining deadline x.world.now) with e | _
  · rw [exchanges_of_error _ hrun]
    exact List.forall_mem_nil _
  · obtain ⟨calls, log, hreturns, hcalls⟩ := h.run hrun
    have hrecord := run_calls Cloud.provider deadline q x
    rw [hreturns] at hrecord
    have hsame : calls = (q.exchanges Cloud.provider deadline x).map Exchange.call :=
      List.append_cancel_left hrecord
    intro k hk
    exact hcalls k.call (hsame ▸ List.mem_map_of_mem hk)

/-! ## No exchange comes too late -/

/-- Every exchange takes place in a run that is not canceled and before the deadline, and the
provider is told the time that is left. -/
theorem exchanges_timely (p : Provider σ) (deadline : Option Seconds) (q : Program α)
    (x : Session σ) : ∀ k ∈ q.exchanges p deadline x,
      k.before.world.canceled = false ∧
      k.timeout = deadline.map (· - k.before.world.now) ∧
      ∀ d, deadline = some d → k.before.world.now < d := by
  induction q generalizing x with
  | done | fail => exact List.forall_mem_nil _
  | send r next ih =>
    rcases h : checkRun x.world.canceled (remaining deadline x.world.now) with e | _
    · rw [exchanges_of_error _ h]
      exact List.forall_mem_nil _
    · rw [exchanges_of_ok h]
      refine List.forall_mem_cons.2 ⟨?_, ih _ _⟩
      -- The request is sent only because the check before it passed, with the same clock.
      obtain ⟨hcanceled, hleft⟩ := checkRun_eq_ok.1 h
      cases deadline with
      | none => exact ⟨hcanceled, rfl, nofun⟩
      | some d =>
        obtain ⟨heq, hlt⟩ := remaining_of_pos rfl (hleft _ rfl)
        refine ⟨hcanceled, congrArg some heq, fun d' hd => ?_⟩
        cases hd
        exact hlt
  | report e next ih => exact ih (x.note e)

/-! ## A failure is the end -/

/-- If a request of a brittle program fails, and it was a change or something other than a missing
thing makes it fail, nothing is sent or reported after it, and the failure is that of the run. -/
theorem Brittle.ends_at {q : Program α} (hq : q.Brittle) {p : Provider σ} {deadline : Option Seconds}
    {x : Session σ} {n : Nat} {k : Exchange σ} {e : Failure}
    (hk : (q.exchanges p deadline x)[n]? = some k) (he : k.answer = .error e)
    (hends : k.request.isMutation = true ∨ e.isNotFound = false) :
    (q.exchanges p deadline x).length = n + 1 ∧
      q.run p deadline x = (.error (classify k.request.method k.after.canceled
        (remaining deadline k.after.now) e), k.left) := by
  induction q generalizing x n with
  | done | fail => cases hk
  | send r next ih =>
    obtain ⟨hfail, hnext⟩ := hq
    rcases h : checkRun x.world.canceled (remaining deadline x.world.now) with e' | _
    · rw [exchanges_of_error _ h] at hk
      cases hk
    · rw [exchanges_of_ok h] at hk ⊢
      cases n with
      | succ n =>
        obtain ⟨hlength, hrun⟩ := ih _ (hnext _) hk
        exact ⟨congrArg (· + 1) hlength, hrun⟩
      | zero =>
        -- This is the exchange that fails, and nothing is sent after it.
        obtain rfl : x.exchange p deadline r = k := Option.some.inj hk
        have hend : ∀ method canceled left, next (.error (classify method canceled left e)) =
            fail (classify method canceled left e) := fun _ _ _ =>
          hfail _ (hends.imp_right (isNotFound_classify ..).trans)
        unfold run
        rw [Session.call_of_failed h he]
        dsimp only
        rw [hend]
        exact ⟨rfl, rfl⟩
  | report e' next ih => exact ih hq hk

/-- If something other than a missing thing makes a request of a brittle program fail, nothing is
sent or reported after it, and the failure is that of the run. -/
theorem Brittle.ends_at_failure {q : Program α} (hq : q.Brittle) {p : Provider σ}
    {deadline : Option Seconds} {x : Session σ} {n : Nat} {k : Exchange σ} {e : Failure}
    (hk : (q.exchanges p deadline x)[n]? = some k) (he : k.answer = .error e)
    (hfound : e.isNotFound = false) :
    (q.exchanges p deadline x).length = n + 1 ∧
      q.run p deadline x = (.error (classify k.request.method k.after.canceled
        (remaining deadline k.after.now) e), k.left) :=
  hq.ends_at hk he (.inr hfound)

/-! ## A deadline only ends the record early -/

section

variable {p : Provider σ} {p' : Provider τ} {deadline : Option Seconds} {x : Session σ} {y : Session τ}
  {r : Request}

/-- If a run and one without a deadline see the same in one exchange, it means the same to both, or
the first is out of time. -/
theorem call_of_seen (h : checkRun x.world.canceled (remaining deadline x.world.now) = .ok ())
    (h' : checkRun y.world.canceled (remaining none y.world.now) = .ok ())
    (hseen : (x.exchange p deadline r).seen = (y.exchange p' none r).seen) :
    ((x.call p deadline r).1 = (y.call p' none r).1 ∧
        (x.call p deadline r).2.world.canceled = (y.call p' none r).2.world.canceled) ∨
      ∃ e, checkRun (x.call p deadline r).2.world.canceled
        (remaining deadline (x.call p deadline r).2.world.now) = .error e := by
  obtain ⟨hanswer, hcanceled⟩ := Prod.mk.inj (eq_of_heq (Sigma.mk.inj hseen).2)
  rw [Session.call_of_ok h, Session.call_of_ok h']
  by_cases hleft : remaining deadline (x.exchange p deadline r).after.now = some 0
  · -- The time ran out while the answer came, and the next check finds it so.
    refine .inr ?_
    show ∃ e, checkRun _ (remaining deadline (x.exchange p deadline r).after.now) = .error e
    rw [hleft]
    exact checkRun_zero _
  · -- With time left, a failure is classified as it would be without a deadline.
    refine .inl ⟨?_, hcanceled⟩
    show Except.mapError _ (x.exchange p deadline r).answer =
      Except.mapError _ (y.exchange p' none r).answer
    rw [← hanswer]
    refine congrArg (Except.mapError · _) (funext fun e => ?_)
    exact (classify_of_left hleft ..).trans (congrArg (classify _ · _ _) hcanceled)

end

/-- Up to a number of exchanges, what answers come to the same requests is the same. -/
def Agree (n : Nat) (ks : List (Exchange σ)) (ls : List (Exchange τ)) : Prop :=
  ∀ i < n, ∀ k l, ks[i]? = some k → ls[i]? = some l → k.request = l.request → k.seen = l.seen

/-- As long as a run and one without a deadline get the same answers, and are canceled at the same
requests, the requests of the first are the first requests of the second. -/
theorem exchanges_prefix (p : Provider σ) (p' : Provider τ) (deadline : Option Seconds) (q : Program α)
    (x : Session σ) (y : Session τ) (n : Nat) (hcanceled : x.world.canceled = y.world.canceled)
    (hagree : Agree n (q.exchanges p deadline x) (q.exchanges p' none y)) :
    ((q.exchanges p deadline x).take (n + 1)).map Exchange.request <+:
      (q.exchanges p' none y).map Exchange.request := by
  induction q generalizing x y n with
  | done | fail => exact List.nil_prefix
  | send r next ih =>
    rcases h : checkRun x.world.canceled (remaining deadline x.world.now) with e | _
    · rw [exchanges_of_error _ h]
      exact List.nil_prefix
    · -- The other run has no deadline, and is not canceled as this one is not.
      have h' : checkRun y.world.canceled (remaining none y.world.now) = .ok () :=
        checkRun_eq_ok.2 ⟨hcanceled ▸ (checkRun_eq_ok.1 h).1, nofun⟩
      rw [exchanges_of_ok h, exchanges_of_ok h'] at hagree ⊢
      rw [List.take_succ_cons, List.map_cons, List.map_cons]
      refine (List.prefix_cons_inj _).2 ?_
      cases n with
      | zero => exact List.nil_prefix
      | succ n =>
        have hrest : Agree n _ _ := fun i hi k l hk hl =>
          hagree (i + 1) (Nat.succ_lt_succ hi) k l hk hl
        -- Either both runs see the same answer, or this one has no time left and sends nothing
        -- more.
        rcases call_of_seen h h' (hagree 0 n.succ_pos _ _ rfl rfl rfl) with
          ⟨hresult, hcanceled'⟩ | ⟨e, he⟩
        · rw [hresult] at hrest ⊢
          exact ih _ _ _ n hcanceled' hrest
        · rw [exchanges_of_error _ he]
          exact List.nil_prefix
  | report e next ih =>
    exact ih (x.note e) (y.note e) n (by rwa [x.note_world, y.note_world]) hagree

/-- Providers that take no notice of how much time is left give such answers. -/
theorem exchanges_agree {p : Provider σ} (hp : ∀ r left w, p.answer r left w = p.answer r none w)
    (deadline : Option Seconds) (q : Program α) (x y : Session σ) (hworld : x.world = y.world)
    (n : Nat) :
    Agree n (q.exchanges p deadline x) (q.exchanges p none y) := by
  induction q generalizing x y n with
  | done | fail => exact fun _ _ _ _ hk => nomatch hk
  | send r next ih =>
    rcases h : checkRun x.world.canceled (remaining deadline x.world.now) with e | _
    · rw [exchanges_of_error _ h]
      exact fun _ _ _ _ hk => nomatch hk
    · have h' : checkRun y.world.canceled (remaining none y.world.now) = .ok () :=
        checkRun_eq_ok.2 ⟨hworld ▸ (checkRun_eq_ok.1 h).1, nofun⟩
      -- The provider does not look at the time that is left.
      have hafter : p.answer r (remaining deadline x.world.now) x.world =
          p.answer r (remaining none y.world.now) y.world := by
        rw [hp, hworld]
        rfl
      have hseen : (x.exchange p deadline r).seen = (y.exchange p none r).seen := by
        unfold Session.exchange Exchange.seen
        dsimp only
        rw [hafter]
      rw [exchanges_of_ok h, exchanges_of_ok h']
      -- The first exchanges are the same; the rest agrees if the first call came to the same, and
      -- is empty on one side otherwise.
      rintro (_ | i) hi k l hk hl
      · cases hk
        cases hl
        exact fun _ => hseen
      · rcases call_of_seen h h' hseen with ⟨hresult, -⟩ | ⟨e, he⟩
        · rw [hresult] at hk
          refine ih _ _ _ ?_ n i (Nat.lt_of_succ_lt hi) k l hk hl
          rw [Session.call_of_ok h, Session.call_of_ok h']
          exact congrArg Prod.snd hafter
        · rw [List.getElem?_cons_succ, exchanges_of_error _ he] at hk
          cases hk
  | report e next ih =>
    exact ih (x.note e) (y.note e) (by rw [x.note_world, y.note_world, hworld]) n

/-! ## What a run publishes and returns -/

section

variable {β : Type} {allowed : Request → Prop} {p : Provider σ} {deadline : Option Seconds}
  {x y : Session σ}

/-- Sending a request leaves the status as it is. -/
theorem call_status (r : Request) : (x.call p deadline r).2.status = x.status := by
  rcases h : checkRun x.world.canceled (remaining deadline x.world.now) with e | _
  · rw [Session.call_of_error h]
  · rw [Session.call_of_ok h]
    rfl

/-- An orderly program publishes nothing. -/
theorem Orderly.run_status {q : Program α} (hq : q.Orderly allowed) :
    (q.run p deadline x).2.status = x.status := by
  induction q generalizing x with
  | done | fail => rfl
  | send r next ih => exact (ih _ (hq.2.2 _)).trans (call_status r)
  | report e next ih =>
    cases e with
    | log level line => exact ih (x := x.note (.log level line)) hq
    | address | secondaryAddresses | condition => exact hq.elim

/-- If a run returns that consists of two, both of them return. -/
theorem run_bind_eq_ok {q : Program α} {f : α → Program β} {b : β}
    (h : (q >>= f).run p deadline x = (.ok b, y)) :
    ∃ a x', q.run p deadline x = (.ok a, x') ∧ (f a).run p deadline x' = (.ok b, y) := by
  rw [run_bind] at h
  rcases hq : q.run p deadline x with ⟨e | a, x'⟩
  · rw [hq] at h
    cases h
  · rw [hq] at h
    exact ⟨a, x', rfl, h⟩

/-- A check that a run passes holds. -/
theorem run_ofExcept_eq_ok {r : Except Failure α} {a : α}
    (h : (ofExcept r).run p deadline x = (.ok a, y)) : r = .ok a := by
  cases r with
  | error e => cases h
  | ok v =>
    cases h
    rfl

/-- A request that returns was answered with what it returns. -/
theorem run_request_eq_ok {r : Request} {a : r.Reply}
    (h : (request r).run p deadline x = (.ok a, y)) :
    ∃ left w', p.answer r left x.world = (.ok a, w') := by
  unfold request run at h
  rcases hrun : checkRun x.world.canceled (remaining deadline x.world.now) with e | _
  · rw [Session.call_of_error hrun] at h
    cases h
  · rw [Session.call_of_ok hrun] at h
    refine ⟨remaining deadline x.world.now, _, Prod.ext ?_ rfl⟩
    rcases hanswer : p.answer r (remaining deadline x.world.now) x.world with ⟨e | v, w⟩
    · rw [hanswer] at h
      cases h
    · rw [hanswer] at h
      cases h
      rfl

end

end Program

end ControlPlane
