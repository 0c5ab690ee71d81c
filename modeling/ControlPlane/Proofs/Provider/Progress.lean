import ControlPlane.Proofs.Provider.Operations
import ControlPlane.Proofs.Provider.Trials

/-!
# Programs that succeed

`Achieves P p c Q` says that on the cloud `c` the program `p` returns, that what it returns meets
`Q`, and that `P` holds on all clouds on the way: total correctness with an invariant. A brittle
program keeps the invariant when it is cut short as well (`Brittle.passes`), so where the invariant
is strong enough for the program to succeed once more, it does so after any number of attempts.

Most operations of a reconciler look some things up and then change one (`ChangesLast`). Such an
operation visits no cloud but the first and the last, and to know what it returns is enough.
-/

namespace ControlPlane

namespace Program

variable {α β : Type} {P P' : Cloud → Prop} {c c' : Cloud}

/-- On a cloud, the program succeeds with what meets `Q`, and upholds `P` on the way. -/
structure Achieves (P : Cloud → Prop) (p : Program α) (c : Cloud) (Q : α → Cloud → Prop) :
    Prop where
  upholds : p.Upholds P c
  returns : ∃ a c', p.Returns c a c' ∧ Q a c'

section

variable {Q Q' : α → Cloud → Prop} {R : β → Cloud → Prop}

/-- A value is achieved with nothing to be done. -/
theorem achieves_done {a : α} (hP : P c) (hQ : Q a c) : (done a).Achieves P c Q :=
  ⟨upholds_done hP a, a, c, rfl, hQ⟩

/-- A check that passes is achieved. -/
theorem achieves_ofExcept {r : Except Failure α} {a : α} (h : r = .ok a) (hP : P c) (hQ : Q a c) :
    (ofExcept r).Achieves P c Q := by
  rw [h]
  exact achieves_done hP hQ

/-- Reporting an event is achieved. -/
theorem achieves_emit {Q : Unit → Cloud → Prop} (e : Event) (hP : P c) (hQ : Q () c) :
    (emit e).Achieves P c Q :=
  ⟨upholds_done hP (), (), c, rfl, hQ⟩

/-- What holds at the end holds with the invariant. -/
theorem Achieves.end_of_returns {p : Program α} (hp : p.Achieves P c Q) {a : α}
    (h : p.Returns c a c') : Q a c' := by
  obtain ⟨a', c'', hreturns, hQ⟩ := hp.returns
  obtain ⟨rfl, rfl⟩ := h.unique hreturns
  exact hQ

/-- What is upheld and what is achieved may be weakened, the latter with the knowledge that the
program returns. -/
theorem Achieves.mono {p : Program α} (hp : p.Achieves P c Q) (hP : ∀ c', P c' → P' c')
    (hQ : ∀ a c', p.Returns c a c' → P c' → Q a c' → Q' a c') : p.Achieves P' c Q' := by
  obtain ⟨a, c', hreturns, hend⟩ := hp.returns
  exact ⟨fun v hv => hP v (hp.upholds v hv), a, c', hreturns,
    hQ a c' hreturns (hp.upholds.of_returns hreturns) hend⟩

/-- Two programs achieve in turn what the second achieves from where the first ends. -/
theorem Achieves.bind {p : Program α} {f : α → Program β} (hp : p.Achieves P c Q)
    (hf : ∀ a c', p.Returns c a c' → P c' → Q a c' → (f a).Achieves P c' R) :
    (p >>= f).Achieves P c R := by
  obtain ⟨a, c', hreturns, hend⟩ := hp.returns
  obtain ⟨b, c'', hb, hR⟩ :=
    (hf a c' hreturns (hp.upholds.of_returns hreturns) hend).returns
  refine ⟨hp.upholds.bind fun a' c1 h1 hP1 => ?_, b, c'', returns_bind.2 ⟨a, c', hreturns, hb⟩, hR⟩
  exact (hf a' c1 h1 hP1 (hp.end_of_returns h1)).upholds

/-- A program that only looks up, and returns, achieves what holds of the value and the cloud. -/
theorem ReadOnly.achieves {p : Program α} {a : α} (hp : p.ReadOnly) (h : p.Returns c a c)
    (hP : P c) (hQ : Q a c) : p.Achieves P c Q :=
  ⟨hp.upholds hP, a, c, h, hQ⟩

/-- Look-ups come first, and what they return is known. -/
theorem ReadOnly.achieves_bind {p : Program α} {f : α → Program β} {a : α} (hp : p.ReadOnly)
    (h : p.Returns c a c) (hf : (f a).Achieves P c R) : (p >>= f).Achieves P c R := by
  have hP : P c := hf.upholds c List.mem_cons_self
  refine (hp.achieves h hP ⟨rfl, rfl⟩).bind (Q := fun a' c' => a' = a ∧ c' = c) ?_
  rintro _ _ _ _ ⟨rfl, rfl⟩
  exact hf

end

/-! ## One change at the end -/

/-- A program that visits nothing ends on the cloud that it starts on. -/
theorem exec_eq_of_visits {p : Program α} (h : p.visits c = []) : (p.exec c).2 = c := by
  induction p with
  | done a => rfl
  | fail e => rfl
  | send r next => cases h
  | report e next ih => exact ih h

/-- At most one request changes anything, and none comes after it. -/
def ChangesLast : Program α → Prop
  | done _ => True
  | fail _ => True
  | send r next => ∀ answer, (next answer).ChangesLast ∧
      (r.isMutation = true → ∀ c, (next answer).visits c = [])
  | report _ next => next.ChangesLast

/-- A program that sends no request has no change that another could come after. -/
theorem changesLast_of_visits {p : Program α} (h : ∀ c, p.visits c = []) : p.ChangesLast := by
  induction p with
  | done a => trivial
  | fail e => trivial
  | send r next => cases h {}
  | report e next ih => exact ih h

/-- A check sends no request. -/
theorem visits_ofExcept (r : Except Failure α) (c : Cloud) : (ofExcept r).visits c = [] := by
  cases r <;> rfl

/-- A single request is the last one. -/
theorem changesLast_request (r : Request) : (request r).ChangesLast := fun answer =>
  ⟨changesLast_of_visits (visits_ofExcept answer), fun _ => visits_ofExcept answer⟩

/-- A program that changes something last may come after look-ups. -/
theorem ReadOnly.changesLast_bind {p : Program α} {f : α → Program β} (hp : p.ReadOnly)
    (hf : ∀ a, (f a).ChangesLast) : (p >>= f).ChangesLast := by
  induction p with
  | done a => exact hf a
  | fail e => trivial
  | send r next ih =>
    obtain ⟨hr, _, hnext⟩ := hp
    refine fun answer => ⟨ih answer (hnext answer), fun hmutation => ?_⟩
    rw [hr] at hmutation
    cases hmutation
  | report e next ih =>
    cases e with
    | log level line => exact ih hp
    | address | secondaryAddresses | condition => exact hp.elim

/-- What sends nothing may come after a change. -/
theorem ChangesLast.bind_silent {p : Program α} {f : α → Program β} (hp : p.ChangesLast)
    (hf : ∀ a c, (f a).visits c = []) : (p >>= f).ChangesLast := by
  induction p with
  | done a => exact changesLast_of_visits (hf a)
  | fail e => trivial
  | send r next ih =>
    intro answer
    refine ⟨ih answer (hp answer).1, fun hmutation c => ?_⟩
    refine List.eq_nil_iff_forall_not_mem.2 fun v hv => ?_
    -- After a change neither the first program visits a cloud nor the second.
    rcases mem_visits_bind hv with hv | ⟨a, c', _, hv⟩
    · rw [(hp answer).2 hmutation c] at hv
      exact List.not_mem_nil hv
    · rw [hf a c'] at hv
      exact List.not_mem_nil hv
  | report e next ih => exact ih hp

/-- A function of the value adds no request. -/
theorem ChangesLast.map {p : Program α} (f : α → β) (hp : p.ChangesLast) :
    (f <$> p).ChangesLast :=
  hp.bind_silent fun _ _ => rfl

/-- What holds before and after one change holds on the way. -/
theorem ChangesLast.upholds {p : Program α} (hp : p.ChangesLast) (hP : P c)
    (hend : P (p.exec c).2) : p.Upholds P c := by
  induction p generalizing c with
  | done a => exact upholds_done hP a
  | fail e => exact List.forall_mem_singleton.2 hP
  | send r next ih =>
    obtain ⟨hnext, hlast⟩ := hp (c.answer r).1
    have hrest : (next (c.answer r).1).Upholds P (c.answer r).2 := by
      refine ih _ hnext ?_ hend
      cases hr : r.isMutation with
      | true =>
        -- The request is the last one, and leaves the cloud of the end.
        have hlast' := exec_eq_of_visits (hlast hr (c.answer r).2)
        rw [← hlast']
        exact hend
      | false =>
        obtain ⟨v, hv⟩ := Cloud.answer_lookup hr c
        rw [hv]
        exact hP
    exact List.forall_mem_cons.2 ⟨hP, hrest⟩
  | report e next ih => exact ih hp hP hend

/-- One change succeeds with what it returns. -/
theorem ChangesLast.achieves {p : Program α} {a : α} (hp : p.ChangesLast) (h : p.Returns c a c')
    (hP : P c) (hP' : P c') : p.Achieves P c fun a' c'' => a' = a ∧ c'' = c' := by
  refine ⟨hp.upholds hP ?_, a, c', h, rfl, rfl⟩
  have hexec : (p.exec c).2 = c' := congrArg Prod.snd h
  rw [hexec]
  exact hP'

end Program

/-- A single change in a zone. -/
theorem Site.changesLast_in_zone {s : Site} {zone : String} (r : Request) :
    (s.checkZone zone >>= fun _ => Program.request r).ChangesLast :=
  Program.ReadOnly.changesLast_bind Site.checkZone_orderly fun _ => Program.changesLast_request r

end ControlPlane
