import ControlPlane.Proofs.Ensure.Log
import ControlPlane.Proofs.Topology.Secondaries

/-!
# A run of the ensurer that fails

A run of `Reconciler.ensure` fails in one of four ways (`Reconciler.ensure_fails`): a desired
resource has no zone, the listing fails, the turn of a listed resource fails (`Falters`), or a
creation does. What was done before has its effects. `Reconciler.ensure_breaks_off` says what is
live then, and that the failure is passed on as it is.
-/

namespace ControlPlane

/-! ## Where a run fails -/

section

variable {ε σ D R : Type} {r : Reconciler (Acting ε σ) ε D R} {desired : List D}
  {wanted : List (String × List D)} {taken : List (String × String)} {s s' : σ} {e : ε}

/-- The turn of a listed resource ends in a failure: of asking whether it can be kept, of updating
it if so, and of deleting it, at once or when it cannot be kept. -/
inductive Falters (r : Reconciler (Acting ε σ) ε D R) (x : R) (e : ε) : σ → σ → Prop
  | asking {s s' : σ} {d} (asked : Fails (r.keeps x d) s e s') : Falters r x e s s'
  | updating {s s1 s' : σ} {d} (asked : Ends (r.keeps x d) s true s1)
    (updated : Fails (r.update x d) s1 e s') : Falters r x e s s'
  | deleting {s s' : σ} (deleted : Fails (r.delete x) s e s') : Falters r x e s s'
  | refusing {s s1 s' : σ} {d} (asked : Ends (r.keeps x d) s false s1)
    (deleted : Fails (r.delete x) s1 e s') : Falters r x e s s'

namespace Reconciler

/-- Going through a listing fails at a resource, after a survey of those before it. -/
theorem retain_fails (hgroups : r.groups desired = .ok wanted) {l : List R}
    (h : Fails (r.retain wanted taken l) s e s') :
    ∃ vs x after t, l = vs.map (·.resource) ++ x :: after ∧ Survey r desired taken s vs t ∧
      Falters r x e t s' := by
  -- The walk fails at its first resource, or in the rest with one more resource visited.
  induction l generalizing taken s with
  | nil => exact (fails_pure h).elim
  | cons x rest ih =>
    rw [retain] at h
    rcases hmatch : r.match? wanted taken x with _ | d <;> rw [hmatch] at h
    · -- No match: only the deletion can fail.
      obtain hpure | ⟨kept, _, hpure, hturn⟩ := fails_bind.1 h
      · exact (fails_pure hpure).elim
      obtain ⟨rfl, rfl⟩ := ends_pure.1 hpure
      obtain hdelete | ⟨_, s1, hdelete, hrest⟩ := fails_bind.1 hturn
      · exact ⟨[], x, rest, _, rfl, .done, .deleting hdelete⟩
      · obtain ⟨vs, x', after, t, rfl, hsurvey, hturn⟩ := ih hrest
        exact ⟨_ :: vs, x', after, t, rfl, .unwanted ((match?_eq_none hgroups).1 hmatch) hdelete
          hsurvey, hturn⟩
    · -- A match: the question can fail, then the deletion or the update that follows it.
      obtain ⟨hfree, hd⟩ := (match?_eq_some hgroups).1 hmatch
      obtain hkeeps | ⟨answer, s1, hkeeps, hturn⟩ := fails_bind.1 h
      · exact ⟨[], x, rest, _, rfl, .done, .asking hkeeps⟩
      cases answer with
      | false =>
        obtain hdelete | ⟨_, s2, hdelete, hrest⟩ := fails_bind.1 hturn
        · exact ⟨[], x, rest, _, rfl, .done, .refusing hkeeps hdelete⟩
        · obtain ⟨vs, x', after, t, rfl, hsurvey, hturn⟩ := ih hrest
          exact ⟨_ :: vs, x', after, t, rfl, .refused hfree hd hkeeps hdelete hsurvey, hturn⟩
      | true =>
        obtain hupdate | ⟨y, s2, hupdate, hturn⟩ := fails_bind.1 hturn
        · exact ⟨[], x, rest, _, rfl, .done, .updating hkeeps hupdate⟩
        obtain hrest | ⟨_, _, -, hpure⟩ := fails_bind.1 hturn
        · obtain ⟨vs, x', after, t, rfl, hsurvey, hturn⟩ := ih hrest
          exact ⟨_ :: vs, x', after, t, rfl, .retained hfree hd hkeeps hupdate hsurvey, hturn⟩
        · exact (fails_pure hpure).elim

/-- Creating one resource for each target fails at one of them, after those before it are made. -/
theorem createAll_fails {ts : List (String × String × D)}
    (h : Fails (ts.mapM' fun t => r.create t.1 t.2.1 t.2.2) s e s') :
    ∃ ks zone name d after t, Makes r s ks t ∧
      ts = ks.map Creation.target ++ (zone, name, d) :: after ∧
      Fails (r.create zone name d) t e s' := by
  induction ts generalizing s with
  | nil => exact (fails_pure h).elim
  | cons t rest ih =>
    obtain ⟨zone, name, d⟩ := t
    obtain hcreate | ⟨y, s1, hcreate, h⟩ := fails_bind.1 h
    · exact ⟨[], zone, name, d, _, s, .done, rfl, hcreate⟩
    obtain hrest | ⟨_, _, -, h⟩ := fails_bind.1 h
    · -- The first one is created, and a later one fails.
      obtain ⟨ks, zone', name', d', after, t, hmakes, htargets, hfails⟩ := ih hrest
      exact ⟨⟨zone, name, d, y⟩ :: ks, zone', name', d', after, t, .made hcreate hmakes,
        congrArg _ htargets, hfails⟩
    · exact (fails_pure h).elim

/-- Creating what is missing fails at a target, after those before it are made. -/
theorem createMissing_fails {ts : List (String × String × D)}
    (h : Fails (r.createMissing taken ts) s e s') :
    ∃ ks zone name d after t, Makes r s ks t ∧
      ts.filter (fun t => (t.1, t.2.1) ∉ taken) =
        ks.map Creation.target ++ (zone, name, d) :: after ∧
      Fails (r.create zone name d) t e s' := by
  rw [createMissing_eq] at h
  exact createAll_fails h

/-- Where a desired resource has no zone, a run fails before anything is listed. -/
theorem ensure_fails_of_groups (hgroups : r.groups desired = .error e) (s : σ) :
    Fails (r.ensure desired) s e s := by
  unfold ensure
  rw [hgroups]
  exact fails_bind.2 (.inl (fails_throw.2 ⟨rfl, rfl⟩))

/-- Where all desired resources have zones, a run that fails does so at the listing, at the turn of
a listed resource, or at a creation after all those turns. -/
theorem ensure_fails (hgroups : r.groups desired = .ok wanted)
    (h : Fails (r.ensure desired) s e s') :
    Fails r.list s e s' ∨
    (∃ l s1 vs x after t, Ends r.list s l s1 ∧ l = vs.map (·.resource) ++ x :: after ∧
      Survey r desired [] s1 vs t ∧ Falters r x e t s') ∨
    ∃ l s1 vs s2 ks zone name d after t, Ends r.list s l s1 ∧ vs.map (·.resource) = l ∧
      Survey r desired [] s1 vs s2 ∧ Makes r s2 ks t ∧
      (r.targets wanted).filter (fun t =>
        (t.1, t.2.1) ∉ (vs.filterMap (·.verdict.updated?)).map r.place) =
          ks.map Creation.target ++ (zone, name, d) :: after ∧
      Fails (r.create zone name d) t e s' := by
  unfold ensure at h
  rw [hgroups] at h
  obtain h | ⟨_, _, hpure, hrun⟩ := fails_bind.1 h
  · exact (fails_pure h).elim
  obtain ⟨hwanted, rfl⟩ := ends_pure.1 hpure
  rw [hwanted] at hrun
  -- The grouping succeeds, so that listing is the first that can fail.
  obtain hlist | ⟨l, s1, hlist, hrun⟩ := fails_bind.1 hrun
  · exact .inl hlist
  obtain hretain | ⟨kept, s2, hretain, hrun⟩ := fails_bind.1 hrun
  · obtain ⟨vs, x, after, t, hl, hsurvey, hturn⟩ := retain_fails hgroups hretain
    exact .inr (.inl ⟨l, s1, vs, x, after, t, hlist, hl, hsurvey, hturn⟩)
  -- All resources were visited, and a creation fails.
  obtain hmissing | ⟨_, _, -, h⟩ := fails_bind.1 hrun
  · obtain ⟨vs, hsurvey, hlisted, rfl, -⟩ := retain_survey hgroups hretain
    obtain ⟨ks, zone, name, d, after, t, hmakes, htargets, hfails⟩ := createMissing_fails hmissing
    exact .inr (.inr ⟨l, s1, vs, s2, ks, zone, name, d, after, t, hlist, hlisted, hsurvey, hmakes,
      htargets, hfails⟩)
  · exact (fails_pure h).elim

end Reconciler

end

/-! ## What a failure leaves -/

/-- The resource as retained by a call. -/
def Step.retained? {D R : Type} : Step D R → Option R
  | updated _ _ result => some result
  | _ => none

/-- What the calls of a run retain is what its visits do. -/
theorem Chronicle.retained_of_steps {σ D R : Type} (a : Chronicle σ D R) :
    a.steps.filterMap Step.retained? = a.visits.filterMap (·.verdict.updated?) := by
  rw [a.filterMap_steps (fun _ => rfl) fun _ => rfl]
  induction a.visits with
  | nil => rfl
  | cons v rest ih =>
    rw [List.flatMap_cons, ih]
    obtain ⟨x, t, verdict⟩ := v
    cases verdict <;> rfl

/-- Every resource that is visited is deleted or retained. -/
theorem Chronicle.deleted_or_updated {σ D R : Type} (a : Chronicle σ D R) {x : R}
    (hx : x ∈ a.visits.map (·.resource)) :
    .deleted x ∈ a.steps ∨ ∃ d y, .updated x d y ∈ a.steps := by
  obtain ⟨⟨x, t, verdict⟩, hv, rfl⟩ := List.mem_map.1 hx
  have hsteps : ∀ step ∈ Visit.steps ⟨x, t, verdict⟩, step ∈ a.steps := fun step hstep =>
    List.mem_append_left _ (List.mem_cons_of_mem _ (List.mem_flatMap.2 ⟨_, hv, hstep⟩))
  cases verdict with
  | unwanted => exact .inl (hsteps _ List.mem_cons_self)
  | refused d => exact .inl (hsteps _ (List.mem_cons_of_mem _ List.mem_cons_self))
  | retained d y => exact .inr ⟨d, y, hsteps _ (List.mem_cons_of_mem _ List.mem_cons_self)⟩

/-- Whether an operation belongs to the turn of a listed resource. -/
def Operation.isVisit {D R : Type} : Operation D R → Bool
  | keeps .. | update .. | delete .. => true
  | _ => false

namespace Reconciler

variable {ε σ D R ι : Type} [DecidableEq ι]

/-- Operations that fail have no effect on what is live, wherever the state is valid. -/
structure FailsIdly (r : Reconciler (Acting ε σ) ε D R) (valid : σ → Prop) (live : σ → List R) :
    Prop where
  list : ∀ {s e s'}, valid s → Fails r.list s e s' → valid s' ∧ live s' = live s
  keeps : ∀ {s x d e s'}, valid s → x ∈ live s → Fails (r.keeps x d) s e s' →
    valid s' ∧ live s' = live s
  update : ∀ {s x d e s'}, valid s → x ∈ live s → Fails (r.update x d) s e s' →
    valid s' ∧ live s' = live s
  delete : ∀ {s x e s'}, valid s → x ∈ live s → Fails (r.delete x) s e s' →
    valid s' ∧ live s' = live s
  create : ∀ {s zone name d e s'}, valid s → Fails (r.create zone name d) s e s' →
    valid s' ∧ live s' = live s

/-- What a run from a state has left in another one when an operation fails after some calls. Where
that is a listing, nothing was done. Where it is part of the turn of a listed resource, nothing was
created, and what was retained is live. Where it is a creation, every resource was deleted or
retained before, what is live was retained or created, and what was created is at the first of the
missing places, of which the failing creation has the next. -/
def BrokenOff (r : Reconciler (Acting ε σ) ε D R) (live : σ → List R) (desired : List D) (s : σ)
    (steps : List (Step D R)) (s' : σ) : Operation D R → Prop
  | .list => steps = [] ∧ live s' = live s
  | .keeps .. | .update .. | .delete .. =>
    steps.filterMap Creation.ofStep? = [] ∧ ∀ y ∈ steps.filterMap Step.retained?, y ∈ live s'
  | .create zone name _ =>
    (∀ x ∈ live s, .deleted x ∈ steps ∨ ∃ d y, .updated x d y ∈ steps) ∧
      (live s').Perm (steps.filterMap Step.retained? ++
        (steps.filterMap Creation.ofStep?).map (·.made)) ∧
      (steps.filterMap Creation.ofStep?).map Creation.place ++ [(zone, name)] <+:
        (r.places desired).removeAll ((steps.filterMap Step.retained?).map r.place)

variable {r : Reconciler (Acting ε σ) ε D R} {valid : σ → Prop} {live : σ → List R} {id : R → ι}
  {desired : List D} {wanted : List (String × List D)}

section

variable {t t' : σ × List (Entry ε D R)} {e : ε}

/-- A turn that fails changes nothing that is live, and the last entry of the log is of the
operation that failed. -/
theorem falters_log (hr : r.Reflects valid live id) (hidle : r.FailsIdly valid live) {x : R}
    (h : Falters r.logged x e t t') (ht : valid t.1) (hx : x ∈ live t.1) :
    valid t'.1 ∧ live t'.1 = live t.1 ∧ ∃ (asks : List (Step D R)) (op : Operation D R),
      op.isVisit = true ∧ t'.2 = t.2 ++ asks.map .ended ++ [.raised op e] ∧
      asks.filterMap Step.retained? = [] ∧ asks.filterMap Creation.ofStep? = [] := by
  -- One case for each operation of a visit that can fail: before it, at most a question was asked.
  cases h with
  | @asking _ d hasked =>
    obtain ⟨hasked, hlog⟩ := fails_logging.1 hasked
    obtain ⟨ht', hlive'⟩ := hidle.keeps ht hx hasked
    refine ⟨ht', hlive', [], .keeps x d, rfl, ?_, rfl, rfl⟩
    rw [hlog, List.map_nil, List.append_nil]
  | @updating _ _ d hasked hupdated =>
    obtain ⟨hasked, hlog⟩ := ends_logging.1 hasked
    obtain ⟨hupdated, hlog'⟩ := fails_logging.1 hupdated
    obtain ⟨ht1, hlive1⟩ := hr.keeps ht hx hasked
    obtain ⟨ht', hlive'⟩ := hidle.update ht1 (hlive1 ▸ hx) hupdated
    refine ⟨ht', hlive'.trans hlive1, [.asked x d true], .update x d, rfl, ?_, rfl, rfl⟩
    rw [hlog', hlog]
    rfl
  | deleting hdeleted =>
    obtain ⟨hdeleted, hlog⟩ := fails_logging.1 hdeleted
    obtain ⟨ht', hlive'⟩ := hidle.delete ht hx hdeleted
    refine ⟨ht', hlive', [], .delete x, rfl, ?_, rfl, rfl⟩
    rw [hlog, List.map_nil, List.append_nil]
  | @refusing _ _ d hasked hdeleted =>
    obtain ⟨hasked, hlog⟩ := ends_logging.1 hasked
    obtain ⟨hdeleted, hlog'⟩ := fails_logging.1 hdeleted
    obtain ⟨ht1, hlive1⟩ := hr.keeps ht hx hasked
    obtain ⟨ht', hlive'⟩ := hidle.delete ht1 (hlive1 ▸ hx) hdeleted
    refine ⟨ht', hlive'.trans hlive1, [.asked x d false], .delete x, rfl, ?_, rfl, rfl⟩
    rw [hlog', hlog]
    rfl

/-- A run that fails logs the operation that fails behind calls that ended. -/
theorem logged_ensure_fails (hr : r.Reflects valid live id) (hidle : r.FailsIdly valid live)
    (hgroups : r.groups desired = .ok wanted) {s : σ} (hs : valid s)
    (h : Fails (r.logged.ensure desired) (s, []) e t') :
    valid t'.1 ∧ ∃ (steps : List (Step D R)) (op : Operation D R),
      t'.2 = steps.map .ended ++ [.raised op e] ∧ r.BrokenOff live desired s steps t'.1 op := by
  rcases ensure_fails (r := r.logged) hgroups h with hlist |
    ⟨l, t1, vs, x, after, t2, hlist, rfl, hsurvey, hturn⟩ |
    ⟨l, t1, vs, t2, ks, zone, name, d, after, t3, hlist, rfl, hsurvey, hmakes, htargets, hcreate⟩
  · -- Listing fails, with nothing done before.
    obtain ⟨hlist, hlog⟩ := fails_logging.1 hlist
    obtain ⟨hs', hlive'⟩ := hidle.list hs hlist
    exact ⟨hs', [], _, hlog, rfl, hlive'⟩
  · -- A visit fails: what was retained before it is live still, and nothing was created.
    obtain ⟨hs1, hlive1, hl⟩ := hr.logged.list hs hlist
    obtain ⟨hs2, hlive2, -⟩ := hsurvey.leaves hr.logged hs1 (hlive1 ▸ hl.symm)
    have hx : x ∈ live t2.1 := hlive2.mem_iff.2 (List.mem_append_right _ List.mem_cons_self)
    obtain ⟨hs', hlive', asks, op, hop, hlog, hretained, hmade⟩ := falters_log hr hidle hturn hs2 hx
    let a : Chronicle (σ × List (Entry ε D R)) D R := ⟨vs.map (·.resource) ++ x :: after, vs, []⟩
    refine ⟨hs', a.steps ++ asks, op, ?_, ?_⟩
    · rw [hlog, hsurvey.log, (ends_logging.1 hlist).2]
      simp [a, Chronicle.steps]
    · have hmade' : (a.steps ++ asks).filterMap Creation.ofStep? = [] := by
        rw [List.filterMap_append, a.creations_of_steps, hmade, List.append_nil]
      have hretained' : (a.steps ++ asks).filterMap Step.retained? =
          vs.filterMap (·.verdict.updated?) := by
        rw [List.filterMap_append, a.retained_of_steps, hretained, List.append_nil]
      have hkept : ∀ y ∈ vs.filterMap (·.verdict.updated?), y ∈ live t'.1 := fun y hy => by
        rw [hlive']
        exact hlive2.mem_iff.2 (List.mem_append_left _ hy)
      cases op with
      | list => cases hop
      | create => cases hop
      | _ => exact ⟨hmade', hretained' ▸ hkept⟩
  · -- A creation fails: all were visited, and some targets were made.
    obtain ⟨hs1, hlive1, hl⟩ := hr.logged.list hs hlist
    have hvisited : (live t1.1).Perm (vs.map (·.resource) ++ []) := by
      rw [hlive1, List.append_nil]
      exact hl.symm
    obtain ⟨hs2, hlive2, -⟩ := hsurvey.leaves hr.logged hs1 hvisited
    obtain ⟨hs3, hlive3, -⟩ := hmakes.leaves hr.logged hs2
    obtain ⟨hcreate, hlog⟩ := fails_logging.1 hcreate
    obtain ⟨hs', hlive'⟩ := hidle.create hs3 hcreate
    let a : Chronicle (σ × List (Entry ε D R)) D R := ⟨vs.map (·.resource), vs, ks⟩
    refine ⟨hs', a.steps, .create zone name d, ?_, fun x hx => ?_, ?_, ?_⟩
    · -- The log is that of the chronicle so far, with the failed creation behind it.
      rw [hlog, hmakes.log, hsurvey.log, (ends_logging.1 hlist).2]
      simp [a, Chronicle.steps]
    · -- Every resource that was listed has been dealt with.
      exact a.deleted_or_updated (hl.mem_iff.2 hx)
    · -- What is live was retained or created.
      rw [a.retained_of_steps, a.creations_of_steps, hlive', hlive3]
      rw [List.append_nil] at hlive2
      exact hlive2.append_right _
    · -- The places that were not taken begin with those that were made, and go on with the failed
      -- one.
      rw [a.retained_of_steps, a.creations_of_steps]
      have hplaces := congrArg (List.map fun t => (t.1, t.2.1)) htargets
      rw [List.map_append, List.map_map] at hplaces
      have hfree : ∀ taken, (r.places desired).removeAll taken =
          (r.places desired).filter (· ∉ taken) := fun taken => by simp [List.removeAll]
      rw [hfree, ← map_place_targets (r := r) hgroups, List.filter_map]
      refine ⟨after.map fun t => (t.1, t.2.1), ?_⟩
      rw [List.append_assoc]
      exact hplaces.symm

end

/-- Where nothing fails, the log is of calls that ended. -/
theorem logged_ensure_ends {t t' : σ × List (Entry ε D R)} {result : List R}
    (h : Ends (r.logged.ensure desired) t result t') :
    ∃ steps : List (Step D R), t'.2 = t.2 ++ steps.map .ended := by
  obtain ⟨_, l, t1, vs, t2, ks, -, hlist, hsurvey, -, hmakes, -⟩ := ensure_ends h
  refine ⟨.listed l :: (vs.flatMap Visit.steps ++ ks.map Creation.step), ?_⟩
  rw [hmakes.log, hsurvey.log, (ends_logging.1 hlist).2]
  simp

/-- Calls that ended have raised nothing. -/
theorem raised_not_mem_ended {steps : List (Step D R)} {op : Operation D R} {e : ε} :
    Entry.raised op e ∉ steps.map .ended := by
  intro h
  obtain ⟨step, -, hstep⟩ := List.mem_map.1 h
  cases hstep

/-- A failure that a log ends with is the only one in it. -/
theorem eq_of_raised_mem {steps : List (Step D R)} {op op' : Operation D R} {e e' : ε}
    (h : Entry.raised op' e' ∈ steps.map .ended ++ [.raised op e]) : op' = op ∧ e' = e := by
  cases List.mem_singleton.1 ((List.mem_append.1 h).resolve_left raised_not_mem_ended)
  exact ⟨rfl, rfl⟩

/-- A secondary load balancer whose zone is malformed, or has no load balancers, makes ensuring fail
with a terminal failure, and no request is made. -/
theorem secondaries_unusable (scope : Scope) {specs : List BalancerSpec} {b : BalancerSpec}
    (hb : b ∈ specs) (h : ∀ zone ∈ scope.site.zones, scope.site.region.resolve b.zone ≠ .ok zone) :
    ∃ e : Failure, e.fault.kind = .terminal ∧ Secondary.ensure scope specs = .fail e := by
  rcases hgroups : (Secondary.reconciler scope).groups specs with e | wanted
  · obtain ⟨_, d, _, -, -, hd⟩ := groups_eq_error_iff.1 hgroups
    refine ⟨e, Secondary.desiredZone_terminal hd, ?_⟩
    unfold Secondary.ensure ensure
    rw [hgroups]
    rfl
  · obtain ⟨zone, hd⟩ := exists_zone hgroups b hb
    obtain ⟨hresolve, hmem⟩ := Secondary.desiredZone_eq_ok.1 hd
    exact (h zone hmem hresolve).elim

/-- What a run does when an operation raises a failure, for a reconciler that reflects a store,
whose operations have no effect when they fail, and whose names tell positions apart.

If a desired resource has no zone, the run fails with the failure of the first such one, with no call
and no change; so it does for a secondary load balancer whose zone is malformed, or has no load
balancers. If a call raises a failure, it is the last one, and the run fails with the same failure
and leaves what `BrokenOff` says. No run fails otherwise. Whenever a later run returns, its result is
live, and nothing else is, and it is at the desired places, each of which is filled once. -/
theorem ensure_breaks_off (hr : r.Reflects valid live id) (hidle : r.FailsIdly valid live)
    (hname : Function.Injective r.desiredName) (desired : List D) {s : σ} (hs : valid s) :
    (∃ outcome s' entries, (r.ensure desired).run.run s = (outcome, s') ∧
      (r.logged.ensure desired).run.run (s, []) = (outcome, s', entries) ∧ valid s' ∧
      (∀ before d after e, desired = before ++ d :: after →
        (∀ b ∈ before, ∃ zone, r.desiredZone b = .ok zone) → r.desiredZone d = .error e →
        outcome = .error e ∧ s' = s ∧ entries = []) ∧
      (∀ op e, .raised op e ∈ entries → outcome = .error e ∧
        ∃ steps, entries = steps.map .ended ++ [.raised op e] ∧
          r.BrokenOff live desired s steps s' op) ∧
      ∀ e, outcome = .error e →
        (∃ d ∈ desired, r.desiredZone d = .error e) ∨ ∃ op, .raised op e ∈ entries) ∧
    (∀ t result t', valid t → Ends (r.ensure desired) t result t' →
      valid t' ∧ (live t').Perm result ∧ ((live t').map r.place).Perm (r.places desired) ∧
        (r.places desired).Nodup) ∧
    ∀ (scope : Scope) (specs : List BalancerSpec),
      (∃ b ∈ specs, ∀ zone ∈ scope.site.zones, scope.site.region.resolve b.zone ≠ .ok zone) →
      ∃ e : Failure, e.fault.kind = .terminal ∧ Secondary.ensure scope specs = .fail e := by
  refine ⟨?_, fun t result t' ht h => ?_, fun scope specs ⟨b, hb, h⟩ =>
    secondaries_unusable scope hb h⟩
  · have hprojects : (r.ensure desired).run.run s = _ := r.projects_ensure desired (s, [])
    rcases hgroups : r.groups desired with e | wanted
    -- Without a zone for each, the run fails at once.
    · obtain ⟨before, d, after, hdesired, hbefore, hd⟩ := groups_eq_error_iff.1 hgroups
      have hrun : (r.logged.ensure desired).run.run (s, []) = (.error e, (s, [])) :=
        ensure_fails_of_groups (r := r.logged) hgroups (s, [])
      refine ⟨.error e, s, [], ?_, hrun, hs, ?_, nofun, ?_⟩
      · rw [hprojects, hrun]
      · intro before' d' after' e' hdesired' hbefore' hd'
        have hgroups' := groups_eq_error_iff.2 ⟨before', d', after', hdesired', hbefore', hd'⟩
        cases hgroups.symm.trans hgroups'
        exact ⟨rfl, rfl, rfl⟩
      · intro e' he
        cases he
        exact .inl ⟨d, hdesired ▸ List.mem_append_right _ List.mem_cons_self, hd⟩
    · have hzones : ∀ before d after e, desired = before ++ d :: after →
          (∀ b ∈ before, ∃ zone, r.desiredZone b = .ok zone) → r.desiredZone d ≠ .error e :=
        fun before d after e hdesired hbefore hd =>
          nomatch hgroups.symm.trans
            (groups_eq_error_iff.2 ⟨before, d, after, hdesired, hbefore, hd⟩)
      rcases hrun : (r.logged.ensure desired).run.run (s, []) with ⟨e | result, s', entries⟩
      · obtain ⟨hs', steps, op, hlog, hleft⟩ := logged_ensure_fails hr hidle hgroups hs hrun
        subst hlog
        refine ⟨.error e, s', _, ?_, rfl, hs', fun _ _ _ _ hd hb he => ?_, fun op' e' h => ?_,
          fun e' he => ?_⟩
        · rw [hprojects, hrun]
        · exact (hzones _ _ _ _ hd hb he).elim
        · obtain ⟨rfl, rfl⟩ := eq_of_raised_mem h
          exact ⟨rfl, steps, rfl, hleft⟩
        · cases he
          exact .inr ⟨op, List.mem_append_right _ List.mem_cons_self⟩
      · obtain ⟨hs', -⟩ := ensure_leaves hr.logged hname hs hrun
        obtain ⟨steps, hlog⟩ := logged_ensure_ends hrun
        refine ⟨.ok result, s', entries, ?_, rfl, hs', fun _ _ _ _ hd hb he => ?_, fun op' e' h => ?_,
          nofun⟩
        · rw [hprojects, hrun]
        · exact (hzones _ _ _ _ hd hb he).elim
        · rw [show entries = [] ++ steps.map .ended from hlog] at h
          exact (raised_not_mem_ended h).elim
  · obtain ⟨ht', hresult, hplaces, -⟩ := ensure_leaves hr hname ht h
    obtain ⟨wanted, -, -, -, -, -, hgroups, -⟩ := ensure_ends h
    exact ⟨ht', hresult, (hresult.map r.place).trans hplaces, nodup_places hname hgroups⟩

end Reconciler

/-! ## A sample -/

namespace Shelf

variable {refusals : List Refusal} {broken : List Int} {s s' : Shelf} {a : ShelfAction}

/-- What is begun and cannot fail then fails only if it is refused, and is recorded at most. -/
theorem fails_begin {α : Type} {rest : Work α} {e : Failure}
    (hrest : ∀ t t', ¬Fails rest t e t') (h : Fails (begin a >>= fun _ => rest) s e s') :
    s' = { s with record := s.record ++ [a] } := by
  obtain hbegin | ⟨_, s1, -, h⟩ := fails_bind.1 h
  · unfold Fails at hbegin
    rw [run_begin] at hbegin
    exact (congrArg Prod.snd hbegin).symm
  · exact (hrest s1 s' h).elim

/-- What a shelf refuses has no effect on its things. -/
theorem failsIdly (names : List String) (refusals : List Refusal) (broken : List Int) :
    (reconciler names).FailsIdly (Tidy refusals broken) things where
  list hs h := by
    obtain rfl := fails_begin (by nofun) h
    exact ⟨hs.begin _, rfl⟩
  keeps hs _ h := by
    obtain rfl := fails_begin (by nofun) h
    exact ⟨hs.begin _, rfl⟩
  update hs _ h := by
    obtain rfl := fails_begin (by nofun) h
    exact ⟨hs.begin _, rfl⟩
  delete hs _ h := by
    obtain rfl := fails_begin (by nofun) h
    exact ⟨hs.begin _, rfl⟩
  create hs h := by
    obtain rfl := fails_begin (by nofun) h
    exact ⟨hs.begin _, rfl⟩

end Shelf

namespace Sample

/-- A shelf that refuses to make a second thing. -/
def fullShelf : Shelf := { shelf with refusals := [⟨"create", some (.text "thing-1")⟩] }

/-- A shelf that refuses a second thing in a zone breaks a run off, at an operation that its
chronicle shows. -/
theorem full_shelf_breaks_off : ∃ e s' steps op,
    Fails (things.ensure [⟨"y", 2⟩, ⟨"z", 1⟩, ⟨"y", 3⟩]) fullShelf e s' ∧
    things.BrokenOff Shelf.things [⟨"y", 2⟩, ⟨"z", 1⟩, ⟨"y", 3⟩] fullShelf steps s' op := by
  have htidy : fullShelf.Tidy fullShelf.refusals [1] :=
    ⟨rfl, rfl, by decide, by decide, by decide⟩
  obtain ⟨⟨outcome, s', entries, hrun, -, -, -, hraised, herror⟩, -⟩ :=
    Reconciler.ensure_breaks_off (Shelf.reflects [] fullShelf.refusals [1])
      (Shelf.failsIdly [] fullShelf.refusals [1]) things_desiredName_injective
      [⟨"y", 2⟩, ⟨"z", 1⟩, ⟨"y", 3⟩] htidy
  have hfails : ((things.ensure [⟨"y", 2⟩, ⟨"z", 1⟩, ⟨"y", 3⟩]).run.run fullShelf).1.isOk = false := by
    decide +kernel
  cases outcome with
  | ok result =>
    -- The run fails, by evaluation.
    rw [show (things.ensure [⟨"y", 2⟩, ⟨"z", 1⟩, ⟨"y", 3⟩]).run.run fullShelf = _ from hrun] at hfails
    cases hfails
  | error e =>
    obtain ⟨d, hd, hzone⟩ | ⟨op, hop⟩ := herror e rfl
    · -- Not because of a zone, as all of them are known.
      have hzones : ∀ d ∈ [⟨"y", 2⟩, ⟨"z", 1⟩, ⟨"y", 3⟩], (things.desiredZone d).isOk = true := by
        decide
      have hok := hzones d hd
      rw [show things.desiredZone d = .error e from hzone] at hok
      cases hok
    · obtain ⟨-, steps, -, hleft⟩ := hraised op e hop
      exact ⟨e, s', steps, op, hrun, hleft⟩

end Sample

end ControlPlane
