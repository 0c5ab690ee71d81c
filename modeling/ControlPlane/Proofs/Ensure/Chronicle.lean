import Mathlib.Data.List.Perm.Basic
import ControlPlane.Proofs.Cloud.Soundness
import ControlPlane.Proofs.Ensure.Record
import ControlPlane.Shelf

/-!
# What a run of the ensurer does

A run of `Reconciler.ensure` that returns visits the live resources one after the other, in the
order of the listing (`Survey`), and then makes what is missing. A `Chronicle` is what is to be told
of it, and the calls of the run are those of a chronicle (`Reconciler.exists_chronicle`).
`Reconciler.ensure_meets_demand` reads off it which resources are kept, which are deleted and which
are created, whatever the reconciler does to its state.
-/

namespace ControlPlane

/-! ## Visiting what is there -/

/-- What becomes of a listed resource: nothing is desired at its place, or what is desired there has
been retained before; or it cannot be kept; or it is retained and updated. -/
inductive Verdict (D R : Type)
  | unwanted
  | refused (desired : D)
  | retained (desired : D) (updated : R)

/-- The resource as updated, if it is retained. -/
def Verdict.updated? {D R : Type} : Verdict D R → Option R
  | retained _ updated => some updated
  | _ => none

/-- One resource of a listing: the state in which its turn came, and what became of it. -/
structure Visit (σ D R : Type) where
  resource : R
  before : σ
  verdict : Verdict D R

namespace Visit

variable {σ D R : Type}

/-- Whether the resource is retained. -/
def isRetained (v : Visit σ D R) : Bool := v.verdict.updated?.isSome

/-- The calls on behalf of the resource. -/
def steps (v : Visit σ D R) : List (Step D R) :=
  match v.verdict with
  | .unwanted => [.deleted v.resource]
  | .refused d => [.asked v.resource d false, .deleted v.resource]
  | .retained d updated => [.asked v.resource d true, .updated v.resource d updated]

end Visit

section

variable {ε σ D R : Type}

/-- Resources are visited one after the other, beside places that are taken: one is deleted at once
if its place is taken or nothing is desired there, it is deleted if it cannot be kept, and else it
is updated, and takes its place. -/
inductive Survey (r : Reconciler (Acting ε σ) ε D R) (desired : List D) :
    List (String × String) → σ → List (Visit σ D R) → σ → Prop
  | done {taken s} : Survey r desired taken s [] s
  | unwanted {taken s s1 s' x vs}
    (unwanted : r.place x ∈ taken ∨ r.desiredAt desired (r.zoneOf x) (r.nameOf x) = none)
    (deleted : Ends (r.delete x) s () s1) (rest : Survey r desired taken s1 vs s') :
    Survey r desired taken s (⟨x, s, .unwanted⟩ :: vs) s'
  | refused {taken s s1 s2 s' x d vs} (free : r.place x ∉ taken)
    (wanted : r.desiredAt desired (r.zoneOf x) (r.nameOf x) = some d)
    (asked : Ends (r.keeps x d) s false s1) (deleted : Ends (r.delete x) s1 () s2)
    (rest : Survey r desired taken s2 vs s') :
    Survey r desired taken s (⟨x, s, .refused d⟩ :: vs) s'
  | retained {taken s s1 s2 s' x d y vs} (free : r.place x ∉ taken)
    (wanted : r.desiredAt desired (r.zoneOf x) (r.nameOf x) = some d)
    (asked : Ends (r.keeps x d) s true s1) (updated : Ends (r.update x d) s1 y s2)
    (rest : Survey r desired (r.place x :: taken) s2 vs s') :
    Survey r desired taken s (⟨x, s, .retained d y⟩ :: vs) s'

variable {r : Reconciler (Acting ε σ) ε D R} {desired : List D} {wanted : List (String × List D)}

/-- A live resource that nothing desired matches is deleted, and the rest of the list follows. -/
theorem Reconciler.ends_retain_of_none {taken : List (String × String)} {x : R} {rest kept : List R}
    {s s' : σ} (hmatch : r.match? wanted taken x = none) :
    Ends (r.retain wanted taken (x :: rest)) s kept s' ↔
      ∃ s1, Ends (r.delete x) s () s1 ∧ Ends (r.retain wanted taken rest) s1 kept s' := by
  rw [retain]
  simp only [hmatch, ends_bind, ends_pure]
  constructor
  · rintro ⟨_, _, ⟨rfl, rfl⟩, _, s1, hdelete, hrest⟩
    exact ⟨s1, hdelete, hrest⟩
  · rintro ⟨s1, hdelete, hrest⟩
    exact ⟨_, _, ⟨rfl, rfl⟩, _, s1, hdelete, hrest⟩

/-- A live resource that matches a desired one is either not worth keeping and deleted, or updated
and kept; the rest of the list follows. -/
theorem Reconciler.ends_retain_of_some {taken : List (String × String)} {x : R} {rest kept : List R}
    {s s' : σ} {d : D} (hmatch : r.match? wanted taken x = some d) :
    Ends (r.retain wanted taken (x :: rest)) s kept s' ↔
      (∃ s1 s2, Ends (r.keeps x d) s false s1 ∧ Ends (r.delete x) s1 () s2 ∧
        Ends (r.retain wanted taken rest) s2 kept s') ∨
      ∃ s1 y s2 more, Ends (r.keeps x d) s true s1 ∧ Ends (r.update x d) s1 y s2 ∧
        Ends (r.retain wanted (r.place x :: taken) rest) s2 more s' ∧ kept = y :: more := by
  rw [retain]
  simp only [hmatch, ends_bind]
  constructor
  · rintro ⟨_ | _, s1, hkeeps, h⟩
    · -- It cannot be kept as it is, and is deleted.
      obtain ⟨_, s2, hdelete, hrest⟩ := ends_bind.1 h
      exact .inl ⟨s1, s2, hkeeps, hdelete, hrest⟩
    · -- It is kept, updated, and takes its place.
      obtain ⟨y, s2, hupdate, h⟩ := ends_bind.1 h
      obtain ⟨more, _, hrest, h⟩ := ends_bind.1 h
      obtain ⟨rfl, rfl⟩ := ends_pure.1 h
      exact .inr ⟨s1, y, s2, more, hkeeps, hupdate, hrest, rfl⟩
  · rintro (⟨s1, s2, hkeeps, hdelete, hrest⟩ | ⟨s1, y, s2, more, hkeeps, hupdate, hrest, rfl⟩)
    · exact ⟨false, s1, hkeeps, ends_bind.2 ⟨(), s2, hdelete, hrest⟩⟩
    · refine ⟨true, s1, hkeeps, ends_bind.2 ⟨y, s2, hupdate, ?_⟩⟩
      exact ends_bind.2 ⟨more, s', hrest, ends_pure.2 ⟨rfl, rfl⟩⟩

/-- Going through a listing is such a survey, and its calls are those of the visits. -/
theorem Reconciler.retain_survey (hgroups : r.groups desired = .ok wanted)
    {taken : List (String × String)} {live kept : List R} {s s' : σ}
    (h : Ends (r.retain wanted taken live) s kept s') :
    ∃ vs, Survey r desired taken s vs s' ∧ vs.map (·.resource) = live ∧
      kept = vs.filterMap (·.verdict.updated?) ∧
      ∀ steps, Ends (r.recorded.retain wanted taken live) (s, steps) kept
        (s', steps ++ vs.flatMap Visit.steps) := by
  induction live generalizing taken s kept with
  | nil =>
    obtain ⟨rfl, rfl⟩ := ends_pure.1 h
    exact ⟨[], .done, rfl, rfl, fun steps => ends_pure.2 ⟨rfl, by simp⟩⟩
  | cons x rest ih =>
    rcases hmatch : r.match? wanted taken x with _ | d
    · -- Nothing desired matches: the visit is a deletion.
      obtain ⟨s1, hdelete, hrest⟩ := (ends_retain_of_none hmatch).1 h
      obtain ⟨vs, hsurvey, hlive, hkept, hcalls⟩ := ih hrest
      have hunwanted := (match?_eq_none hgroups).1 hmatch
      refine ⟨⟨x, s, .unwanted⟩ :: vs, .unwanted hunwanted hdelete hsurvey, congrArg _ hlive, hkept,
        fun steps => (ends_retain_of_none ((recorded_match? ..).trans hmatch)).2 ?_⟩
      rw [List.flatMap_cons, ← List.append_assoc]
      exact ⟨_, ends_recorded_delete steps hdelete, hcalls _⟩
    · -- A match is asked about, and then deleted or updated.
      obtain ⟨hfree, hd⟩ := (match?_eq_some hgroups).1 hmatch
      have hmatch' := (recorded_match? wanted taken x).trans hmatch
      rcases (ends_retain_of_some hmatch).1 h with ⟨s1, s2, hkeeps, hdelete, hrest⟩ |
        ⟨s1, y, s2, more, hkeeps, hupdate, hrest, rfl⟩
      · obtain ⟨vs, hsurvey, hlive, hkept, hcalls⟩ := ih hrest
        refine ⟨⟨x, s, .refused d⟩ :: vs, .refused hfree hd hkeeps hdelete hsurvey,
          congrArg _ hlive, hkept, fun steps => (ends_retain_of_some hmatch').2 (.inl ?_)⟩
        rw [List.flatMap_cons, ← List.append_assoc, Visit.steps, List.append_cons]
        exact ⟨_, _, ends_recorded_keeps steps hkeeps, ends_recorded_delete _ hdelete, hcalls _⟩
      · obtain ⟨vs, hsurvey, hlive, rfl, hcalls⟩ := ih hrest
        refine ⟨⟨x, s, .retained d y⟩ :: vs, .retained hfree hd hkeeps hupdate hsurvey,
          congrArg _ hlive, rfl, fun steps => (ends_retain_of_some hmatch').2 (.inr ?_)⟩
        rw [List.flatMap_cons, ← List.append_assoc, Visit.steps, List.append_cons]
        exact ⟨_, y, _, _, ends_recorded_keeps steps hkeeps, ends_recorded_update _ hupdate,
          hcalls _, rfl⟩

/-! ### What is retained -/

/-- A resource is retained exactly if its place is free, nothing was retained there before, and what
is desired there can be kept when its turn comes. -/
theorem Survey.isRetained_iff {taken : List (String × String)} {s s' : σ} {vs : List (Visit σ D R)}
    (h : Survey r desired taken s vs s') {before after : List (Visit σ D R)} {v : Visit σ D R}
    (hvs : vs = before ++ v :: after) :
    v.isRetained = true ↔ (r.place v.resource ∉ taken ∧
      ∀ u ∈ before, u.isRetained = true → r.place u.resource ≠ r.place v.resource) ∧
      ∃ d, r.desiredAt desired (r.zoneOf v.resource) (r.nameOf v.resource) = some d ∧
        ∃ t, Ends (r.keeps v.resource d) v.before true t := by
  -- By the visits in order: the visit is the first one, or the list goes on with its place taken.
  induction h generalizing before with
  | done => cases before <;> cases hvs
  | unwanted hunwanted hdelete rest ih =>
    cases before with
    | nil =>
      cases hvs
      refine iff_of_false nofun ?_
      -- The place is taken, or nothing is desired there.
      rintro ⟨⟨hfree, -⟩, d, hd, -⟩
      rcases hunwanted with htaken | hnone
      · exact hfree htaken
      · rw [hnone] at hd
        cases hd
    | cons u before =>
      cases hvs
      rw [ih rfl, List.forall_mem_cons]
      exact and_congr_left fun _ => and_congr_right fun _ => (and_iff_right nofun).symm
  | refused hfree hd hkeeps hdelete rest ih =>
    cases before with
    | nil =>
      cases hvs
      refine iff_of_false nofun ?_
      -- What is desired there was asked for, and the answer was no.
      rintro ⟨-, d', hd', t, hkeeps'⟩
      cases hd.symm.trans hd'
      cases (hkeeps.unique hkeeps').1
    | cons u before =>
      cases hvs
      rw [ih rfl, List.forall_mem_cons]
      exact and_congr_left fun _ => and_congr_right fun _ => (and_iff_right nofun).symm
  | retained hfree hd hkeeps hupdate rest ih =>
    cases before with
    | nil =>
      cases hvs
      exact iff_of_true rfl ⟨⟨hfree, nofun⟩, _, hd, _, hkeeps⟩
    | cons u before =>
      cases hvs
      rw [ih rfl, List.forall_mem_cons, List.mem_cons, not_or]
      -- From here on, the retained resource has taken its place.
      refine and_congr_left fun _ => ?_
      constructor
      · rintro ⟨⟨hne, hfree'⟩, hbefore⟩
        exact ⟨hfree', fun _ => Ne.symm hne, hbefore⟩
      · rintro ⟨hfree', hne, hbefore⟩
        exact ⟨⟨Ne.symm (hne rfl), hfree'⟩, hbefore⟩

/-- The places of the resources that are retained. -/
def Reconciler.retainedPlaces (r : Reconciler (Acting ε σ) ε D R) (vs : List (Visit σ D R)) :
    List (String × String) :=
  (vs.filter (·.isRetained)).map fun v => r.place v.resource

/-- No place is retained twice, and none that was taken. -/
theorem Survey.nodup_retainedPlaces {taken : List (String × String)} {s s' : σ}
    {vs : List (Visit σ D R)} (h : Survey r desired taken s vs s') :
    (r.retainedPlaces vs).Nodup ∧ ∀ p ∈ r.retainedPlaces vs, p ∉ taken := by
  induction h with
  | done => exact ⟨List.nodup_nil, nofun⟩
  | unwanted _ _ _ ih => exact ih
  | refused _ _ _ _ _ ih => exact ih
  | retained hfree _ _ _ _ ih =>
    obtain ⟨hnodup, hfree'⟩ := ih
    refine ⟨List.nodup_cons.2 ⟨fun hmem => hfree' _ hmem List.mem_cons_self, hnodup⟩,
      List.forall_mem_cons.2 ⟨hfree, fun p hp => ?_⟩⟩
    exact fun htaken => hfree' p hp (List.mem_cons_of_mem _ htaken)

/-- Where updating leaves resources at their places, the updated ones are at the places retained. -/
theorem Survey.map_place_updated
    (hupdate : ∀ x d s y s', Ends (r.update x d) s y s' → r.place y = r.place x)
    {taken : List (String × String)} {s s' : σ} {vs : List (Visit σ D R)}
    (h : Survey r desired taken s vs s') :
    (vs.filterMap (·.verdict.updated?)).map r.place = r.retainedPlaces vs := by
  induction h with
  | done => rfl
  | unwanted _ _ _ ih => exact ih
  | refused _ _ _ _ _ ih => exact ih
  | retained _ _ _ hupdated _ ih => exact congr (congrArg _ (hupdate _ _ _ _ _ hupdated)) ih

/-- A place is retained only if something is desired there. -/
theorem Survey.exists_desired {taken : List (String × String)} {s s' : σ}
    {vs : List (Visit σ D R)} (h : Survey r desired taken s vs s') {zone name : String}
    (hplace : (zone, name) ∈ r.retainedPlaces vs) :
    ∃ i d, (r.desiredIn zone desired)[i]? = some d ∧ r.desiredName i = name := by
  obtain ⟨v, hv, heq⟩ := List.mem_map.1 hplace
  obtain ⟨hv, hretained⟩ := List.mem_filter.1 hv
  obtain ⟨before, after, hvs⟩ := List.append_of_mem hv
  obtain ⟨-, d, hd, -⟩ := (h.isRetained_iff hvs).1 hretained
  cases heq
  obtain ⟨i, hi⟩ := Reconciler.desiredAt_eq_some hd
  exact ⟨i, d, hi⟩

end

/-! ## Creating what is missing -/

/-- A resource that was created, and for what. -/
structure Creation (D R : Type) where
  zone : String
  name : String
  desired : D
  made : R

namespace Creation

variable {D R : Type}

/-- What was to be created. -/
def target (k : Creation D R) : String × String × D := (k.zone, k.name, k.desired)

/-- The place where it was to be created. -/
def place (k : Creation D R) : String × String := (k.zone, k.name)

/-- The call that created it. -/
def step (k : Creation D R) : Step D R := .created k.zone k.name k.desired k.made

/-- What a call creates. -/
def ofStep? : Step D R → Option (Creation D R)
  | .created zone name desired made => some ⟨zone, name, desired, made⟩
  | _ => none

/-- Creations can be told from their calls. -/
theorem filterMap_ofStep?_step (ks : List (Creation D R)) :
    (ks.map Creation.step).filterMap ofStep? = ks := by
  rw [List.filterMap_map]
  exact List.filterMap_some

end Creation

/-- Visits create nothing. -/
theorem Visit.filterMap_ofStep?_steps {σ D R : Type} (vs : List (Visit σ D R)) :
    (vs.flatMap Visit.steps).filterMap Creation.ofStep? = [] := by
  refine List.filterMap_eq_nil_iff.2 fun step hstep => ?_
  obtain ⟨⟨x, t, verdict⟩, -, hmem⟩ := List.mem_flatMap.1 hstep
  cases verdict <;> simp only [Visit.steps, List.mem_cons, List.not_mem_nil, or_false] at hmem
  · rw [hmem]
    rfl
  all_goals rcases hmem with rfl | rfl <;> rfl

section

variable {ε σ D R : Type} {r : Reconciler (Acting ε σ) ε D R}

/-- Resources are created one after the other. -/
inductive Makes (r : Reconciler (Acting ε σ) ε D R) : σ → List (Creation D R) → σ → Prop
  | done {s : σ} : Makes r s [] s
  | made {s s1 s' : σ} {k ks} (created : Ends (r.create k.zone k.name k.desired) s k.made s1)
    (rest : Makes r s1 ks s') : Makes r s (k :: ks) s'

/-- Each of the resources is created from some state. -/
theorem Makes.ends {ks : List (Creation D R)} {s s' : σ} (h : Makes r s ks s') :
    ∀ k ∈ ks, ∃ t t', Ends (r.create k.zone k.name k.desired) t k.made t' := by
  induction h with
  | done => exact List.forall_mem_nil _
  | made hcreate _ ih => exact List.forall_mem_cons.2 ⟨⟨_, _, hcreate⟩, ih⟩

/-- Each of the resources is created by one call. -/
theorem Makes.recorded {ks : List (Creation D R)} {s s' : σ} (h : Makes r s ks s')
    (steps : List (Step D R)) :
    Ends ((ks.map Creation.target).mapM' fun t => r.recorded.create t.1 t.2.1 t.2.2) (s, steps)
      (ks.map (·.made)) (s', steps ++ ks.map Creation.step) := by
  induction h generalizing steps with
  | done => exact ends_pure.2 ⟨rfl, by rw [List.map_nil, List.append_nil]⟩
  | made hcreate _ ih =>
    refine ends_bind.2 ⟨_, _, Reconciler.ends_recorded_create steps hcreate, ?_⟩
    refine ends_bind.2 ⟨_, _, ih _, ends_pure.2 ⟨rfl, ?_⟩⟩
    rw [List.map_cons, List.append_cons]
    rfl

/-- Resources that are what is missing are created by one call each. -/
theorem Makes.createMissing_recorded {ks : List (Creation D R)} {s s' : σ} (h : Makes r s ks s')
    {taken : List (String × String)} {ts : List (String × String × D)}
    (htargets : ks.map Creation.target = ts.filter fun t => (t.1, t.2.1) ∉ taken)
    (steps : List (Step D R)) :
    Ends (r.recorded.createMissing taken ts) (s, steps) (ks.map (·.made))
      (s', steps ++ ks.map Creation.step) := by
  rw [Reconciler.createMissing_eq, ← htargets]
  exact h.recorded steps

/-- Creating one resource for each target makes them all. -/
theorem Reconciler.createAll_makes {ts : List (String × String × D)} {made : List R} {s s' : σ}
    (h : Ends (ts.mapM' fun t => r.create t.1 t.2.1 t.2.2) s made s') :
    ∃ ks, Makes r s ks s' ∧ made = ks.map (·.made) ∧ ks.map Creation.target = ts := by
  induction ts generalizing s made with
  | nil =>
    obtain ⟨rfl, rfl⟩ := ends_pure.1 h
    exact ⟨[], .done, rfl, rfl⟩
  | cons t rest ih =>
    obtain ⟨zone, name, d⟩ := t
    obtain ⟨y, s1, hcreate, h⟩ := ends_bind.1 h
    obtain ⟨more, _, hrest, h⟩ := ends_bind.1 h
    obtain ⟨rfl, rfl⟩ := ends_pure.1 h
    obtain ⟨ks, hmakes, rfl, htargets⟩ := ih hrest
    exact ⟨⟨zone, name, d, y⟩ :: ks, .made hcreate hmakes, rfl, congrArg _ htargets⟩

/-- Creating what is missing makes the targets whose places are not taken. -/
theorem Reconciler.createMissing_makes {taken : List (String × String)}
    {ts : List (String × String × D)} {made : List R} {s s' : σ}
    (h : Ends (r.createMissing taken ts) s made s') :
    ∃ ks, Makes r s ks s' ∧ made = ks.map (·.made) ∧
      ks.map Creation.target = ts.filter fun t => (t.1, t.2.1) ∉ taken := by
  rw [createMissing_eq] at h
  exact createAll_makes h

end

/-! ## The chronicle of a run -/

/-- What is to be told of a run: the listing, the visits, and the creations. -/
structure Chronicle (σ D R : Type) where
  live : List R
  visits : List (Visit σ D R)
  creations : List (Creation D R)

namespace Chronicle

variable {ε σ D R : Type}

/-- The calls of the run, in order: whatever is kept or deleted is so before anything is created. -/
def steps (a : Chronicle σ D R) : List (Step D R) :=
  .listed a.live :: a.visits.flatMap Visit.steps ++ a.creations.map Creation.step

/-- What the run returns. -/
def result (a : Chronicle σ D R) : List R :=
  a.visits.filterMap (·.verdict.updated?) ++ a.creations.map (·.made)

/-- The places that the run leaves filled. -/
def places (r : Reconciler (Acting ε σ) ε D R) (a : Chronicle σ D R) : List (String × String) :=
  r.retainedPlaces a.visits ++ a.creations.map Creation.place

/-- The chronicle is one of a run toward what is desired, from one state to another. -/
structure Holds (r : Reconciler (Acting ε σ) ε D R) (desired : List D) (s s' : σ)
    (a : Chronicle σ D R) : Prop where
  calls : Ends (r.recorded.ensure desired) (s, []) a.result (s', a.steps)
  visits : ∃ s1 s2, Ends r.list s a.live s1 ∧ Survey r desired [] s1 a.visits s2 ∧
    a.visits.map (·.resource) = a.live
  creations : ∀ k ∈ a.creations, ∃ t t', Ends (r.create k.zone k.name k.desired) t k.made t'
  targets : ∃ wanted, r.groups desired = .ok wanted ∧ a.creations.map Creation.target =
    (r.targets wanted).filter fun t => (t.1, t.2.1) ∉ r.retainedPlaces a.visits

end Chronicle

section

variable {ε σ D R : Type} {r : Reconciler (Acting ε σ) ε D R} {desired : List D} {s s' : σ}

/-- A run returns exactly if its parts do: all desired resources have zones, what is listed is
retained or deleted, and what is missing is made. -/
theorem Reconciler.ends_ensure_iff {result : List R} : Ends (r.ensure desired) s result s' ↔
    ∃ wanted live s1 kept s2 made, r.groups desired = .ok wanted ∧ Ends r.list s live s1 ∧
      Ends (r.retain wanted [] live) s1 kept s2 ∧
      Ends (r.createMissing (kept.map fun k => (r.zoneOf k, r.nameOf k)) (r.targets wanted)) s2
        made s' ∧
      result = kept ++ made := by
  unfold ensure
  constructor
  · intro h
    cases hgroups : r.groups desired with
    | error e =>
      rw [hgroups] at h
      obtain ⟨_, _, h, -⟩ := ends_bind.1 h
      exact (ends_throw h).elim
    | ok wanted =>
      rw [hgroups] at h
      obtain ⟨_, _, hpure, hrun⟩ := ends_bind.1 h
      obtain ⟨rfl, rfl⟩ := ends_pure.1 hpure
      -- Listing, retaining and creating follow one another.
      obtain ⟨live, s1, hlist, hrun⟩ := ends_bind.1 hrun
      obtain ⟨kept, s2, hretain, hrun⟩ := ends_bind.1 hrun
      obtain ⟨made, s3, hmissing, hrun⟩ := ends_bind.1 hrun
      obtain ⟨rfl, rfl⟩ := ends_pure.1 hrun
      exact ⟨_, live, s1, kept, s2, made, rfl, hlist, hretain, hmissing, rfl⟩
  · rintro ⟨wanted, live, s1, kept, s2, made, hgroups, hlist, hretain, hmissing, rfl⟩
    rw [hgroups]
    refine ends_bind.2 ⟨wanted, s, ends_pure.2 ⟨rfl, rfl⟩, ends_bind.2 ⟨live, s1, hlist, ?_⟩⟩
    refine ends_bind.2 ⟨kept, s2, hretain, ends_bind.2 ⟨made, s', hmissing, ?_⟩⟩
    exact ends_pure.2 ⟨rfl, rfl⟩

/-- There is a chronicle of every run that returns. -/
theorem Reconciler.exists_chronicle
    (hupdate : ∀ x d s y s', Ends (r.update x d) s y s' → r.place y = r.place x)
    {result : List R} (h : Ends (r.ensure desired) s result s') :
    ∃ a : Chronicle σ D R, a.Holds r desired s s' ∧ result = a.result := by
  obtain ⟨wanted, live, s1, kept, s2, made, hgroups, hlist, hretain, hmissing, rfl⟩ :=
    ends_ensure_iff.1 h
  obtain ⟨vs, hsurvey, hlive, rfl, hcalls⟩ := retain_survey hgroups hretain
  obtain ⟨ks, hmakes, rfl, htargets⟩ := createMissing_makes hmissing
  have hcalls' := hmakes.createMissing_recorded htargets
  -- What is kept is at the same places before and after its update.
  have hplaces : (vs.filterMap (·.verdict.updated?)).map (fun k => (r.zoneOf k, r.nameOf k)) =
      r.retainedPlaces vs := hsurvey.map_place_updated hupdate
  rw [hplaces] at htargets
  refine ⟨⟨live, vs, ks⟩, ⟨?_, ⟨s1, s2, hlist, hsurvey, hlive⟩, hmakes.ends, wanted, hgroups,
    htargets⟩, rfl⟩
  -- The recorded run goes through the same phases.
  have hgroups' : r.recorded.groups desired = .ok wanted := hgroups
  exact ends_ensure_iff.2 ⟨wanted, live, _, _, _, _, hgroups', ends_recorded_list [] hlist,
    hcalls _, hcalls' _, rfl⟩

/-! ### What a chronicle says -/

namespace Chronicle

/-- What is picked from the calls of a run, but neither from the listing nor from a creation, is
picked visit by visit. -/
theorem filterMap_steps {β : Type} (a : Chronicle σ D R) {pick : Step D R → Option β}
    (hlisted : ∀ live, pick (.listed live) = none)
    (hcreated : ∀ k : Creation D R, pick k.step = none) :
    a.steps.filterMap pick = a.visits.flatMap fun v => v.steps.filterMap pick := by
  have hcreations : (a.creations.map Creation.step).filterMap pick = [] := by
    rw [List.filterMap_map]
    exact List.filterMap_eq_nil_iff.2 fun k _ => hcreated k
  unfold steps
  rw [List.filterMap_append, List.filterMap_cons_none (hlisted a.live), hcreations, List.append_nil,
    List.filterMap_flatMap]

/-- Deleted are those that are not retained, each once. -/
theorem deletions (a : Chronicle σ D R) :
    a.steps.filterMap Step.deletion? =
      (a.visits.filter (!·.isRetained)).map (·.resource) := by
  rw [a.filterMap_steps (fun _ => rfl) fun _ => rfl]
  induction a.visits with
  | nil => rfl
  | cons v rest ih =>
    rw [List.flatMap_cons, ih]
    obtain ⟨x, t, verdict⟩ := v
    cases verdict <;> rfl

/-- What the calls create is what the chronicle says. -/
theorem creations_of_steps (a : Chronicle σ D R) :
    a.steps.filterMap Creation.ofStep? = a.creations := by
  unfold steps
  rw [List.filterMap_append, List.filterMap_cons, Visit.filterMap_ofStep?_steps,
    Creation.filterMap_ofStep?_step]
  rfl

variable {a : Chronicle σ D R}

/-- Created is what is desired at places where nothing is retained. -/
theorem Holds.mem_creations (h : a.Holds r desired s s') {zone name : String} {d : D} :
    (∃ k ∈ a.creations, k.target = (zone, name, d)) ↔
      (∃ i, (r.desiredIn zone desired)[i]? = some d ∧ r.desiredName i = name) ∧
        (zone, name) ∉ r.retainedPlaces a.visits := by
  obtain ⟨wanted, hgroups, htargets⟩ := h.targets
  rw [← List.mem_map, htargets, List.mem_filter, decide_eq_true_iff,
    Reconciler.mem_targets hgroups]

/-- No two creations are at one place. -/
theorem Holds.nodup_creations (hname : Function.Injective r.desiredName)
    (h : a.Holds r desired s s') : (a.creations.map Creation.place).Nodup := by
  obtain ⟨wanted, hgroups, htargets⟩ := h.targets
  have hplaces : a.creations.map Creation.place =
      (a.creations.map Creation.target).map fun t => (t.1, t.2.1) := by
    rw [List.map_map]
    rfl
  rw [hplaces, htargets]
  exact (Reconciler.nodup_targets hname hgroups).sublist (List.filter_sublist.map _)

/-- The places that are filled in the end are the desired ones. -/
theorem Holds.mem_places (h : a.Holds r desired s s') {zone name : String} :
    (zone, name) ∈ a.places r ↔
      ∃ i < (r.desiredIn zone desired).length, r.desiredName i = name := by
  obtain ⟨s1, s2, -, hsurvey, -⟩ := h.visits
  have hcreated : (zone, name) ∈ a.creations.map Creation.place ↔
      ∃ d, ∃ k ∈ a.creations, k.target = (zone, name, d) := by
    rw [List.mem_map]
    constructor
    · rintro ⟨k, hk, heq⟩
      cases heq
      exact ⟨k.desired, k, hk, rfl⟩
    · rintro ⟨d, k, hk, heq⟩
      cases heq
      exact ⟨k, hk, rfl⟩
  unfold places
  rw [List.mem_append, hcreated]
  constructor
  · -- Only desired places are filled, by what was retained or by what was created.
    rintro (hretained | ⟨d, hk⟩)
    · obtain ⟨i, d, hi, hname⟩ := hsurvey.exists_desired hretained
      exact ⟨i, (List.getElem?_eq_some_iff.1 hi).1, hname⟩
    · obtain ⟨⟨i, hi, hname⟩, -⟩ := h.mem_creations.1 hk
      exact ⟨i, (List.getElem?_eq_some_iff.1 hi).1, hname⟩
  · rintro ⟨i, hi, hname⟩
    -- A desired place that nothing was retained at is one that is created.
    by_cases hretained : (zone, name) ∈ r.retainedPlaces a.visits
    · exact .inl hretained
    · exact .inr ⟨_, h.mem_creations.2 ⟨⟨i, List.getElem?_eq_getElem hi, hname⟩, hretained⟩⟩

/-- No place is filled twice. -/
theorem Holds.nodup_places (hname : Function.Injective r.desiredName)
    (h : a.Holds r desired s s') : (a.places r).Nodup := by
  obtain ⟨s1, s2, -, hsurvey, -⟩ := h.visits
  refine List.nodup_append'.2 ⟨hsurvey.nodup_retainedPlaces.1, h.nodup_creations hname, ?_⟩
  rintro ⟨zone, name⟩ hretained hcreated
  obtain ⟨k, hk, heq⟩ := List.mem_map.1 hcreated
  cases heq
  exact (h.mem_creations.1 ⟨k, hk, rfl⟩).2 hretained

/-- Where creating puts resources where it is told to, the result is at the places. -/
theorem Holds.map_place_result
    (hupdate : ∀ x d s y s', Ends (r.update x d) s y s' → r.place y = r.place x)
    (hcreate : ∀ zone name d s y s', Ends (r.create zone name d) s y s' → r.place y = (zone, name))
    (h : a.Holds r desired s s') : a.result.map r.place = a.places r := by
  obtain ⟨s1, s2, -, hsurvey, -⟩ := h.visits
  unfold result places
  rw [List.map_append, hsurvey.map_place_updated hupdate, List.map_map]
  refine congrArg _ (List.map_congr_left fun k hk => ?_)
  obtain ⟨t, t', hmade⟩ := h.creations k hk
  exact hcreate _ _ _ _ _ _ hmade

/-- Two runs toward the same, in whatever order it is listed or declared, fill the same places. -/
theorem Holds.places_perm (hname : Function.Injective r.desiredName) {b : Chronicle σ D R}
    {desired' : List D} {t t' : σ} (hperm : desired'.Perm desired) (h : a.Holds r desired s s')
    (h' : b.Holds r desired' t t') : (b.places r).Perm (a.places r) := by
  refine (List.perm_ext_iff_of_nodup (h'.nodup_places hname) (h.nodup_places hname)).2 ?_
  rintro ⟨zone, name⟩
  have hlength : (r.desiredIn zone desired').length = (r.desiredIn zone desired).length :=
    (hperm.filter _).length_eq
  rw [h.mem_places, h'.mem_places, hlength]

end Chronicle

/-- What a run does when it returns, whatever there was and whatever is desired. The chronicle of it
lists its calls: one for the listing, then those of the visits, then the creations.

A listed resource is retained exactly if it has the zone of some desired ones and the name of the
position of one among these, can be kept for that one when its turn comes, and no earlier one at the
same place was retained; all others are deleted, each once. Created is, once each, what is desired at
a place where nothing was retained. The result is what was retained, as updated, and then what was
created. The places filled are the desired ones, each once; if creating puts resources where it is
told to, they are those of the result, and the order of the listing and of what is desired makes no
difference to them. -/
theorem Reconciler.ensure_meets_demand (hname : Function.Injective r.desiredName)
    (hupdate : ∀ x d s y s', Ends (r.update x d) s y s' → r.place y = r.place x)
    {result : List R} (h : Ends (r.ensure desired) s result s') :
    ∃ a : Chronicle σ D R, result = a.result ∧
      Ends (r.recorded.ensure desired) (s, []) result (s', a.steps) ∧
      (∃ s1 s2, Ends r.list s a.live s1 ∧ Survey r desired [] s1 a.visits s2 ∧
        a.visits.map (·.resource) = a.live) ∧
      (∀ before v after, a.visits = before ++ v :: after →
        (v.isRetained = true ↔
          (∃ i d, (r.desiredIn (r.zoneOf v.resource) desired)[i]? = some d ∧
            r.desiredName i = r.nameOf v.resource ∧
            ∃ t, Ends (r.keeps v.resource d) v.before true t) ∧
          ∀ u ∈ before, u.isRetained = true → r.place u.resource ≠ r.place v.resource)) ∧
      a.steps.filterMap Step.deletion? =
        (a.visits.filter (!·.isRetained)).map (·.resource) ∧
      a.steps.filterMap Creation.ofStep? = a.creations ∧
      (a.creations.map Creation.place).Nodup ∧
      (∀ zone name d, (∃ k ∈ a.creations, k.target = (zone, name, d)) ↔
        (∃ i, (r.desiredIn zone desired)[i]? = some d ∧ r.desiredName i = name) ∧
          (zone, name) ∉ r.retainedPlaces a.visits) ∧
      (a.places r).Nodup ∧
      (∀ zone name, (zone, name) ∈ a.places r ↔
        ∃ i < (r.desiredIn zone desired).length, r.desiredName i = name) ∧
      ((∀ zone name d s y s', Ends (r.create zone name d) s y s' → r.place y = (zone, name)) →
        result.map r.place = a.places r ∧
        ∀ desired' result' t t', desired'.Perm desired → Ends (r.ensure desired') t result' t' →
          (result'.map r.place).Perm (result.map r.place)) := by
  obtain ⟨a, ha, rfl⟩ := exists_chronicle hupdate h
  refine ⟨a, rfl, ha.calls, ha.visits, fun before v after hvs => ?_, a.deletions,
    a.creations_of_steps, ha.nodup_creations hname, fun _ _ _ => ha.mem_creations,
    ha.nodup_places hname, fun _ _ => ha.mem_places, fun hcreate => ⟨?_, ?_⟩⟩
  · -- At the start no place is taken; what is desired at a place is what its name's position has.
    obtain ⟨s1, s2, -, hsurvey, -⟩ := ha.visits
    rw [hsurvey.isRetained_iff hvs, and_comm, and_iff_right (List.not_mem_nil)]
    refine and_congr_left fun _ => ?_
    constructor
    · rintro ⟨d, hd, hkeeps⟩
      obtain ⟨i, hi, hi'⟩ := desiredAt_eq_some hd
      exact ⟨i, d, hi, hi', hkeeps⟩
    · rintro ⟨i, d, hi, hi', hkeeps⟩
      refine ⟨d, ?_, hkeeps⟩
      rw [← hi', desiredAt_desiredName hname, hi]
  · -- If creating puts a resource at the place it is given, the result is at the places of the
    -- chronicle.
    exact ha.map_place_result hupdate hcreate
  · -- A second run over the same desired resources has a chronicle of its own, with the same
    -- places.
    intro desired' result' t t' hperm h'
    obtain ⟨b, hb, rfl⟩ := exists_chronicle hupdate h'
    rw [ha.map_place_result hupdate hcreate, hb.map_place_result hupdate hcreate]
    exact ha.places_perm hname hperm hb

end

/-! ## A sample -/

namespace Sample

/-- Two things of one name, the first of them broken, and one that is not desired. -/
def shelf : Shelf where
  things := [⟨1, "z", "thing-0", 1⟩, ⟨2, "z", "thing-0", 1⟩, ⟨3, "z", "stale", 1⟩]
  broken := [1]

/-- The collection of the things of a shelf, with the names that they get by themselves. -/
def things : Reconciler Shelf.Work Failure ThingSpec Thing := Shelf.reconciler []

/-- The names of things by their position differ. -/
theorem things_desiredName_injective : Function.Injective things.desiredName := fun _ _ h =>
  Cloud.toString_injective ((String.append_right_inj _).1 h)

/-- Updating a thing leaves it in its place. -/
theorem things_update (x : Thing) (d : ThingSpec) (s : Shelf) (y : Thing) (s' : Shelf)
    (h : Ends (things.update x d) s y s') : things.place y = things.place x := by
  obtain ⟨_, _, -, h⟩ := ends_bind.1 h
  obtain ⟨_, _, -, h⟩ := ends_bind.1 h
  obtain ⟨rfl, -⟩ := ends_pure.1 h
  rfl

/-- The first of two things of one name is broken: a run on the shelf returns, by the steps of a
chronicle, and a desired thing of a new place is among its places. -/
theorem shelf_meets_demand : ∃ result s', ∃ a : Chronicle Shelf ThingSpec Thing,
    Ends (things.ensure [⟨"z", 1⟩, ⟨"y", 2⟩]) shelf result s' ∧
    Ends (things.recorded.ensure [⟨"z", 1⟩, ⟨"y", 2⟩]) (shelf, []) result (s', a.steps) ∧
    (a.places things).Nodup ∧ ("y", "thing-0") ∈ a.places things := by
  have hok : ((things.ensure [⟨"z", 1⟩, ⟨"y", 2⟩]).run.run shelf).1.isOk = true := by decide +kernel
  rcases h : (things.ensure [⟨"z", 1⟩, ⟨"y", 2⟩]).run.run shelf with ⟨e | result, s'⟩
  · rw [h] at hok
    cases hok
  · obtain ⟨a, -, hcalls, -, -, -, -, -, -, hnodup, hplaces, -⟩ :=
      Reconciler.ensure_meets_demand things_desiredName_injective things_update h
    exact ⟨result, s', a, h, hcalls, hnodup, (hplaces "y" "thing-0").2 ⟨0, by decide, rfl⟩⟩

end Sample

end ControlPlane
