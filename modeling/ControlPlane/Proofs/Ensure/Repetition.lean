import ControlPlane.Proofs.Ensure.Log

/-!
# Running the ensurer again

A resource is settled for a desired one if it can be kept for it and updating changes nothing
(`Reconciler.Settled`). Where everything that is live is settled for what is desired at its place,
and every desired place is filled once, a run retains all and creates nothing
(`Reconciler.ensure_settled`). A run that returns leaves such a state, if what it creates and
updates is settled; so running again, toward the same in each zone, makes no difference
(`Reconciler.ensure_idempotent`).
-/

namespace ControlPlane

/-! ## Retaining all -/

section

variable {ε σ D R : Type} {r : Reconciler (Acting ε σ) ε D R} {desired : List D}
  {wanted : List (String × List D)} {taken : List (String × String)} {s s' : σ}

/-- What is surveyed is retained, or not, by going through a listing of it. -/
theorem Survey.ends_retain (hgroups : r.groups desired = .ok wanted) {vs : List (Visit σ D R)}
    (h : Survey r desired taken s vs s') :
    Ends (r.retain wanted taken (vs.map (·.resource))) s (vs.filterMap (·.verdict.updated?)) s' := by
  induction h with
  | done => exact ends_pure.2 ⟨rfl, rfl⟩
  | unwanted hunwanted hdelete _ ih =>
    have hmatch := (Reconciler.match?_eq_none hgroups).2 hunwanted
    exact (Reconciler.ends_retain_of_none hmatch).2 ⟨_, hdelete, ih⟩
  | refused hfree hd hkeeps hdelete _ ih =>
    have hmatch := (Reconciler.match?_eq_some hgroups).2 ⟨hfree, hd⟩
    exact (Reconciler.ends_retain_of_some hmatch).2 (.inl ⟨_, _, hkeeps, hdelete, ih⟩)
  | retained hfree hd hkeeps hupdate _ ih =>
    have hmatch := (Reconciler.match?_eq_some hgroups).2 ⟨hfree, hd⟩
    exact (Reconciler.ends_retain_of_some hmatch).2
      (.inr ⟨_, _, _, _, hkeeps, hupdate, ih, rfl⟩)

namespace Reconciler

/-- Nothing is created where all places are taken. -/
theorem createMissing_of_taken {ts : List (String × String × D)}
    (h : ∀ t ∈ ts, (t.1, t.2.1) ∈ taken) : r.createMissing taken ts = pure [] := by
  rw [createMissing_eq, List.filter_eq_nil_iff.2 fun t ht => by simpa using h t ht]
  rfl

variable {ι : Type} [DecidableEq ι] {valid : σ → Prop} {live : σ → List R} {id : R → ι}

/-- A resource can be kept for a desired one wherever it is live, and updating it then leaves it as
it is. -/
def Settled (r : Reconciler (Acting ε σ) ε D R) (valid : σ → Prop) (live : σ → List R) (x : R)
    (d : D) : Prop :=
  ∀ s, valid s → x ∈ live s → ∃ s1 s2, Ends (r.keeps x d) s true s1 ∧ Ends (r.update x d) s1 x s2

/-- A settled resource is kept without a change to what is live. -/
theorem Settled.leaves (hr : r.Reflects valid live id) {x : R} {d : D}
    (h : r.Settled valid live x d) (hs : valid s) (hx : x ∈ live s) :
    ∃ s1 s2, Ends (r.keeps x d) s true s1 ∧ Ends (r.update x d) s1 x s2 ∧ valid s2 ∧
      live s2 = live s := by
  obtain ⟨s1, s2, hkeeps, hupdate⟩ := h s hs hx
  obtain ⟨hs1, hlive1⟩ := hr.keeps hs hx hkeeps
  obtain ⟨hs2, -, -, hlive2⟩ := hr.update hs1 (hlive1 ▸ hx) hupdate
  refine ⟨s1, s2, hkeeps, hupdate, hs2, ?_⟩
  -- The resource is the only one with its id, so it is put in its own place.
  rw [hlive2, hlive1]
  refine (List.map_congr_left fun z hz => ?_).trans (List.map_id' _)
  by_cases hid : id z = id x
  · rw [if_pos hid, List.inj_on_of_nodup_map (hr.nodup hs) hz hx hid]
  · rw [if_neg hid]

/-- Settled resources at distinct free places are all retained. -/
theorem survey_settled (hr : r.Reflects valid live id) {l : List R} (hs : valid s)
    (hlive : ∀ x ∈ l, x ∈ live s) (hplaces : (l.map r.place).Nodup)
    (hfree : ∀ x ∈ l, r.place x ∉ taken)
    (hsettled : ∀ x ∈ l, ∃ d, r.desiredAt desired (r.place x).1 (r.place x).2 = some d ∧
      r.Settled valid live x d) :
    ∃ vs s', Survey r desired taken s vs s' ∧ vs.map (·.resource) = l ∧
      (∀ v ∈ vs, ∃ d, v.verdict = .retained d v.resource) ∧ valid s' ∧ live s' = live s := by
  induction l generalizing s taken with
  | nil => exact ⟨[], s, .done, rfl, nofun, hs, rfl⟩
  | cons x rest ih =>
    rw [List.forall_mem_cons] at hlive hfree hsettled
    rw [List.map_cons, List.nodup_cons] at hplaces
    obtain ⟨⟨d, hd, hx⟩, hsettled⟩ := hsettled
    -- The resource is kept and updated without a change, and what is live stays the same.
    obtain ⟨s1, s2, hkeeps, hupdate, hs2, hlive2⟩ := hx.leaves hr hs hlive.1
    -- Its place is taken from now on, and no resource that is left has the same.
    have hfree' : ∀ z ∈ rest, r.place z ∉ r.place x :: taken := fun z hz hmem => by
      rcases List.mem_cons.1 hmem with heq | hmem
      · exact hplaces.1 (heq ▸ List.mem_map_of_mem hz)
      · exact hfree.2 z hz hmem
    obtain ⟨vs, s', hsurvey, hvs, hretained, hs', hlive'⟩ :=
      ih hs2 (hlive2 ▸ hlive.2) hplaces.2 hfree' hsettled
    exact ⟨⟨x, s, .retained d x⟩ :: vs, s', .retained hfree.1 hd hkeeps hupdate hsurvey,
      congrArg _ hvs, List.forall_mem_cons.2 ⟨⟨d, rfl⟩, hretained⟩, hs', hlive'.trans hlive2⟩

/-- Where every desired place is filled once, by a resource that is settled for what is desired
there, a run retains all and creates nothing. -/
theorem ensure_settled (hr : r.Reflects valid live id)
    (hlists : ∀ s, valid s → ∃ l s', Ends r.list s l s') (hgroups : r.groups desired = .ok wanted)
    (hname : Function.Injective r.desiredName) (hs : valid s)
    (hplaces : ((live s).map r.place).Perm (r.places desired))
    (hsettled : ∀ x ∈ live s, ∃ d, r.desiredAt desired (r.place x).1 (r.place x).2 = some d ∧
      r.Settled valid live x d) :
    ∃ l s1 vs s', Ends r.list s l s1 ∧ Survey r desired [] s1 vs s' ∧ vs.map (·.resource) = l ∧
      (∀ v ∈ vs, ∃ d, v.verdict = .retained d v.resource) ∧ Ends (r.ensure desired) s l s' ∧
      valid s' ∧ live s' = live s ∧ l.Perm (live s) := by
  obtain ⟨l, s1, hlist⟩ := hlists s hs
  obtain ⟨hs1, hlive1, hl⟩ := hr.list hs hlist
  have hperm : (l.map r.place).Perm (r.places desired) := (hl.map r.place).trans hplaces
  have hfree : ∀ x ∈ l, r.place x ∉ [] := fun _ _ => List.not_mem_nil
  obtain ⟨vs, s', hsurvey, hvs, hretained, hs', hlive'⟩ :=
    survey_settled hr hs1 (fun x hx => hlive1 ▸ hl.mem_iff.1 hx)
      (hperm.nodup_iff.2 (nodup_places hname hgroups)) hfree
      (fun x hx => hsettled x (hl.mem_iff.1 hx))
  have hkept : vs.filterMap (·.verdict.updated?) = l := by
    rw [← hvs, ← List.filterMap_eq_map]
    refine List.filterMap_congr fun v hv => ?_
    obtain ⟨d, hd⟩ := hretained v hv
    rw [hd]
    rfl
  have htaken : ∀ t ∈ r.targets wanted, (t.1, t.2.1) ∈ l.map r.place := fun t ht => by
    rw [hperm.mem_iff, ← map_place_targets hgroups]
    exact List.mem_map_of_mem ht
  refine ⟨l, s1, vs, s', hlist, hsurvey, hvs, hretained, ?_, hs', hlive'.trans hlive1, hl⟩
  have hretain := hsurvey.ends_retain hgroups
  rw [hvs, hkept] at hretain
  -- Every place is taken, so nothing is missing.
  have hmissing : Ends (r.createMissing (l.map fun k => (r.zoneOf k, r.nameOf k)) (r.targets wanted))
      s' [] s' := by
    rw [show (l.map fun k => (r.zoneOf k, r.nameOf k)) = l.map r.place from rfl,
      createMissing_of_taken htaken]
    exact ends_pure.2 ⟨rfl, rfl⟩
  exact ends_ensure_iff.2 ⟨wanted, l, s1, l, s', [], hgroups, hlist, hretain, hmissing,
    (List.append_nil l).symm⟩

/-- What is settled stays settled where the steps are logged. -/
theorem Settled.logged {x : R} {d : D} (h : r.Settled valid live x d) :
    r.logged.Settled (valid ·.1) (live ·.1) x d := by
  rintro ⟨t, entries⟩ ht hx
  obtain ⟨t1, t2, hkeeps, hupdate⟩ := h t ht hx
  exact ⟨(t1, _), (t2, _), ends_logging.2 ⟨hkeeps, rfl⟩, ends_logging.2 ⟨hupdate, rfl⟩⟩

/-- What is desired at a place depends on what is desired in its zone only. -/
theorem desiredAt_congr {desired' : List D} {zone : String}
    (h : r.desiredIn zone desired' = r.desiredIn zone desired) (name : String) :
    r.desiredAt desired' zone name = r.desiredAt desired zone name := by
  unfold desiredAt
  rw [h]

/-- The places to fill depend, but for their order, on what is desired in each zone only. -/
theorem places_perm {desired' : List D} {wanted' : List (String × List D)}
    (hname : Function.Injective r.desiredName) (hgroups : r.groups desired = .ok wanted)
    (hgroups' : r.groups desired' = .ok wanted')
    (h : ∀ zone, r.desiredIn zone desired' = r.desiredIn zone desired) :
    (r.places desired').Perm (r.places desired) := by
  refine (List.perm_ext_iff_of_nodup (nodup_places hname hgroups')
    (nodup_places hname hgroups)).2 fun ⟨zone, name⟩ => ?_
  rw [mem_places hgroups', mem_places hgroups, h]

/-- Running again makes no difference, for a reconciler that reflects a store, can list it, and
whose names tell positions apart, if what was created or updated for a desired resource is settled
for it. After a run that returns, a second one toward resources that are the same in each zone,
whatever the order of the zones among them, returns the same resources up to their order. It makes
no calls but those that list, those that find a resource to be kept, and those that leave a resource
as it is. -/
theorem ensure_idempotent (hr : r.Reflects valid live id)
    (hlists : ∀ s, valid s → ∃ l s', Ends r.list s l s')
    (hsettles : ∀ y d, r.Made valid live y d → r.Settled valid live y d)
    (hname : Function.Injective r.desiredName) (hs : valid s) {result : List R}
    (h : Ends (r.ensure desired) s result s') {desired' : List D}
    (hzones : ∀ d ∈ desired', ∃ zone, r.desiredZone d = .ok zone)
    (hsame : ∀ zone, r.desiredIn zone desired' = r.desiredIn zone desired) :
    ∃ (result' : List R) (s'' : σ) (steps : List (Step D R)),
      Ends (r.ensure desired') s' result' s'' ∧
      Ends (r.logged.ensure desired') (s', []) result' (s'', steps.map .ended) ∧
      valid s'' ∧ live s'' = live s' ∧ result'.Perm result ∧
      ∀ step ∈ steps, (∃ l, step = .listed l) ∨
        ∃ x d, step = .asked x d true ∨ step = .updated x d x := by
  obtain ⟨wanted, -, -, -, -, -, hgroups, -⟩ := ensure_ends h
  obtain ⟨hs', hlive', hplaces, hmade⟩ := ensure_leaves hr hname hs h
  obtain ⟨wanted', hgroups'⟩ := exists_groups hzones
  -- After the first run all desired places are filled, also by the second declaration.
  have hfilled : ((live s').map r.place).Perm (r.places desired') :=
    ((hlive'.map r.place).trans hplaces).trans (places_perm hname hgroups hgroups' hsame).symm
  -- What the first run left is settled for what is desired at its place now.
  have hsettled : ∀ x ∈ live s', ∃ d,
      r.logged.desiredAt desired' (r.place x).1 (r.place x).2 = some d ∧
        r.logged.Settled (valid ·.1) (live ·.1) x d := fun x hx => by
    obtain ⟨d, hd, hmade⟩ := hmade x (hlive'.mem_iff.1 hx)
    refine ⟨d, ?_, (hsettles x d hmade).logged⟩
    rw [logged_desiredAt, desiredAt_congr (hsame _), hd]
  have hlists' : ∀ t, valid t.1 → ∃ l t', Ends r.logged.list t l t' := fun t ht => by
    obtain ⟨l, s1, hlist⟩ := hlists t.1 ht
    exact ⟨l, (s1, _), ends_logging.2 ⟨hlist, rfl⟩⟩
  -- So the second run lists, and updates each to itself.
  obtain ⟨l, t1, vs, ⟨s'', entries⟩, hlist, hsurvey, hvs, hretained, hrun, hs'', hlive'', hl⟩ :=
    ensure_settled (s := (s', [])) hr.logged hlists' hgroups' hname hs' hfilled hsettled
  -- Its log has the listing and the steps of these visits, and no more.
  have hlog : entries = ([Step.listed l] ++ vs.flatMap Visit.steps).map .ended := by
    rw [show entries = _ from hsurvey.log, (ends_logging.1 hlist).2, List.map_append]
    rfl
  subst hlog
  refine ⟨l, s'', _, (r.projects_ensure desired').ends hrun, hrun, hs'', hlive'', hl.trans hlive',
    List.forall_mem_append.2 ⟨fun step hstep => .inl ⟨l, List.mem_singleton.1 hstep⟩, ?_⟩⟩
  intro step hstep
  obtain ⟨⟨x, t, verdict⟩, hv, hstep⟩ := List.mem_flatMap.1 hstep
  obtain ⟨d, rfl⟩ : ∃ d, verdict = .retained d x := hretained _ hv
  refine .inr ⟨x, d, ?_⟩
  simpa [Visit.steps] using hstep

end Reconciler

end

/-! ## A sample -/

namespace Sample

variable {broken : List Int} {s s' : Shelf}

/-- What a shelf refuses nothing of can be begun. -/
theorem ends_begin_of_tidy (hs : s.Tidy [] broken) (a : ShelfAction) :
    Ends (Shelf.begin a) s () { s with record := s.record ++ [a] } := by
  unfold Ends
  rw [Shelf.run_begin, hs.refusals_eq]
  rfl

/-- Listing a tidy shelf returns. -/
theorem things_list (s : Shelf) (hs : s.Tidy [] broken) : ∃ l s', Ends things.list s l s' :=
  ⟨_, _, ends_bind.2 ⟨(), _, ends_begin_of_tidy hs _, rfl⟩⟩

/-- A thing of a tidy shelf is kept unless it is broken, and the shelf only records that it was
asked. -/
theorem things_keep (hs : s.Tidy [] broken) (x : Thing) (d : ThingSpec) :
    Ends (things.keeps x d) s (decide (x.id ∉ broken))
      { s with record := s.record ++ [.keep x.id d.size] } := by
  refine ends_bind.2 ⟨(), _, ends_begin_of_tidy hs _, ?_⟩
  rw [← hs.broken_eq]
  rfl

/-- Resizing a thing returns it with the new size. -/
theorem things_resize (hs : s.Tidy [] broken) (x : Thing) (d : ThingSpec) :
    ∃ s', Ends (things.update x d) s { x with size := d.size } s' :=
  ⟨_, ends_bind.2 ⟨(), _, ends_begin_of_tidy hs _, rfl⟩⟩

/-- A thing that was made is not broken, and has the size it is to have; so it is kept as it is. -/
theorem things_settled (y : Thing) (d : ThingSpec)
    (h : things.Made (Shelf.Tidy [] broken) Shelf.things y d) :
    things.Settled (Shelf.Tidy [] broken) Shelf.things y d := by
  -- However the thing was made, it is not a broken one and has the desired size.
  have hmade : y.id ∉ broken ∧ y = { y with size := d.size } := by
    cases h with
    | created hs h =>
      obtain ⟨_, s1, hbegin, h⟩ := ends_bind.1 h
      obtain rfl := Shelf.ends_begin hbegin
      cases h
      -- A new thing gets a number that was not given out, and broken ones had theirs.
      refine ⟨fun hbroken => ?_, rfl⟩
      exact absurd (hs.broken_given _ (hs.broken_eq ▸ hbroken)) (Int.lt_irrefl _)
    | @updated s s1 s2 x _ _ hs _ asked h =>
      obtain ⟨hkept, rfl⟩ := asked.unique (things_keep hs x d)
      obtain ⟨s', hupdate⟩ := things_resize (hs.begin _) x d
      obtain ⟨rfl, -⟩ := h.unique hupdate
      exact ⟨of_decide_eq_true hkept.symm, rfl⟩
  intro s hs _
  -- So keeping it is granted, and resizing it changes nothing.
  have hkeeps := things_keep hs y d
  rw [decide_eq_true hmade.1] at hkeeps
  obtain ⟨s2, hupdate⟩ := things_resize (hs.begin (.keep y.id d.size)) y d
  rw [← hmade.2] at hupdate
  exact ⟨_, s2, hkeeps, hupdate⟩

/-- A second run, with the desired things of different zones in another order, returns what the
first did and leaves the things as they are. -/
theorem shelf_settles : ∃ result s' result' s'',
    Ends (things.ensure [⟨"z", 1⟩, ⟨"y", 2⟩, ⟨"z", 3⟩]) shelf result s' ∧
    Ends (things.ensure [⟨"y", 2⟩, ⟨"z", 1⟩, ⟨"z", 3⟩]) s' result' s'' ∧
    s''.things = s'.things ∧ result'.Perm result := by
  have htidy : shelf.Tidy [] [1] := ⟨rfl, rfl, by decide, by decide, by decide⟩
  have hok : ((things.ensure [⟨"z", 1⟩, ⟨"y", 2⟩, ⟨"z", 3⟩]).run.run shelf).1.isOk = true := by
    decide +kernel
  rcases h : (things.ensure [⟨"z", 1⟩, ⟨"y", 2⟩, ⟨"z", 3⟩]).run.run shelf with ⟨e | result, s'⟩
  · rw [h] at hok
    cases hok
  · -- The two lists differ in the order of the zones, and not within one.
    have hsame : ∀ zone, things.desiredIn zone [⟨"y", 2⟩, ⟨"z", 1⟩, ⟨"z", 3⟩] =
        things.desiredIn zone [⟨"z", 1⟩, ⟨"y", 2⟩, ⟨"z", 3⟩] := by
      intro zone
      by_cases hz : "z" = zone
      · subst hz
        decide
      · simp [Reconciler.desiredIn, things, Shelf.reconciler, Shelf.desiredZone, List.filter_cons, hz]
    have hzones : ∀ d ∈ [⟨"y", 2⟩, ⟨"z", 1⟩, ⟨"z", 3⟩], ∃ zone, things.desiredZone d = .ok zone := by
      simp [things, Shelf.reconciler, Shelf.desiredZone]
    obtain ⟨result', s'', -, hrun, -, -, hthings, hperm, -⟩ :=
      Reconciler.ensure_idempotent (Shelf.reflects [] [] [1]) things_list things_settled
        things_desiredName_injective htidy h hzones hsame
    exact ⟨result, s', result', s'', h, hrun, hthings, hperm⟩

end Sample

end ControlPlane
