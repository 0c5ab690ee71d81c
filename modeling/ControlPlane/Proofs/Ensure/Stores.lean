import ControlPlane.Proofs.Ensure.Chronicle

/-!
# Reconcilers that reflect a store

`Reconciler.Reflects` states what the operations of a reconciler must do to the resources that are
live: a listing holds them all, updating keeps the id and the place of a resource, deleting removes
by id, creating adds a resource with a fresh id at the given place. A survey of what is live then
leaves what it retains (`Survey.leaves`), creating adds what it makes (`Makes.leaves`), and so a run
that returns leaves its result, which is at the desired places (`Reconciler.ensure_leaves`).

The places are in the order in which they are filled: zones by their first appearance, and in a zone
by position (`Reconciler.places`, `Reconciler.map_place_targets`).
-/

namespace ControlPlane

namespace Reconciler

variable {ε D R : Type}

/-! ## Places in order -/

section

variable {m : Type → Type} {r : Reconciler m ε D R}

/-- The zones of the desired resources, in the order of first appearance. -/
def zones (r : Reconciler m ε D R) (desired : List D) : List String :=
  (desired.filterMap fun d => (r.desiredZone d).toOption).eraseDups

/-- The places to fill, by zone and in a zone by position. -/
def places (r : Reconciler m ε D R) (desired : List D) : List (String × String) :=
  (r.zones desired).flatMap fun zone =>
    (List.range (r.desiredIn zone desired).length).map fun i => (zone, r.desiredName i)

/-- Inserting into a group keeps the zones in the order of their first resource. -/
theorem keys_insert (zone : String) (d : D) (acc : List (String × List D)) :
    (insert zone d acc).map (·.1) =
      if zone ∈ acc.map (·.1) then acc.map (·.1) else acc.map (·.1) ++ [zone] := by
  induction acc with
  | nil => rfl
  | cons entry rest ih =>
    obtain ⟨z, ds⟩ := entry
    unfold insert
    by_cases hz : z = zone
    · simp [hz]
    · rw [if_neg hz, List.map_cons, ih, List.map_cons]
      -- The zone has a group further on, or gets one at the end.
      by_cases hmem : zone ∈ rest.map (·.1)
      · rw [if_pos hmem, if_pos (List.mem_cons_of_mem _ hmem)]
      · have hnew : zone ∉ z :: rest.map (·.1) := List.not_mem_cons_of_ne_of_not_mem (Ne.symm hz) hmem
        rw [if_neg hmem, if_neg hnew]
        rfl

/-- Collecting adds the zones that are not there yet, each behind those before it. -/
theorem keys_foldlM {desired : List D} {acc wanted : List (String × List D)}
    (h : desired.foldlM (fun acc d => (r.desiredZone d).map (insert · d acc)) acc = .ok wanted) :
    wanted.map (·.1) = acc.map (·.1) ++
      ((desired.filterMap fun d => (r.desiredZone d).toOption).filter
        (· ∉ acc.map (·.1))).eraseDups := by
  induction desired generalizing acc with
  | nil =>
    cases h
    exact (List.append_nil _).symm
  | cons d rest ih =>
    rw [List.foldlM_cons] at h
    cases hd : r.desiredZone d with
    | error e =>
      rw [hd] at h
      cases h
    | ok z =>
      rw [hd] at h
      rw [ih h, keys_insert, List.filterMap_cons, hd]
      by_cases hz : z ∈ acc.map (·.1)
      · rw [if_pos hz]
        exact congrArg _ (congrArg _ (List.filter_cons_of_neg (by simpa using hz)).symm)
      · -- The zone is new, so it is dropped from what follows and stands before it.
        rw [if_neg hz]
        refine Eq.trans ?_ (congrArg (acc.map (·.1) ++ ·.eraseDups)
          (List.filter_cons_of_pos (by simpa using hz)).symm)
        rw [List.eraseDups_cons, List.filter_filter, List.append_assoc]
        refine congrArg _ (congrArg (z :: List.eraseDups ·) (List.filter_congr fun z' _ => ?_))
        rw [Bool.eq_iff_iff]
        simp [and_comm]

/-- The groups are those of the zones in order, each with what is desired in the zone. -/
theorem groups_eq {desired : List D} {wanted : List (String × List D)}
    (h : r.groups desired = .ok wanted) :
    wanted = (r.zones desired).map fun zone => (zone, r.desiredIn zone desired) := by
  have hkeys : wanted.map (·.1) = r.zones desired := by
    rw [keys_foldlM h]
    exact congrArg List.eraseDups (List.filter_eq_self.2 fun _ _ => rfl)
  have hgroup : ∀ entry ∈ wanted, (entry.1, r.desiredIn entry.1 desired) = entry := by
    rintro ⟨zone, ds⟩ hmem
    rw [← lookup_groups h, (lookup_eq_some_iff_mem (nodup_keys_groups h)).2 hmem]
    rfl
  rw [← hkeys, List.map_map]
  exact ((List.map_congr_left hgroup).trans (List.map_id' wanted)).symm

/-- The targets are at the places to fill, in order. -/
theorem map_place_targets {desired : List D} {wanted : List (String × List D)}
    (h : r.groups desired = .ok wanted) :
    (r.targets wanted).map (fun t => (t.1, t.2.1)) = r.places desired := by
  unfold targets places
  rw [groups_eq h, List.map_flatMap, List.flatMap_map]
  refine congrArg (List.flatMap · _) (funext fun zone => ?_)
  rw [List.range_eq_range', ← List.zipIdx_map_snd 0 (r.desiredIn zone desired), List.map_map,
    List.map_map]
  rfl

/-- The desired places are those of the positions in each zone's list. -/
theorem mem_places {desired : List D} {wanted : List (String × List D)}
    (h : r.groups desired = .ok wanted) {zone name : String} :
    (zone, name) ∈ r.places desired ↔
      ∃ i d, (r.desiredIn zone desired)[i]? = some d ∧ r.desiredName i = name := by
  rw [← map_place_targets h, List.mem_map]
  constructor
  · rintro ⟨⟨_, _, d⟩, hmem, heq⟩
    cases heq
    obtain ⟨i, hi⟩ := (mem_targets h).1 hmem
    exact ⟨i, d, hi⟩
  · rintro ⟨i, d, hi⟩
    exact ⟨(zone, name, d), (mem_targets h).2 ⟨i, hi⟩, rfl⟩

/-- No place is desired twice where positions have names of their own. -/
theorem nodup_places (hname : Function.Injective r.desiredName) {desired : List D}
    {wanted : List (String × List D)} (h : r.groups desired = .ok wanted) :
    (r.places desired).Nodup := by
  rw [← map_place_targets h]
  exact nodup_targets hname h

end

/-! ## Reflecting a store -/

variable {σ ι : Type} [DecidableEq ι]

/-- What the operations do to the resources that are live, wherever the state is valid. They keep it
so. Resources are told apart by their ids. -/
structure Reflects (r : Reconciler (Acting ε σ) ε D R) (valid : σ → Prop) (live : σ → List R)
    (id : R → ι) : Prop where
  /-- No two live resources have the same id. -/
  nodup : ∀ {s}, valid s → ((live s).map id).Nodup
  /-- A listing holds all live resources, in some order. -/
  list : ∀ {s l s'}, valid s → Ends r.list s l s' →
    valid s' ∧ live s' = live s ∧ l.Perm (live s)
  /-- Asking whether a resource can be kept changes none. -/
  keeps : ∀ {s x d answer s'}, valid s → x ∈ live s → Ends (r.keeps x d) s answer s' →
    valid s' ∧ live s' = live s
  /-- Updating changes the resource only, and neither its id nor its zone and name. -/
  update : ∀ {s x d y s'}, valid s → x ∈ live s → Ends (r.update x d) s y s' →
    valid s' ∧ id y = id x ∧ r.place y = r.place x ∧
      live s' = (live s).map fun z => if id z = id x then y else z
  /-- Deleting removes the resource with the id. -/
  delete : ∀ {s x s'}, valid s → x ∈ live s → Ends (r.delete x) s () s' →
    valid s' ∧ live s' = (live s).filter (id · ≠ id x)
  /-- Creating adds a resource with a fresh id and the given zone and name. -/
  create : ∀ {s zone name d y s'}, valid s → Ends (r.create zone name d) s y s' →
    valid s' ∧ id y ∉ (live s).map id ∧ r.place y = (zone, name) ∧ live s' = live s ++ [y]

section

variable {r : Reconciler (Acting ε σ) ε D R} {valid : σ → Prop} {live : σ → List R} {id : R → ι}
  {s s' : σ} {x y : R} {d : D} {rest : List R}

/-- The others of the live resources have other ids. -/
theorem Reflects.id_ne (hr : r.Reflects valid live id) (hs : valid s)
    (hlive : (live s).Perm (x :: rest)) : ∀ z ∈ rest, id z ≠ id x := by
  have hids : ((x :: rest).map id).Nodup := (hlive.map id).nodup_iff.1 (hr.nodup hs)
  rw [List.map_cons, List.nodup_cons] at hids
  exact fun z hz heq => hids.1 (heq ▸ List.mem_map_of_mem hz)

/-- Deleting a live resource leaves the others. -/
theorem Reflects.perm_delete (hr : r.Reflects valid live id) (hs : valid s)
    (hlive : (live s).Perm (x :: rest)) (h : Ends (r.delete x) s () s') :
    valid s' ∧ (live s').Perm rest := by
  obtain ⟨hvalid, hlive'⟩ := hr.delete hs (hlive.mem_iff.2 List.mem_cons_self) h
  have hothers : (x :: rest).filter (id · ≠ id x) = rest := by
    rw [List.filter_cons_of_neg (by simp)]
    exact List.filter_eq_self.2 fun z hz => decide_eq_true (hr.id_ne hs hlive z hz)
  refine ⟨hvalid, ?_⟩
  rw [hlive', ← hothers]
  exact hlive.filter _

/-- Updating a live resource leaves the others, and the resource as updated. -/
theorem Reflects.perm_update (hr : r.Reflects valid live id) (hs : valid s)
    (hlive : (live s).Perm (x :: rest)) (h : Ends (r.update x d) s y s') :
    valid s' ∧ r.place y = r.place x ∧ (live s').Perm (y :: rest) := by
  obtain ⟨hvalid, -, hplace, hlive'⟩ := hr.update hs (hlive.mem_iff.2 List.mem_cons_self) h
  have hothers : (x :: rest).map (fun z => if id z = id x then y else z) = y :: rest := by
    rw [List.map_cons, if_pos rfl]
    exact congrArg _ ((List.map_congr_left fun z hz => if_neg (hr.id_ne hs hlive z hz)).trans
      (List.map_id' rest))
  refine ⟨hvalid, hplace, ?_⟩
  rw [hlive', ← hothers]
  exact hlive.map _

end

/-- A resource was created for a desired one, or was updated for one that it could be kept for. -/
inductive Made (r : Reconciler (Acting ε σ) ε D R) (valid : σ → Prop) (live : σ → List R) :
    R → D → Prop
  | created {s s' zone name d y} (hs : valid s) (h : Ends (r.create zone name d) s y s') :
    Made r valid live y d
  | updated {s s1 s' x d y} (hs : valid s) (hx : x ∈ live s) (asked : Ends (r.keeps x d) s true s1)
    (h : Ends (r.update x d) s1 y s') : Made r valid live y d

end Reconciler

/-! ## What runs leave -/

section

variable {ε σ D R ι : Type} [DecidableEq ι] {r : Reconciler (Acting ε σ) ε D R}
  {valid : σ → Prop} {live : σ → List R} {id : R → ι} {s s' : σ} {desired : List D}
  {wanted : List (String × List D)} {taken : List (String × String)}

/-- A survey of live resources leaves those that it retains, as updated for what is desired at their
places, beside those that it does not visit. -/
theorem Survey.leaves (hr : r.Reflects valid live id) {vs : List (Visit σ D R)}
    (h : Survey r desired taken s vs s') (hs : valid s) {others : List R}
    (hlive : (live s).Perm (vs.map (·.resource) ++ others)) :
    valid s' ∧ (live s').Perm (vs.filterMap (·.verdict.updated?) ++ others) ∧
      (vs.filterMap (·.verdict.updated?)).map r.place = r.retainedPlaces vs ∧
      ∀ y ∈ vs.filterMap (·.verdict.updated?), ∃ d,
        r.desiredAt desired (r.place y).1 (r.place y).2 = some d ∧ r.Made valid live y d := by
  induction h generalizing others with
  | done => exact ⟨hs, hlive, rfl, nofun⟩
  | unwanted _ hdelete _ ih =>
    obtain ⟨hs1, hlive1⟩ := hr.perm_delete hs hlive hdelete
    exact ih hs1 hlive1
  | refused _ _ hkeeps hdelete _ ih =>
    obtain ⟨hs1, hlive1⟩ := hr.keeps hs (hlive.mem_iff.2 List.mem_cons_self) hkeeps
    obtain ⟨hs2, hlive2⟩ := hr.perm_delete hs1 (hlive1 ▸ hlive) hdelete
    exact ih hs2 hlive2
  | @retained _ _ _ _ _ x d y _ _ hd hkeeps hupdate _ ih =>
    have hx := hlive.mem_iff.2 List.mem_cons_self
    obtain ⟨hs1, hlive1⟩ := hr.keeps hs hx hkeeps
    obtain ⟨hs2, hplace, hlive2⟩ := hr.perm_update hs1 (hlive1 ▸ hlive) hupdate
    -- The resource as updated is one of those that the rest of the survey does not visit.
    obtain ⟨hs', hlive', hplaces, hmade⟩ := ih hs2 (hlive2.trans List.perm_middle.symm)
    refine ⟨hs', hlive'.trans List.perm_middle, congr (congrArg _ hplace) hplaces,
      List.forall_mem_cons.2 ⟨⟨d, ?_, .updated hs hx hkeeps hupdate⟩, hmade⟩⟩
    rw [hplace]
    exact hd

/-- What is created comes behind what is live, at its places, and for what it is created for. -/
theorem Makes.leaves (hr : r.Reflects valid live id) {ks : List (Creation D R)}
    (h : Makes r s ks s') (hs : valid s) :
    valid s' ∧ live s' = live s ++ ks.map (·.made) ∧
      (∀ k ∈ ks, r.place k.made = k.place ∧ r.Made valid live k.made k.desired) := by
  induction h with
  | done => exact ⟨hs, (List.append_nil _).symm, nofun⟩
  | made hcreate _ ih =>
    obtain ⟨hs1, -, hplace, hlive1⟩ := hr.create hs hcreate
    obtain ⟨hs', hlive', hmade⟩ := ih hs1
    refine ⟨hs', ?_, List.forall_mem_cons.2 ⟨⟨hplace, .created hs hcreate⟩, hmade⟩⟩
    rw [hlive', hlive1, List.map_cons, List.append_assoc]
    rfl

namespace Reconciler

/-- A run that returns surveys what is listed, and then makes what is missing. -/
theorem ensure_ends {result : List R} (h : Ends (r.ensure desired) s result s') :
    ∃ wanted l s1 vs s2 ks, r.groups desired = .ok wanted ∧ Ends r.list s l s1 ∧
      Survey r desired [] s1 vs s2 ∧ vs.map (·.resource) = l ∧ Makes r s2 ks s' ∧
      ks.map Creation.target = (r.targets wanted).filter (fun t =>
        (t.1, t.2.1) ∉ (vs.filterMap (·.verdict.updated?)).map r.place) ∧
      result = vs.filterMap (·.verdict.updated?) ++ ks.map (·.made) := by
  obtain ⟨wanted, l, s1, kept, s2, made, hgroups, hlist, hretain, hmissing, rfl⟩ :=
    ends_ensure_iff.1 h
  obtain ⟨vs, hsurvey, hlisted, rfl, -⟩ := retain_survey hgroups hretain
  obtain ⟨ks, hmakes, rfl, htargets⟩ := createMissing_makes hmissing
  exact ⟨wanted, l, s1, vs, s2, ks, hgroups, hlist, hsurvey, hlisted, hmakes, htargets, rfl⟩

/-- The places of the creations are those to fill that are not taken. -/
theorem map_place_creations (hgroups : r.groups desired = .ok wanted) {ks : List (Creation D R)}
    (h : ks.map Creation.target = (r.targets wanted).filter fun t => (t.1, t.2.1) ∉ taken) :
    ks.map Creation.place = (r.places desired).filter (· ∉ taken) := by
  have hplace := congrArg (List.map fun t => (t.1, t.2.1)) h
  rw [List.map_map] at hplace
  refine hplace.trans ?_
  rw [← map_place_targets hgroups, List.filter_map]
  rfl

/-- A run that returns leaves its result, which is at the desired places, each resource made for
what is desired at its place. -/
theorem ensure_leaves (hr : r.Reflects valid live id) (hname : Function.Injective r.desiredName)
    (hs : valid s) {result : List R} (h : Ends (r.ensure desired) s result s') :
    valid s' ∧ (live s').Perm result ∧ (result.map r.place).Perm (r.places desired) ∧
      ∀ y ∈ result, ∃ d,
        r.desiredAt desired (r.place y).1 (r.place y).2 = some d ∧ r.Made valid live y d := by
  obtain ⟨wanted, l, s1, vs, s2, ks, hgroups, hlist, hsurvey, rfl, hmakes, htargets, rfl⟩ :=
    ensure_ends h
  obtain ⟨hs1, hlive1, hlisted⟩ := hr.list hs hlist
  have hvisited : (live s1).Perm (vs.map (·.resource) ++ []) := by
    rw [hlive1, List.append_nil]
    exact hlisted.symm
  obtain ⟨hs2, hlive2, hretained, hupdated⟩ := hsurvey.leaves hr hs1 hvisited
  obtain ⟨hs', hlive', hmade⟩ := hmakes.leaves hr hs2
  rw [List.append_nil] at hlive2
  -- What is created is at the place of its target, and so as desired there.
  have hplaces : (ks.map (·.made)).map r.place = ks.map Creation.place := by
    rw [List.map_map]
    exact List.map_congr_left fun k hk => (hmade k hk).1
  have hdesired : ∀ k ∈ ks, r.desiredAt desired k.zone k.name = some k.desired := fun k hk => by
    have htarget : k.target ∈ r.targets wanted :=
      (List.mem_filter.1 (htargets ▸ List.mem_map_of_mem hk)).1
    obtain ⟨i, hi, hi'⟩ := (mem_targets hgroups).1 htarget
    rw [← hi', desiredAt_desiredName hname, hi]
  have hcreated : ∀ y ∈ ks.map (·.made), ∃ d,
      r.desiredAt desired (r.place y).1 (r.place y).2 = some d ∧ r.Made valid live y d := by
    refine List.forall_mem_map.2 fun k hk => ⟨k.desired, ?_, (hmade k hk).2⟩
    rw [(hmade k hk).1]
    exact hdesired k hk
  refine ⟨hs', hlive' ▸ hlive2.append_right _, ?_, List.forall_mem_append.2 ⟨hupdated, hcreated⟩⟩
  -- The places of the result are the retained ones and those that were left over, all of the
  -- desired ones.
  rw [List.map_append, hplaces, map_place_creations hgroups htargets, hretained]
  obtain ⟨hnodup, -⟩ := hsurvey.nodup_retainedPlaces
  have hsubset : ∀ p ∈ r.retainedPlaces vs, p ∈ r.places desired := fun p hp =>
    (mem_places hgroups).2 (hsurvey.exists_desired hp)
  refine (List.perm_ext_iff_of_nodup ?_ (nodup_places hname hgroups)).2 fun p => ?_
  · refine List.nodup_append'.2 ⟨hnodup, (nodup_places hname hgroups).filter _, ?_⟩
    exact fun p hp hp' => of_decide_eq_true (List.mem_filter.1 hp').2 hp
  · rw [List.mem_append, List.mem_filter, decide_eq_true_iff]
    by_cases hp : p ∈ r.retainedPlaces vs
    · exact iff_of_true (.inl hp) (hsubset p hp)
    · simp [hp]

end Reconciler

end

/-! ## Shelves -/

namespace Shelf

/-- A shelf with the given refusals and broken things, where ids are told apart and are not yet to
be given out. -/
structure Tidy (refusals : List Refusal) (broken : List Int) (s : Shelf) : Prop where
  refusals_eq : s.refusals = refusals
  broken_eq : s.broken = broken
  nodup : (s.things.map (·.id)).Nodup
  given : ∀ t ∈ s.things, t.id < s.nextId
  broken_given : ∀ i ∈ s.broken, i < s.nextId

/-- An action is recorded, whether it is refused or not. -/
theorem run_begin (a : ShelfAction) (s : Shelf) :
    (begin a).run.run s =
      (if s.refusals.any (·.covers a) then
        .error (.ofFault ⟨.crashed, .reported (a.word ++ " failed")⟩) else .ok (),
        { s with record := s.record ++ [a] }) := by
  show (if s.refusals.any (·.covers a) then
    throw (.ofFault ⟨.crashed, .reported (a.word ++ " failed")⟩) else pure () : Work Unit).run.run
      { s with record := s.record ++ [a] } = _
  split <;> rfl

variable {refusals : List Refusal} {broken : List Int} {s s' : Shelf} {a : ShelfAction}

/-- Beginning an action that is not refused records it, and does no more. -/
theorem ends_begin {u : Unit} (h : Ends (begin a) s u s') :
    s' = { s with record := s.record ++ [a] } := by
  unfold Ends at h
  rw [run_begin] at h
  exact (congrArg Prod.snd h).symm

/-- A tidy shelf stays tidy when an action is recorded. -/
theorem Tidy.begin (hs : s.Tidy refusals broken) (a : ShelfAction) :
    Tidy refusals broken { s with record := s.record ++ [a] } :=
  ⟨hs.refusals_eq, hs.broken_eq, hs.nodup, hs.given, hs.broken_given⟩

/-- The things of a tidy shelf are a store that its operations reflect. -/
theorem reflects (names : List String) (refusals : List Refusal) (broken : List Int) :
    (reconciler names).Reflects (Tidy refusals broken) things Thing.id where
  nodup hs := hs.nodup
  list {s l s'} hs h := by
    obtain ⟨_, s1, hbegin, h⟩ := ends_bind.1 h
    obtain rfl := ends_begin hbegin
    cases h
    exact ⟨hs.begin _, rfl, .refl _⟩
  keeps {s x d answer s'} hs _ h := by
    obtain ⟨_, s1, hbegin, h⟩ := ends_bind.1 h
    obtain rfl := ends_begin hbegin
    cases h
    exact ⟨hs.begin _, rfl⟩
  update {s x d y s'} hs hx h := by
    obtain ⟨_, s1, hbegin, h⟩ := ends_bind.1 h
    obtain rfl := ends_begin hbegin
    cases h
    -- Resizing keeps ids, and so those that have been given out.
    have hids : (s.things.map fun z => if z.id = x.id then { z with size := d.size } else z).map
        (·.id) = s.things.map (·.id) := by
      rw [List.map_map]
      refine List.map_congr_left fun z _ => ?_
      show (if z.id = x.id then { z with size := d.size } else z).id = z.id
      split <;> rfl
    refine ⟨⟨hs.refusals_eq, hs.broken_eq, hids ▸ hs.nodup, fun t ht => ?_, hs.broken_given⟩, rfl,
      rfl, List.map_congr_left fun z hz => ?_⟩
    · have hid : t.id ∈ s.things.map (·.id) := hids ▸ List.mem_map_of_mem ht
      obtain ⟨z, hz, hid⟩ := List.mem_map.1 hid
      exact hid ▸ hs.given z hz
    · by_cases hid : z.id = x.id
      · rw [if_pos hid, if_pos hid, List.inj_on_of_nodup_map hs.nodup hz hx hid]
      · rw [if_neg hid, if_neg hid]
  delete {s x s'} hs _ h := by
    obtain ⟨_, s1, hbegin, h⟩ := ends_bind.1 h
    obtain rfl := ends_begin hbegin
    cases h
    refine ⟨⟨hs.refusals_eq, hs.broken_eq, ?_, fun t ht => hs.given t (List.mem_filter.1 ht).1,
      hs.broken_given⟩, rfl⟩
    exact hs.nodup.sublist (List.filter_sublist.map _)
  create {s zone name d y s'} hs h := by
    obtain ⟨_, s1, hbegin, h⟩ := ends_bind.1 h
    obtain rfl := ends_begin hbegin
    cases h
    -- The next id is beyond all that have been given out.
    have hfresh : s.nextId ∉ s.things.map (·.id) := fun hmem => by
      obtain ⟨t, ht, hid⟩ := List.mem_map.1 hmem
      exact absurd (hs.given t ht) (hid ▸ Int.lt_irrefl _)
    refine ⟨⟨hs.refusals_eq, hs.broken_eq, ?_, fun t ht => ?_, fun i hi => ?_⟩, hfresh, rfl, rfl⟩
    · show ((s.things ++ [(_ : Thing)]).map (·.id)).Nodup
      rw [List.map_append]
      exact List.nodup_append'.2 ⟨hs.nodup, List.nodup_singleton _, by simpa using hfresh⟩
    · rcases List.mem_append.1 ht with ht | ht
      · exact Int.lt_trans (hs.given t ht) (Int.lt_succ _)
      · rw [List.mem_singleton.1 ht]
        exact Int.lt_succ _
    · exact Int.lt_trans (hs.broken_given i hi) (Int.lt_succ _)

end Shelf

end ControlPlane
