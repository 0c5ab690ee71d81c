import ControlPlane.Proofs.Topology.Convergence
import ControlPlane.Proofs.Topology.Jobs

/-!
# No second load balancer is made

If every zone has at most one load balancer with the tags of the cluster's primary, and every zone
and name at most one with those of its secondaries, then that stays so through any history of runs,
whatever fails and wherever a run stops, after each single call (`history_keeps_onePerPlace`).

A load balancer is told by its zone, its name and its tags, and no request but a creation adds to
these (`outline_answer`). A primary is only made after a look-up has found none in its zone, and a
secondary only at a place where none is left: what was listed and not kept is gone before the first
creation (`retain_leaves`). An interrupted run is a part of one that is not (`Brittle.passes`), so
it is enough to follow a run that is not interrupted.
-/

namespace ControlPlane

open Program hiding ofExcept

namespace Topology

variable {s : Scope} {c c' : Cloud}

/-! ## What load balancers are told by -/

/-- The zone, the name and the tags of a load balancer. -/
def shape (b : LoadBalancer) : String × String × List String := (b.zone, b.name, b.tags)

/-- What the load balancers of a cloud are told by, in order. -/
def outline (c : Cloud) : List (String × String × List String) := c.balancers.map shape

/-- A load balancer of a zone with the tags of the primary. -/
def isPrimaryIn (s : Scope) (zone : String) (b : LoadBalancer) : Bool :=
  hasTags b.tags (primaryTags s) && decide (b.zone = zone)

/-- A load balancer at a zone and a name with the tags of a secondary. -/
def isSecondaryAt (s : Scope) (zone name : String) (b : LoadBalancer) : Bool :=
  hasTags b.tags (Secondary.tags s) && (decide (b.zone = zone) && decide (b.name = name))

/-- At most one primary in each zone of the region, and at most one secondary at each zone and
name. -/
structure OnePerPlace (s : Scope) (c : Cloud) : Prop where
  primary : ∀ zone ∈ s.site.zones, c.balancers.countP (isPrimaryIn s zone) ≤ 1
  secondary : ∀ zone name, c.balancers.countP (isSecondaryAt s zone name) ≤ 1

/-- No place is taken twice if the zones of the primaries are distinct, and so are the places of the
secondaries. -/
theorem OnePerPlace.of_nodup
    (hprimary : ((c.balancers.filter fun b => hasTags b.tags (primaryTags s)).map (·.zone)).Nodup)
    (hsecondary : ((c.balancers.filter fun b =>
      hasTags b.tags (Secondary.tags s)).map Secondary.place).Nodup) : OnePerPlace s c where
  primary := by
    intro zone _
    have hcount := List.nodup_iff_count_le_one.1 hprimary zone
    rw [List.count_eq_countP, List.countP_map, List.countP_filter] at hcount
    refine Nat.le_trans (Nat.le_of_eq (List.countP_congr fun b _ => ?_)) hcount
    simp [isPrimaryIn, and_comm]
  secondary := by
    intro zone name
    have hcount := List.nodup_iff_count_le_one.1 hsecondary (zone, name)
    rw [List.count_eq_countP, List.countP_map, List.countP_filter] at hcount
    refine Nat.le_trans (Nat.le_of_eq (List.countP_congr fun b _ => ?_)) hcount
    simp [isSecondaryAt, Secondary.place, and_comm]

/-- What is not added to by its shape has no more of anything that is told by its shape. -/
theorem countP_le_of_outline (h : (outline c').Sublist (outline c)) {p : LoadBalancer → Bool}
    {q : String × String × List String → Bool} (hp : ∀ b, p b = q (shape b)) :
    c'.balancers.countP p ≤ c.balancers.countP p := by
  have hmap : ∀ bs : List LoadBalancer, bs.countP p = (bs.map shape).countP q := by
    intro bs
    rw [List.countP_map]
    exact List.countP_congr fun b _ => by rw [hp]; rfl
  rw [hmap, hmap]
  exact h.countP_le

/-- No place is taken twice when load balancers go, or change in something else than zone, name and
tags. -/
theorem OnePerPlace.of_outline (h : OnePerPlace s c) (hsub : (outline c').Sublist (outline c)) :
    OnePerPlace s c' where
  primary := fun zone hzone => Nat.le_trans (countP_le_of_outline hsub
    (q := fun x => hasTags x.2.2 (primaryTags s) && decide (x.1 = zone)) fun _ => rfl)
    (h.primary zone hzone)
  secondary := fun zone name => Nat.le_trans (countP_le_of_outline hsub
    (q := fun x => hasTags x.2.2 (Secondary.tags s) && (decide (x.1 = zone) && decide (x.2.1 = name)))
    fun _ => rfl) (h.secondary zone name)

end Topology

/-- A request that makes no load balancer. -/
def Request.MakesNone : Request → Prop
  | .createBalancer .. => False
  | _ => True

namespace Topology

variable {s : Scope} {c c' : Cloud}

/-- Only a creation adds to what load balancers are told by. -/
theorem outline_answer {r : Request} (hr : r.MakesNone) (c : Cloud) :
    (outline (c.answer r).2).Sublist (outline c) := by
  have hsame : ∀ {c'}, c'.balancers = c.balancers → (outline c').Sublist (outline c) := by
    intro c' hc'
    unfold outline
    rw [hc']
  by_cases hleaves : r.LeavesBalancers
  · exact hsame (Cloud.balancers_answer hleaves c)
  rcases hv : c.answer r with ⟨e | v, c'⟩
  · exact hsame (by rw [Cloud.eq_of_refused hv])
  cases r with
  | createBalancer => exact hr.elim
  | migrateBalancer zone id type =>
    have hbalancers := congrArg Cloud.balancers (Cloud.migrateBalancer_effect hv).2
    -- A type is not part of the shape.
    have heq : outline c' = outline c := by
      unfold outline
      rw [hbalancers, List.map_map]
      refine List.map_congr_left fun b _ => ?_
      show shape (if b.id = id then { b with type } else b) = shape b
      split <;> rfl
    show (outline c').Sublist _
    rw [heq]
  | deleteBalancer zone id release =>
    have hbalancers := congrArg Cloud.balancers (Cloud.deleteBalancer_effect hv).2
    show (c'.balancers.map shape).Sublist _
    rw [hbalancers]
    exact List.filter_sublist.map shape
  | _ => exact (hleaves trivial).elim

/-- The ids of the cloud name its resources, and no place is taken twice. -/
structure Unique (s : Scope) (c : Cloud) : Prop where
  sound : c.Sound
  places : OnePerPlace s c

/-- A request that makes no load balancer takes no place. -/
theorem Unique.answer (h : Unique s c) {r : Request} (hr : r.MakesNone) :
    Unique s (c.answer r).2 :=
  ⟨h.sound.answer r, h.places.of_outline (outline_answer hr c)⟩

/-- A program that makes no load balancer keeps places unique. -/
theorem Unique.upholds {α : Type} {p : Program α} (hp : p.Orderly Request.MakesNone)
    (h : Unique s c) : p.Upholds (Unique s) c :=
  hp.upholds (fun _ _ hr hc => hc.answer hr) h

/-- What is made is at its place alone, if nothing was there before. -/
theorem countP_concat_le {bs : List LoadBalancer} {b : LoadBalancer} {p : LoadBalancer → Bool}
    (h : bs.countP p ≤ 1) (hfree : p b = true → bs.countP p = 0) : (bs ++ [b]).countP p ≤ 1 := by
  rw [List.countP_append, List.countP_singleton]
  split
  · next hp => rw [hfree hp]
  · exact h

/-- A load balancer may be made where none of its role is. -/
theorem Unique.create (h : Unique s c) {zone name type : String} {addressId : Option String}
    {isPrivate : Bool} {tags : List String}
    (hprimary : hasTags tags (primaryTags s) = true → c.balancers.countP (isPrimaryIn s zone) = 0)
    (hsecondary : hasTags tags (Secondary.tags s) = true →
      c.balancers.countP (isSecondaryAt s zone name) = 0) :
    Unique s (c.answer (.createBalancer zone name type addressId isPrivate tags)).2 := by
  refine ⟨h.sound.answer _, ?_⟩
  rcases hv : c.answer (.createBalancer zone name type addressId isPrivate tags) with ⟨e | b, c'⟩
  · -- A failure leaves all load balancers.
    have hsame : outline c' = outline c :=
      congrArg (fun c => c.balancers.map shape) (Cloud.eq_of_refused hv)
    refine h.places.of_outline ?_
    show (outline c').Sublist _
    rw [hsame]
  · obtain ⟨hb, _, hc'⟩ := Cloud.createBalancer_effect hv
    have hbalancers : c'.balancers = c.balancers ++ [b] := congrArg Cloud.balancers hc'
    have hzone : b.zone = zone := congrArg LoadBalancer.zone hb
    have hname : b.name = name := congrArg LoadBalancer.name hb
    have htags : b.tags = tags := congrArg LoadBalancer.tags hb
    constructor
    · -- A second primary would have been in the zone before.
      intro z hz
      show c'.balancers.countP _ ≤ 1
      rw [hbalancers]
      refine countP_concat_le (h.places.primary z hz) fun hp => ?_
      rw [isPrimaryIn, Bool.and_eq_true, decide_eq_true_eq, htags, hzone] at hp
      rw [← hp.2]
      exact hprimary hp.1
    · -- So would a second secondary at its place.
      intro z n
      show c'.balancers.countP _ ≤ 1
      rw [hbalancers]
      refine countP_concat_le (h.places.secondary z n) fun hp => ?_
      rw [isSecondaryAt, Bool.and_eq_true, Bool.and_eq_true, decide_eq_true_eq, decide_eq_true_eq,
        htags, hzone, hname] at hp
      rw [← hp.2.1, ← hp.2.2]
      exact hsecondary hp.1

/-! ## The primary -/

/-- What is done in a zone is done in a zone of the region. -/
theorem upholds_in_zone {α : Type} {P : Cloud → Prop} {site : Site} {zone : String}
    {p : Program α} (hc : P c) (hp : zone ∈ site.zones → p.Upholds P c) :
    (site.checkZone zone >>= fun _ => p).Upholds P c := by
  refine (upholds_ofExcept hc _).bind fun _ c' h _ => ?_
  obtain ⟨hzone, rfl⟩ := Site.checkZone_returns.1 h
  exact hp hzone

/-- While a load balancer is deleted, no place is taken twice. -/
theorem Unique.upholds_delete (h : Unique s c) {site : Site} {zone id : String} {release : Bool} :
    (site.deleteBalancer zone id release).Upholds (Unique s) c :=
  h.upholds (Site.orderly_in_zone (orderly_request trivial))

/-- What is made as a primary is no secondary. -/
theorem not_hasTags_secondary : hasTags (primaryTags s) (Secondary.tags s) ≠ true := by
  rw [primaryTags, Secondary.tags, not_hasTags s (t := Tag.secondary) (by decide +kernel)
    (by decide +kernel) List.mem_cons_self]
  exact Bool.false_ne_true

/-- What is made as a secondary is no primary. -/
theorem not_hasTags_primary {more : List String} (hmore : Tag.primary ∉ more) :
    hasTags (Secondary.tags s ++ more) (primaryTags s) ≠ true := by
  have hsplit : Secondary.tags s ++ more = s.tags (Tag.secondary :: more) := List.append_assoc _ _ _
  have hnone : Tag.primary ∉ Tag.secondary :: more := by
    rw [List.mem_cons, not_or]
    exact ⟨by decide +kernel, hmore⟩
  rw [hsplit, primaryTags, not_hasTags s (t := Tag.primary) (by decide +kernel) hnone
    List.mem_cons_self]
  exact Bool.false_ne_true

/-- The id is that of the address that is declared, if one is. -/
structure FoundFor (c : Cloud) (address addressId : Option String) : Prop where
  isNone : addressId.isNone = address.isNone
  found : ∀ id ∈ addressId, ∃ a ∈ c.addresses, a.id = id ∧ address = some a.address

/-- Ensuring the primary makes one where none has been found, under the address that is declared, or
migrates the one that has been found. -/
theorem ensurePrimary_upholds_of {P : Cloud → Prop} (hc : P c)
    (hcreate : ∀ zone type addressId, s.site.region.resolve s.primary.zone = .ok zone →
      c.balancers.filter (isPrimaryIn s zone) = [] → FoundFor c s.primary.address addressId →
      P (c.answer (.createBalancer zone (s.resourceName []) type addressId s.balancersPrivate
        (primaryTags s))).2)
    (hmigrate : ∀ b ∈ c.balancers, hasTags b.tags (primaryTags s) = true → ∀ zone type,
      P (c.answer (.migrateBalancer zone b.id type)).2) : (ensurePrimary s).Upholds P c := by
  obtain ⟨step, heq, hstep⟩ := ensurePrimary_steps s
  rw [heq]
  refine (upholds_ofExcept hc _).bind fun zt c1 hresolve _ => ?_
  obtain ⟨hok, rfl⟩ := returns_ofExcept.1 hresolve
  have hzone := (BalancerSpec.resolve_eq_ok hok).1
  refine (ReadOnly.upholds Site.findBalancer_readOnly.orNone hc).bind fun found c2 hfind _ => ?_
  obtain ⟨_, hfilter, rfl⟩ := (Site.findBalancer_returns (primaryTags_ne_nil s)).1 hfind
  -- Creating is one request, sent where the look-up in the zone found no primary.
  have hmake : c2.balancers.filter (isPrimaryIn s zt.1) = [] → ∀ addressId,
      FoundFor c2 s.primary.address addressId →
        (s.site.createBalancer zt.1 (s.resourceName []) zt.2 addressId (primaryTags s)
          s.balancersPrivate >>= fun b =>
            done { b with privateAddress := s.primary.privateAddress }).Upholds P c2 := by
    intro hnone addressId haddress
    refine (upholds_in_zone hc fun _ => upholds_request hc ?_).bind fun b c3 _ h3 =>
      upholds_done h3 _
    exact hcreate _ _ _ hzone hnone haddress
  cases hstep zt found with
  | pinned address haddress hp =>
    rw [hp]
    refine (ReadOnly.upholds findAddressId_readOnly hc).bind fun id c3 hid _ => ?_
    obtain ⟨rfl, a, ha, rfl, rfl⟩ := findAddressId_returns hid
    refine hmake hfilter _ ⟨by rw [haddress]; rfl, ?_⟩
    rintro _ ⟨⟩
    exact ⟨a, ha, rfl, haddress⟩
  | created haddress hp => exact hp ▸ hmake hfilter none ⟨by rw [haddress], nofun⟩
  | kept b _ hp => exact hp ▸ upholds_done hc _
  | migrated b _ hp =>
    have hb : b ∈ c2.balancers.filter (isPrimaryIn s zt.1) :=
      hfilter ▸ List.mem_singleton_self b
    obtain ⟨hmem, hprimary⟩ := List.mem_filter.1 hb
    rw [hp]
    refine Upholds.bind (upholds_in_zone hc fun _ => upholds_request hc ?_) fun q c3 _ h3 =>
      upholds_done h3 _
    exact hmigrate b hmem (Bool.and_eq_true_iff.1 hprimary).1 _ _

/-- While the primary is ensured, no place is taken twice. -/
theorem ensurePrimary_upholds (h : Unique s c) : (ensurePrimary s).Upholds (Unique s) c := by
  refine ensurePrimary_upholds_of h (fun zone type addressId _ hfilter _ => ?_)
    fun b _ _ zone type => h.answer trivial
  refine h.create (fun _ => ?_) fun htags => (not_hasTags_secondary htags).elim
  rw [List.countP_eq_length_filter]
  exact congrArg List.length hfilter

/-- While the primary is deleted, no place is taken twice. -/
theorem deletePrimary_upholds (h : Unique s c) : (deletePrimary s).Upholds (Unique s) c := by
  cases hresolve : s.primary.resolve s.site.region with
  | error e => exact deletePrimary_of_error hresolve ▸ upholds_done h _
  | ok zt =>
    obtain ⟨step, heq, hstep⟩ := deletePrimary_steps hresolve
    rw [heq]
    refine (ReadOnly.upholds Site.findBalancer_readOnly.orNone h).bind fun found c2 _ h2 => ?_
    cases hstep found with
    | gone hp => exact hp ▸ upholds_done h2 _
    | deleted b hp => exact hp ▸ h2.upholds_delete

end Topology

/-! ## The secondaries -/

namespace Secondary

open ControlPlane.Topology

variable {s : Scope} {c c' : Cloud} {desired : List BalancerSpec}
  {wanted : List (String × List BalancerSpec)} {taken : List (String × String)}
  {live kept : List LoadBalancer}

/-- Deciding which secondaries are kept makes no load balancer. -/
theorem retain_makesNone :
    ((reconciler s).retain wanted taken live).Orderly Request.MakesNone := by
  have hlookup : ∀ r : Request, r.isMutation = false → r.MakesNone := by
    intro r hr
    cases r <;> trivial
  have hdelete : ∀ b, (delete s b).Orderly Request.MakesNone := fun b =>
    Site.orderly_in_zone (orderly_request trivial)
  induction live generalizing taken with
  | nil => trivial
  | cons b rest ih =>
    rw [retain_cons]
    split
    · exact (hdelete b).bind fun _ => ih
    · next d _ =>
      refine (keeps_readOnly.mono hlookup).bind fun keep => ?_
      split
      · -- One that fits is updated, by a migration at most.
        refine Orderly.bind ?_ fun _ => ih.bind fun _ => trivial
        cases update_steps s b d with
        | kept _ hp => exact hp ▸ trivial
        | migrated t _ _ hp =>
          exact hp ▸ (Site.orderly_in_zone (orderly_request trivial)).bind fun _ => trivial
      · exact (hdelete b).bind fun _ => ih

/-- What is kept has the id and the place of a load balancer that there was at first. -/
theorem retain_kept {c0 : Cloud}
    (horigin : ∀ x ∈ c.balancers, ∃ x0 ∈ c0.balancers, x = { x0 with type := x.type })
    (hlive : ∀ b ∈ live, b ∈ c0.balancers)
    (h : ((reconciler s).retain wanted taken live).Returns c kept c') :
    ∀ r ∈ kept, ∃ x0 ∈ c0.balancers, r.id = x0.id ∧ place r = place x0 := by
  induction live generalizing c taken kept with
  | nil =>
    obtain ⟨rfl, _⟩ := returns_done.1 h
    exact nofun
  | cons b rest ih =>
    obtain ⟨hb, hrest⟩ := List.forall_mem_cons.1 hlive
    rcases retain_cons_cases h with
      ⟨u, c1, hdelete, hretain⟩ | ⟨d, r, more, c1, _, _, _, hupdate, hretain, rfl⟩
    · refine ih (fun x hx => ?_) hrest hretain
      rw [delete_returns hdelete] at hx
      exact horigin x (List.mem_of_mem_filter hx)
    · have horigin1 : ∀ x ∈ c1.balancers, ∃ x0 ∈ c0.balancers, x = { x0 with type := x.type } := by
        intro x hx
        obtain ⟨x1, hx1, heq1⟩ := (update_changes hupdate).2.1 x hx
        obtain ⟨x0, hx0, heq0⟩ := horigin x1 hx1
        refine ⟨x0, hx0, ?_⟩
        rw [heq1, heq0]
      refine List.forall_mem_cons.2 ⟨?_, ih horigin1 hrest hretain⟩
      rcases update_cases hupdate with ⟨_, rfl, _⟩ | ⟨t, old, _, hold, rfl, _⟩
      · exact ⟨b, hb, rfl, rfl⟩
      -- What was migrated is what the cloud found by the id.
      · obtain ⟨x0, hx0, heq⟩ := horigin old (List.mem_of_find?_eq_some hold)
        refine ⟨x0, hx0, ?_, ?_⟩
        · show old.id = _
          rw [heq]
        · show (old.zone, old.name) = _
          rw [heq]
          rfl

/-- Every secondary that is left after retaining is at the place of one that was kept. -/
theorem retain_leaves (hc : c.Sound)
    (h : ((reconciler s).retain wanted [] (s.site.balancersWith (tags s) c)).Returns c kept c')
    {x : LoadBalancer} (hx : x ∈ c'.balancers) (hsec : IsSecondary s x) :
    place x ∈ kept.map place := by
  obtain ⟨horigin, hcovers⟩ := retain_covers h
  obtain ⟨x0, hx0, heq⟩ := horigin x hx
  have hlisted : x0 ∈ s.site.balancersWith (tags s) c := by
    rw [heq] at hsec
    exact mem_listed.2 ⟨hx0, hsec⟩
  have hid : x.id ∈ (s.site.balancersWith (tags s) c).map (·.id) := by
    rw [heq]
    exact List.mem_map_of_mem (f := (·.id)) hlisted
  obtain ⟨r, hr, hrid⟩ := List.mem_map.1 (hcovers.covered x hx hid)
  obtain ⟨x1, hx1, hid1, hplace1⟩ :=
    retain_kept (fun y hy => ⟨y, hy, rfl⟩) (fun b hb => (mem_listed.1 hb).1) h r hr
  -- Both are the load balancer that had the id at first.
  have hx01 : x1.id = x0.id := by
    rw [← hid1, hrid, heq]
  have hsame : x1 = x0 := hc.balancers.inj hx1 hx0 hx01
  have hplace : place r = place x := by
    rw [hplace1, hsame, heq]
    rfl
  rw [← hplace]
  exact List.mem_map_of_mem hr

/-- A secondary is created under the address that is declared, or with a tag that tells that it is
given one. -/
theorem create_upholds_of {P : Cloud → Prop} (hc : P c) {zone name : String} {d : BalancerSpec}
    (hcreate : ∀ type addressId more, zone ∈ s.site.zones → FoundFor c d.address addressId →
      more = (if d.address = none then [Tag.managedAddress] else []) →
      P (c.answer (.createBalancer zone name type addressId s.balancersPrivate
        (tags s ++ more))).2) : (create s zone name d).Upholds P c := by
  -- Either way, creating is one request, with the address that was found and the tags that go with
  -- it.
  have hmake : ∀ (type : String) addressId more, FoundFor c d.address addressId →
      more = (if d.address = none then [Tag.managedAddress] else []) →
      (s.site.createBalancer zone name type addressId (tags s ++ more) s.balancersPrivate >>=
        fun b => done { b with privateAddress := d.privateAddress }).Upholds P c := by
    intro type addressId more haddress hmore
    refine (upholds_in_zone hc fun hzone => upholds_request hc ?_).bind fun b c2 _ h2 =>
      upholds_done h2 _
    exact hcreate _ _ _ hzone haddress hmore
  obtain ⟨step, heq, hstep⟩ := create_steps s zone name d
  rw [heq]
  refine (upholds_ofExcept hc _).bind fun zt c1 hresolve _ => ?_
  obtain ⟨_, rfl⟩ := returns_ofExcept.1 hresolve
  cases hstep zt with
  | pinned address haddress hp =>
    rw [hp]
    refine (ReadOnly.upholds findAddressId_readOnly hc).bind fun addressId c2 hreturns _ => ?_
    obtain ⟨rfl, a, ha, rfl, rfl⟩ := findAddressId_returns hreturns
    have hfound : FoundFor c2 d.address (some a.id) := by
      refine ⟨by rw [haddress]; rfl, ?_⟩
      rintro _ ⟨⟩
      exact ⟨a, ha, rfl, haddress⟩
    have hbare := hmake zt.2 (some a.id) [] hfound (by rw [haddress]; rfl)
    rwa [List.append_nil] at hbare
  | managed haddress hp =>
    rw [hp]
    exact hmake zt.2 none [Tag.managedAddress] ⟨by rw [haddress], nofun⟩ (if_pos haddress).symm

/-- Creating a secondary takes no place twice if its place is free. -/
theorem create_upholds (h : Unique s c) {zone name : String} {d : BalancerSpec}
    (hfree : zone ∈ s.site.zones → c.balancers.countP (isSecondaryAt s zone name) = 0) :
    (create s zone name d).Upholds (Unique s) c := by
  refine create_upholds_of h fun type addressId more hzone _ hmore => ?_
  have hnone : Tag.primary ∉ more := by
    rw [hmore]
    split <;> decide +kernel
  exact h.create (fun htags => (not_hasTags_primary hnone htags).elim) fun _ => hfree hzone

/-- What is created for one target leaves the places of the others free. -/
theorem createAll_upholds {targets : List (String × String × BalancerSpec)} (h : Unique s c)
    (hnodup : (targets.map fun t => (t.1, t.2.1)).Nodup)
    (hfree : ∀ t ∈ targets, t.1 ∈ s.site.zones →
      c.balancers.countP (isSecondaryAt s t.1 t.2.1) = 0) :
    (targets.mapM' fun t => (reconciler s).create t.1 t.2.1 t.2.2).Upholds (Unique s) c := by
  induction targets generalizing c with
  | nil => exact upholds_done h _
  | cons target rest ih =>
    obtain ⟨zone, name, d⟩ := target
    rw [List.map_cons, List.nodup_cons] at hnodup
    obtain ⟨hfirst, hothers⟩ := List.forall_mem_cons.1 hfree
    refine Upholds.bind (create_upholds h hfirst) fun r c1 hcreate h1 => ?_
    refine (ih h1 hnodup.2 fun t ht hzone => ?_).bind fun more c2 _ h2 => upholds_done h2 _
    obtain ⟨b, _, hcreates⟩ := create_returns h.sound hcreate
    -- The new one is at a place of its own, and so leaves the others free.
    have hplace : place b ≠ (t.1, t.2.1) := by
      rw [hcreates.place]
      exact fun heq => hnodup.1 (heq ▸ List.mem_map_of_mem (f := fun t => (t.1, t.2.1)) ht)
    have hother : isSecondaryAt s t.1 t.2.1 b = false := by
      rw [Bool.eq_false_iff]
      intro hp
      rw [isSecondaryAt, Bool.and_eq_true, Bool.and_eq_true, decide_eq_true_eq,
        decide_eq_true_eq] at hp
      exact hplace (Prod.ext hp.2.1 hp.2.2)
    rw [hcreates.balancers, List.countP_append, List.countP_singleton, hother, hothers t ht hzone]
    rfl

/-- Creating what is missing at distinct places takes no place twice, if those that are not said to
be taken are free. -/
theorem createMissing_upholds {targets : List (String × String × BalancerSpec)}
    (h : Unique s c) (hnodup : (targets.map fun t => (t.1, t.2.1)).Nodup)
    (hfree : ∀ t ∈ targets, (t.1, t.2.1) ∉ taken → t.1 ∈ s.site.zones →
      c.balancers.countP (isSecondaryAt s t.1 t.2.1) = 0) :
    ((reconciler s).createMissing taken targets).Upholds (Unique s) c := by
  rw [Reconciler.createMissing_eq]
  refine createAll_upholds h (hnodup.sublist (List.filter_sublist.map _)) fun t ht hzone => ?_
  rw [List.mem_filter, decide_eq_true_eq] at ht
  exact hfree t ht.1 ht.2 hzone

/-- While the secondaries are ensured, no place is taken twice. -/
theorem ensure_upholds (h : Unique s c) : (ensure s desired).Upholds (Unique s) c := by
  rw [ensure_eq]
  split
  · exact List.forall_mem_singleton.2 h
  · next wanted hwanted =>
    refine (ReadOnly.upholds list_readOnly h).bind fun live c1 hlist h1 => ?_
    obtain ⟨rfl, rfl⟩ := (Site.findBalancers_returns (tags_ne_nil s)).1 hlist
    refine (h1.upholds retain_makesNone).bind fun kept c2 hretain h2 => ?_
    refine Upholds.bind ?_ fun created c3 _ h3 => upholds_done h3 _
    refine createMissing_upholds h2 (Reconciler.nodup_targets (desiredName_injective s) hwanted) ?_
    intro t _ htaken hzone
    -- A secondary that was at the place already would have been kept there, or deleted.
    refine List.countP_eq_zero.2 fun x hx hp => htaken ?_
    rw [isSecondaryAt, Bool.and_eq_true, Bool.and_eq_true, decide_eq_true_eq,
      decide_eq_true_eq] at hp
    have hplace := retain_leaves h1.sound hretain hx ⟨hp.2.1 ▸ hzone, hp.1⟩
    rwa [place, hp.2.1, hp.2.2] at hplace

end Secondary

namespace Topology

variable {s : Scope} {c : Cloud}

/-! ## Whole runs -/

/-- What is done below load balancers makes none. -/
theorem makesNone_of_below {r : Request} (h : r.IsBelow) : r.MakesNone := by
  cases r <;> trivial

/-- Publishing sends no request. -/
theorem publish_upholds {P : Cloud → Prop} (hc : P c) {b : LoadBalancer} {bs : List LoadBalancer} :
    (publish s b bs).Upholds P c := by
  refine (upholds_ofExcept hc _).bind fun main c1 _ h1 => ?_
  refine Upholds.bind (upholds_done h1 ()) fun _ c2 _ h2 => ?_
  exact (upholds_ofExcept h2 _).bind fun others c3 _ h3 => upholds_done h3 ()

/-- During a run for a cluster, no place is taken twice. -/
theorem reconcile_upholds (h : Unique s c) : (reconcile s).Upholds (Unique s) c := by
  have hlater : ∀ {α : Type} {p : Program α} {allowed : Request → Prop} {c : Cloud},
      p.Orderly allowed → (∀ r, allowed r → r.MakesNone) → Unique s c → p.Upholds (Unique s) c :=
    fun hp hnone hc => hc.upholds (hp.mono hnone)
  unfold reconcile
  refine (ensurePrimary_upholds h).bind fun primary c1 _ h1 => ?_
  refine (Secondary.ensure_upholds h1).bind fun secondaries c2 _ h2 => ?_
  refine (upholds_ofExcept h2 _).bind fun _ c3 _ h3 => ?_
  -- From here on no load balancer is made, so the counts stay as they are.
  refine (hlater ensurePrivateNetwork_orderly (fun r hr => ?_) h3).bind fun resolved c4 _ h4 => ?_
  · cases r <;> trivial
  refine (hlater ensureBackends_orderly (fun r hr => ?_) h4).bind fun backends c5 _ h5 => ?_
  · cases r <;> trivial
  refine (hlater ensureFrontends_orderly (fun r hr => ?_) h5).bind fun frontends c6 _ h6 => ?_
  · cases r <;> trivial
  refine (hlater Access.sync_orderly (fun r hr => ?_) h6).bind fun _ c7 _ h7 => ?_
  · cases r <;> trivial
  exact publish_upholds h7

/-- During the deletion of a cluster, no place is taken twice. -/
theorem delete_upholds (h : Unique s c) : (delete s).Upholds (Unique s) c := by
  refine (deletePrimary_upholds h).bind fun _ c1 _ h1 => ?_
  exact Upholds.bind (Secondary.ensure_upholds h1) fun _ c2 _ h2 => upholds_done h2 _

end Topology

/-! ## Histories -/

/-- A run among others of the same cluster: what is declared by then, what is run, and what the run
meets with. -/
structure Attempt where
  network : NetworkSpec
  job : Job
  circumstances : Circumstances := {}

/-- A cluster as it is declared with another network. -/
def Scope.declaring (s : Scope) (network : NetworkSpec) : Scope :=
  { s with cluster := { s.cluster with network } }

namespace Attempt

/-- The program that is run. -/
def program (s : Scope) (a : Attempt) : Program Unit := a.job.program (s.declaring a.network)

/-- The clouds that a history of runs passes through, one after each call. -/
def history (s : Scope) : Cloud → List Attempt → List Cloud
  | _, [] => []
  | c, a :: rest =>
    a.circumstances.passes (a.program s) c ++
      history s (a.circumstances.leaves (a.program s) c) rest

end Attempt

namespace Topology

variable {s : Scope} {c : Cloud}

/-- Uniqueness does not depend on the network that is declared. -/
theorem Unique.declaring {network : NetworkSpec} :
    Unique (s.declaring network) c ↔ Unique s c :=
  ⟨fun h => ⟨h.sound, h.places.primary, h.places.secondary⟩,
    fun h => ⟨h.sound, h.places.primary, h.places.secondary⟩⟩

/-- During any job, no place is taken twice. -/
theorem job_upholds (j : Job) (h : Unique s c) : (j.program s).Upholds (Unique s) c := by
  cases j with
  | reconcile => exact reconcile_upholds h
  | delete => exact delete_upholds h
  | register => exact h.upholds (Member.reconcile_orderly.mono fun _ => makesNone_of_below)
  | remove => exact h.upholds (Member.delete_orderly.mono fun _ => makesNone_of_below)

/-- A single run of a history keeps places unique, and the next one starts so. -/
theorem attempt_keeps_unique (h : Unique s c) {a : Attempt} (ha : a.circumstances.Gentle) :
    (∀ v ∈ a.circumstances.passes (a.program s) c, Unique s v) ∧
      Unique s (a.circumstances.leaves (a.program s) c) := by
  have hunique : Unique (s.declaring a.network) c := Unique.declaring.2 h
  have hupholds := job_upholds a.job hunique
  obtain ⟨hpasses, hleaves⟩ := ha.passes (Job.brittle _ a.job) hupholds
  exact ⟨fun v hv => Unique.declaring.1 (hpasses v hv), Unique.declaring.1 hleaves⟩

/-- After each call of each run of a history there is at most one primary in each zone and at most
one secondary at each zone and name, if that was so at first. Declarations may change in between,
and requests may fail in any way but as look-ups do that find nothing. -/
theorem history_keeps_onePerPlace (hc : c.Sound) (h : OnePerPlace s c) (attempts : List Attempt)
    (gentle : ∀ a ∈ attempts, a.circumstances.Gentle) :
    ∀ v ∈ Attempt.history s c attempts, OnePerPlace s v := by
  have hunique : ∀ attempts c, Unique s c → (∀ a ∈ attempts, a.circumstances.Gentle) →
      ∀ v ∈ Attempt.history s c attempts, Unique s v := by
    intro attempts
    induction attempts with
    | nil => exact fun _ _ _ => nofun
    | cons a rest ih =>
      intro c hc hgentle
      obtain ⟨ha, hrest⟩ := List.forall_mem_cons.1 hgentle
      obtain ⟨hpasses, hleaves⟩ := attempt_keeps_unique hc ha
      exact List.forall_mem_append.2 ⟨hpasses, ih _ hleaves hrest⟩
  exact fun v hv => (hunique attempts c ⟨hc, h⟩ gentle v hv).places

end Topology

/-- A run that cannot delete the stray secondary, the deletion of everything, which is out of time
before it ends, and a run for a network with two secondaries. -/
def Sample.mishaps : List Attempt :=
  [{ network := (Sample.scope []).cluster.network
     job := .reconcile
     circumstances := { disturbances := [
      { endpoint := "delete_lb", failure := some (.ofFault ⟨.general, .noTags⟩) }] } },
   { network := {}, job := .delete, circumstances := { deadline := some 3, step := 1 } },
   { network := { secondaries := [{}, {}] }, job := .reconcile }]

/-- The runs of the example are gentle. -/
theorem Sample.mishaps_gentle : ∀ a ∈ Sample.mishaps, a.circumstances.Gentle := by
  have hone : ∀ d ∈ [({ endpoint := "delete_lb", failure := some (.ofFault ⟨.general, .noTags⟩) } :
      Disturbance)], ∀ e, d.failure = some e → e.isNotFound = false := by
    rintro d hd e he
    rw [List.mem_singleton.1 hd] at he
    rw [← Option.some.inj he]
    decide +kernel
  have hnone : ∀ d ∈ ([] : List Disturbance), ∀ e, d.failure = some e → e.isNotFound = false :=
    List.forall_mem_nil _
  exact List.forall_mem_cons.2 ⟨hone, List.forall_mem_cons.2 ⟨hnone,
    List.forall_mem_singleton.2 hnone⟩⟩

namespace Topology

/-- Over a history of runs that break off, and of a changed declaration, no place is ever taken
twice. -/
theorem sample_history_keeps_onePerPlace :
    OnePerPlace (Sample.scope []) Sample.cloud ∧
      ∀ v ∈ Attempt.history (Sample.scope []) Sample.cloud Sample.mishaps,
        OnePerPlace (Sample.scope []) v := by
  have hplaces : OnePerPlace (Sample.scope []) Sample.cloud :=
    .of_nodup (by decide +kernel) (by decide +kernel)
  exact ⟨hplaces, history_keeps_onePerPlace Sample.cloud_sound hplaces Sample.mishaps
    Sample.mishaps_gentle⟩

end Topology

end ControlPlane
