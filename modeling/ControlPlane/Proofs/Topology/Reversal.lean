import ControlPlane.Proofs.Cloud.Overlay
import ControlPlane.Proofs.Topology.Launch
import ControlPlane.Proofs.Topology.Uniqueness

/-!
# What a cluster makes can be taken back

From a cloud where a cluster owns no load balancer and no pinned address is bound, the programs of
the cluster only ever lead to clouds that lie over that one (`Reversible`). What makes this so is
that the tags of a load balancer tell how it came by its address (`Scope.releases`): a primary has
the pinned one exactly if one is pinned, and a secondary is marked exactly if its address was made
for it. So a load balancer goes with the address that came with it, and with no other.

This module follows the load balancers; what is under them is followed in `Undergrowth`.
-/

namespace ControlPlane

open Program hiding ofExcept
open Cloud (ActsOnOwn Overlay)

/-! ## Addresses -/

/-- Whether the address of a load balancer of the cluster is released with it, by its tags. -/
def Scope.releases (s : Scope) (tags : List String) : Bool :=
  if hasTags tags (Topology.primaryTags s) then decide (s.primary.address = none)
  else decide (Tag.managedAddress ∈ tags)

/-- No address that the cluster pins is bound to a load balancer. -/
def PinsFree (s : Scope) (c : Cloud) : Prop :=
  ∀ a ∈ c.addresses, a.address ∈ s.cluster.network.publicPins → a.balancerId = none

instance (s : Scope) (c : Cloud) : Decidable (PinsFree s c) :=
  inferInstanceAs (Decidable (∀ a ∈ c.addresses,
    a.address ∈ s.cluster.network.publicPins → a.balancerId = none))

namespace Scope

variable {s : Scope} {tags : List String}

/-- The address that is declared for the primary is a public pin. -/
theorem mem_publicPins_primary {address : String} (h : s.primary.address = some address) :
    address ∈ s.cluster.network.publicPins :=
  List.mem_filterMap.2 ⟨_, List.mem_cons_self, h⟩

/-- An address that is declared for a secondary is a public pin. -/
theorem mem_publicPins {d : BalancerSpec} {address : String} (hd : d ∈ s.secondaries)
    (h : d.address = some address) : address ∈ s.cluster.network.publicPins :=
  List.mem_filterMap.2 ⟨d, List.mem_cons_of_mem _ hd, h⟩

/-- The address of a primary is released unless it is pinned. -/
theorem releases_primary (h : hasTags tags (Topology.primaryTags s) = true) :
    s.releases tags = decide (s.primary.address = none) :=
  if_pos h

/-- The address of what is no primary is released if its tags say that the provider allocated it. -/
theorem releases_of_not_primary (h : hasTags tags (Topology.primaryTags s) ≠ true) :
    s.releases tags = decide (Tag.managedAddress ∈ tags) :=
  if_neg h

/-- What was made with the tags of a secondary does not have those of a primary. -/
theorem not_primary_of_secondary (hmade : tags ∈ s.madeWith)
    (h : hasTags tags (Secondary.tags s) = true) :
    hasTags tags (Topology.primaryTags s) ≠ true := by
  simp only [madeWith, List.mem_cons, List.not_mem_nil, or_false] at hmade
  rcases hmade with rfl | rfl | rfl
  · exact absurd h Topology.not_hasTags_secondary
  · have hbare : hasTags (Secondary.tags s ++ []) (Topology.primaryTags s) ≠ true :=
      Topology.not_hasTags_primary List.not_mem_nil
    rwa [List.append_nil] at hbare
  · exact Topology.not_hasTags_primary (by decide +kernel)

/-- The address of a secondary is released if that was made for it. -/
theorem releases_secondary (hmade : tags ∈ s.madeWith)
    (h : hasTags tags (Secondary.tags s) = true) :
    s.releases tags = decide (Tag.managedAddress ∈ tags) :=
  releases_of_not_primary (not_primary_of_secondary hmade h)

/-- A secondary is made with the mark exactly if it gets no pinned address. -/
theorem releases_created {address : Option String} {more : List String}
    (h : more = (if address = none then [Tag.managedAddress] else [])) :
    s.releases (Secondary.tags s ++ more) = address.isNone := by
  have hprimary : Tag.primary ∉ more := by
    rw [h]
    split <;> decide +kernel
  have hmanaged : Tag.managedAddress ∉ Secondary.tags s := by
    refine List.not_mem_append (Topology.tag_ne s (by decide +kernel)) ?_
    decide +kernel
  rw [releases_of_not_primary (Topology.not_hasTags_primary hprimary), h]
  cases address <;> simp [hmanaged]

/-- The tags of a secondary, with that of an allocated address or without it, are ones that the
cluster makes load balancers with. -/
theorem secondary_mem_madeWith {address : Option String} {more : List String}
    (h : more = (if address = none then [Tag.managedAddress] else [])) :
    Secondary.tags s ++ more ∈ s.madeWith := by
  rw [h]
  split <;> simp [madeWith]

end Scope

/-! ## Clouds that a cluster can leave -/

namespace Topology

/-- The cloud lies over another one, where no pinned address was bound, with the load balancers that
the cluster has made on top. -/
structure Reversible (s : Scope) (c0 c : Cloud) : Prop where
  overlay : Overlay s.owns s.releases c0 c
  made : ∀ b ∈ c.balancers, s.owns b.tags = true → b.tags ∈ s.madeWith ∧ InTopology s b
  pins : PinsFree s c0

namespace Reversible

variable {s : Scope} {c0 c c' : Cloud}

/-- Where the cluster has no load balancer, nothing is to be taken back. -/
theorem of_vacant (h : Vacant s c) (hpins : PinsFree s c) : Reversible s c c where
  overlay := .refl h.sound h.rooted h.unowned
  made := fun b hb hown => absurd (h.unowned b hb).symm (hown ▸ Bool.noConfusion)
  pins := hpins

/-- A declared address that is found was bound to nothing at first. -/
theorem free (h : Reversible s c0 c) {address addressId : Option String}
    (hpinned : ∀ a ∈ address, a ∈ s.cluster.network.publicPins)
    (haddress : FoundFor c address addressId) :
    ∀ id ∈ addressId, ∀ a ∈ c0.addresses, a.id = id → a.balancerId = none := by
  intro id hid a0 ha0 hid0
  obtain ⟨a, ha, haid, haddr⟩ := haddress.found id hid
  -- What was there at first is still there, under its id.
  have hrest := ha0
  rw [← h.overlay.rest.addresses] at hrest
  obtain ⟨a', ha', rfl⟩ := List.mem_map.1 hrest
  rw [Cloud.unbind_id] at hid0
  have hself : a' = a :=
    h.overlay.sound.addresses.inj (List.mem_of_mem_filter ha') ha (hid0.trans haid.symm)
  refine h.pins _ ha0 ?_
  rw [Cloud.unbind_address, hself]
  exact hpinned _ haddr

/-- Requests about the cluster's own that make no load balancer keep a cloud reversible. -/
theorem answer (h : Reversible s c0 c) {r : Request}
    (hr : ActsOnOwn s.owns s.releases c0 c r) (hnone : r.MakesNone) :
    Reversible s c0 (c.answer r).2 := by
  refine ⟨h.overlay.answer hr, fun b hb hown => ?_, h.pins⟩
  have hshape : shape b ∈ outline c :=
    (outline_answer hnone c).subset (List.mem_map_of_mem hb)
  obtain ⟨b0, hb0, heq⟩ := List.mem_map.1 hshape
  have hzone : b0.zone = b.zone := congrArg Prod.fst heq
  have htags : b0.tags = b.tags := congrArg (fun x => x.2.2) heq
  have hold := h.made b0 hb0
  unfold InTopology IsPrimary Secondary.IsSecondary at hold ⊢
  rw [htags, hzone] at hold
  exact hold hown

/-- A load balancer may be made with the tags that tell how it gets its address. -/
theorem create (h : Reversible s c0 c) {zone name type : String} {address addressId : Option String}
    {isPrivate : Bool} {tags : List String} (htags : tags ∈ s.madeWith)
    (htopology : ∀ b : LoadBalancer, b.zone = zone → b.tags = tags → InTopology s b)
    (hreleases : s.releases tags = address.isNone)
    (hpinned : ∀ a ∈ address, a ∈ s.cluster.network.publicPins)
    (haddress : FoundFor c address addressId) :
    Reversible s c0 (c.answer (.createBalancer zone name type addressId isPrivate tags)).2 := by
  -- The address is free or a pin of the cluster, and is released later only if it was allocated
  -- now.
  have hacts : ActsOnOwn s.owns s.releases c0 c
      (.createBalancer zone name type addressId isPrivate tags) :=
    ⟨Scope.owns_of_madeWith htags, hreleases.trans haddress.isNone.symm, h.free hpinned haddress⟩
  refine ⟨h.overlay.answer hacts, ?_, h.pins⟩
  rcases hv : c.answer (.createBalancer zone name type addressId isPrivate tags) with ⟨e | b, c'⟩
  · have hbalancers : c'.balancers = c.balancers :=
      congrArg (fun c => c.balancers) (Cloud.eq_of_refused hv)
    rw [hbalancers]
    exact h.made
  · -- The new one has tags that the cluster gives, and is in the topology by them.
    obtain ⟨hb, _, hc'⟩ := Cloud.createBalancer_effect hv
    have hbalancers : c'.balancers = c.balancers ++ [b] := congrArg Cloud.balancers hc'
    have hbtags : b.tags = tags := congrArg LoadBalancer.tags hb
    rw [hbalancers]
    refine List.forall_mem_append.2 ⟨h.made, List.forall_mem_singleton.2 fun _ => ?_⟩
    exact ⟨hbtags ▸ htags, htopology b (congrArg LoadBalancer.zone hb) hbtags⟩

/-- A change of what is the cluster's own is one that can be taken back. -/
theorem upholds_change (h : Reversible s c0 c) {site : Site} {zone : String} {r : Request}
    (hr : ActsOnOwn s.owns s.releases c0 c r) (hnone : r.MakesNone) :
    (site.checkZone zone >>= fun _ => request r).Upholds (Reversible s c0) c :=
  upholds_in_zone h fun _ => upholds_request h (h.answer hr hnone)

/-! ## The primary -/

/-- Ensuring the primary can be reverted at any point. -/
theorem upholds_ensurePrimary (h : Reversible s c0 c) :
    (ensurePrimary s).Upholds (Reversible s c0) c := by
  refine ensurePrimary_upholds_of h (fun zone type addressId hzone _ haddress => ?_)
    fun b hb htags zone type => h.answer (fun x hx hid => ?_) trivial
  · have htags : hasTags (primaryTags s) (primaryTags s) = true := hasTags_iff.2 fun _ ht => ht
    refine h.create (by simp [Scope.madeWith]) (fun b hz ht => .inl ?_) ?_ (fun a ha => ?_) haddress
    · exact ⟨hz ▸ hzone, ht ▸ htags⟩
    · rw [Scope.releases_primary htags]
      cases s.primary.address <;> rfl
    · exact Scope.mem_publicPins_primary ha
  · rw [h.overlay.sound.balancers.inj hx hb hid]
    exact owns_of_primaryTags htags

/-- Deleting the primary can be reverted at any point. -/
theorem upholds_deletePrimary (h : Reversible s c0 c) :
    (deletePrimary s).Upholds (Reversible s c0) c := by
  cases hresolve : s.primary.resolve s.site.region with
  | error e => exact deletePrimary_of_error hresolve ▸ upholds_done h _
  | ok zt =>
    obtain ⟨step, heq, hstep⟩ := deletePrimary_steps hresolve
    rw [heq]
    refine (ReadOnly.upholds Site.findBalancer_readOnly.orNone h).bind fun found c2 hfind h2 => ?_
    obtain ⟨_, hfilter, rfl⟩ := (Site.findBalancer_returns (primaryTags_ne_nil s)).1 hfind
    cases hstep found with
    | gone hp => exact hp ▸ upholds_done h _
    | deleted b hp =>
      have hb : b ∈ c2.balancers.filter (isPrimaryIn s zt.1) :=
        hfilter ▸ List.mem_singleton_self b
      obtain ⟨hmem, hprimary⟩ := List.mem_filter.1 hb
      have htags := (Bool.and_eq_true_iff.1 hprimary).1
      rw [hp]
      refine h.upholds_change (fun x hx hid => ?_) trivial
      rw [h.overlay.sound.balancers.inj hx hmem hid]
      exact ⟨owns_of_primaryTags htags, (Scope.releases_primary htags).symm⟩

end Reversible

end Topology

/-! ## The secondaries -/

namespace Topology.Reversible

open Secondary (reconciler retain_cons keeps_readOnly delete_returns update_changes)

variable {s : Scope} {c0 c c' : Cloud} {desired : List BalancerSpec}
  {wanted : List (String × List BalancerSpec)} {taken : List (String × String)}
  {live : List LoadBalancer}

/-- What goes by the id of a load balancer has its tags, and these are the tags of a secondary. -/
def Listed (s : Scope) (c : Cloud) (b : LoadBalancer) : Prop :=
  hasTags b.tags (Secondary.tags s) = true ∧ ∀ x ∈ c.balancers, x.id = b.id → x.tags = b.tags

/-- What is listed stays so while load balancers only change their types or go. -/
theorem Listed.of_origin {b : LoadBalancer} (h : Listed s c b)
    (horigin : ∀ x ∈ c'.balancers, ∃ x0 ∈ c.balancers, x = { x0 with type := x.type }) :
    Listed s c' b := by
  refine ⟨h.1, fun x hx hid => ?_⟩
  obtain ⟨x0, hx0, heq⟩ := horigin x hx
  rw [heq] at hid ⊢
  exact h.2 x0 hx0 hid

/-- Deleting a listed secondary can be reverted at any point. -/
theorem upholds_deleteSecondary (h : Reversible s c0 c) {b : LoadBalancer} (hb : Listed s c b) :
    (Secondary.delete s b).Upholds (Reversible s c0) c := by
  refine h.upholds_change (fun x hx hid => ?_) trivial
  have htags := hb.2 x hx hid
  have hown : s.owns x.tags = true := owns_of_secondaryTags (htags ▸ hb.1)
  refine ⟨hown, ?_⟩
  rw [Scope.releases_secondary (h.made x hx hown).1 (htags ▸ hb.1), htags]

/-- Updating a listed secondary can be reverted at any point. -/
theorem upholds_update (h : Reversible s c0 c) {b : LoadBalancer} {d : BalancerSpec}
    (hb : Listed s c b) : (Secondary.update s b d).Upholds (Reversible s c0) c := by
  cases Secondary.update_steps s b d with
  | kept _ hp => exact hp ▸ upholds_done h _
  | migrated t _ _ hp =>
    rw [hp]
    refine Upholds.bind (h.upholds_change (fun x hx hid => ?_) trivial) fun r c1 _ h1 =>
      upholds_done h1 _
    exact owns_of_secondaryTags (hb.2 x hx hid ▸ hb.1)

/-- The walk over the listed secondaries can be reverted at any point. -/
theorem upholds_retain (h : Reversible s c0 c) (hlive : ∀ b ∈ live, Listed s c b) :
    ((reconciler s).retain wanted taken live).Upholds (Reversible s c0) c := by
  induction live generalizing c taken with
  | nil => exact upholds_done h _
  | cons b rest ih =>
    obtain ⟨hb, hrest⟩ := List.forall_mem_cons.1 hlive
    -- It is deleted if it is not wanted, and if it cannot be kept.
    have hdelete : (Secondary.delete s b >>= fun _ =>
        (reconciler s).retain wanted taken rest).Upholds (Reversible s c0) c := by
      refine (h.upholds_deleteSecondary hb).bind fun _ c1 hreturns h1 => ?_
      refine ih h1 fun x hx => (hrest x hx).of_origin fun y hy => ?_
      rw [delete_returns hreturns] at hy
      exact ⟨y, List.mem_of_mem_filter hy, rfl⟩
    rw [retain_cons]
    split
    · exact hdelete
    · next d _ =>
      refine (ReadOnly.upholds keeps_readOnly h).bind fun kept c1 hkeeps h1 => ?_
      rw [ReadOnly.returns_eq keeps_readOnly hkeeps]
      split
      · refine (h.upholds_update hb).bind fun r c2 hupdate h2 => ?_
        have hrest2 : ∀ x ∈ rest, Listed s c2 x := fun x hx =>
          (hrest x hx).of_origin (update_changes hupdate).2.1
        exact (ih h2 hrest2).bind fun more c3 _ h3 => upholds_done h3 _
      · exact hdelete

/-- Creating a secondary whose address is a public pin, if it has one, can be reverted at any point.
-/
theorem upholds_create (h : Reversible s c0 c) {zone name : String} {d : BalancerSpec}
    (hpinned : ∀ a ∈ d.address, a ∈ s.cluster.network.publicPins) :
    (Secondary.create s zone name d).Upholds (Reversible s c0) c := by
  refine Secondary.create_upholds_of h fun type addressId more hzone haddress hmore => ?_
  refine h.create (Scope.secondary_mem_madeWith hmore) (fun b hz ht => .inr ?_)
    (Scope.releases_created hmore) hpinned haddress
  exact ⟨hz ▸ hzone, ht ▸ Secondary.hasTags_append _ _⟩

/-- Creating the secondaries that are missing can be reverted at any point. -/
theorem upholds_createMissing {targets : List (String × String × BalancerSpec)}
    (h : Reversible s c0 c)
    (hpinned : ∀ t ∈ targets, ∀ a ∈ t.2.2.address, a ∈ s.cluster.network.publicPins) :
    ((reconciler s).createMissing taken targets).Upholds (Reversible s c0) c := by
  rw [Reconciler.createMissing_eq]
  refine (upholds_closed (Reversible s c0)).mapM' (fun t ht _ h => ?_) c h
  exact h.upholds_create (hpinned t (List.mem_of_mem_filter ht))

/-- Ensuring the secondaries can be reverted at any point. -/
theorem upholds_ensure (h : Reversible s c0 c)
    (hpinned : ∀ d ∈ desired, ∀ a ∈ d.address, a ∈ s.cluster.network.publicPins) :
    (Secondary.ensure s desired).Upholds (Reversible s c0) c := by
  rw [Secondary.ensure_eq]
  split
  · exact List.forall_mem_singleton.2 h
  · next wanted hwanted =>
    refine (ReadOnly.upholds Secondary.list_readOnly h).bind fun live c1 hlist h1 => ?_
    obtain ⟨rfl, rfl⟩ := (Site.findBalancers_returns (Secondary.tags_ne_nil s)).1 hlist
    have hlive : ∀ b ∈ s.site.balancersWith (Secondary.tags s) c1, Listed s c1 b := by
      intro b hb
      obtain ⟨hmem, hsec⟩ := Secondary.mem_listed.1 hb
      refine ⟨hsec.2, fun x hx hid => ?_⟩
      rw [h1.overlay.sound.balancers.inj hx hmem hid]
    -- What is created is declared, as are its pins.
    have htargets : ∀ t ∈ (reconciler s).targets wanted,
        ∀ a ∈ t.2.2.address, a ∈ s.cluster.network.publicPins := by
      intro t ht
      obtain ⟨i, hi, _⟩ := Reconciler.desiredAt_eq_some
        (Secondary.desiredAt_of_mem_targets hwanted t ht)
      exact hpinned _ (List.mem_of_mem_filter (List.mem_of_getElem? hi))
    refine (h1.upholds_retain hlive).bind fun kept c2 _ h2 => ?_
    exact Upholds.bind (h2.upholds_createMissing htargets) fun created c3 _ h3 => upholds_done h3 _

end Topology.Reversible

end ControlPlane
