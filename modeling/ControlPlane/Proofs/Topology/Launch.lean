import ControlPlane.Proofs.Cloud.Rooted
import ControlPlane.Proofs.Settings.Pins
import ControlPlane.Proofs.Topology.Filling
import ControlPlane.Proofs.Topology.Idempotence
import ControlPlane.Proofs.Topology.Isolation
import ControlPlane.Proofs.Topology.Underway

/-!
# The first run of a cluster

On a cloud where a cluster owns no load balancer (`Vacant`), a run that is not interrupted makes the
primary, then the secondaries, and then goes on with these alone (`Phases.launch`). What it has made
so far it made with fresh ids, so nothing hangs on them yet (`Launch.blank`). All load balancers it
makes are a fleet, and once the last one is there the rest can be taken up from there
(`Launch.underway`). It takes from the declaration that no private address is pinned twice, which is
so in all settings that are accepted (`Settings.clashes_of_read`).
-/

namespace ControlPlane

open Program hiding ofExcept
open Cloud (numbered)

namespace Secondary

variable {s : Scope} {desired : List BalancerSpec} {d d' : BalancerSpec} {address : String}
  {x y : LoadBalancer}

/-- An address that is pinned once only is pinned at one position. -/
theorem index_eq_of_pin (hpins : (desired.filterMap (·.privateAddress)).Nodup) {i j : Nat}
    (hi : desired[i]? = some d) (hj : desired[j]? = some d')
    (hd : d.privateAddress = some address) (hd' : d'.privateAddress = some address) : i = j := by
  have hpairs := List.pairwise_iff_getElem.1 (List.pairwise_filterMap.1 hpins)
  obtain ⟨hilt, rfl⟩ := List.getElem?_eq_some_iff.1 hi
  obtain ⟨hjlt, rfl⟩ := List.getElem?_eq_some_iff.1 hj
  rcases Nat.lt_trichotomy i j with hlt | heq | hgt
  · exact absurd rfl (hpairs i j hilt hjlt hlt address hd address hd')
  · exact heq
  · exact absurd rfl (hpairs j i hjlt hilt hgt address hd' address hd)

/-- Only one place is pinned to an address. -/
theorem place_eq_of_pin (hpins : (desired.filterMap (·.privateAddress)).Nodup)
    (hx : declared s desired x = some d) (hy : declared s desired y = some d')
    (hd : d.privateAddress = some address) (hd' : d'.privateAddress = some address) :
    place x = place y := by
  obtain ⟨i, hi, hiname⟩ := Reconciler.desiredAt_eq_some hx
  obtain ⟨j, hj, hjname⟩ := Reconciler.desiredAt_eq_some hy
  have hsub : ∀ zone, ((reconciler s).desiredIn zone desired).Sublist desired := fun zone =>
    List.filter_sublist
  have hmem := List.mem_of_getElem? hi
  have hmem' := List.mem_of_getElem? hj
  -- A pin stands in the whole list once, and so both are declared by the same entry.
  have hself : d = d' := by
    obtain ⟨k, hk⟩ := List.mem_iff_getElem?.1 ((hsub _).subset hmem)
    obtain ⟨k', hk'⟩ := List.mem_iff_getElem?.1 ((hsub _).subset hmem')
    rw [index_eq_of_pin hpins hk hk' hd hd', hk'] at hk
    exact (Option.some.inj hk).symm
  have hzone : x.zone = y.zone := by
    have hz := Reconciler.desiredZone_of_mem hmem
    rw [hself, Reconciler.desiredZone_of_mem hmem'] at hz
    exact (Except.ok.inj hz).symm
  rw [hzone] at hi
  -- The entries of their zone are a part of the list, in which it stands once too.
  have hij : i = j := index_eq_of_pin (hpins.sublist ((hsub _).filterMap _)) hi hj hd hd'
  refine Prod.ext hzone ?_
  show x.name = y.name
  rw [← hiname, ← hjname, hij]

end Secondary

/-! ## Clouds to start on -/

namespace Topology

open Secondary (Filled Target)

/-- A cloud on which a cluster has no load balancers. -/
structure Vacant (s : Scope) (c : Cloud) : Prop where
  sound : c.Sound
  rooted : c.Rooted
  unowned : ∀ b ∈ c.balancers, s.owns b.tags = false

variable {s : Scope} {q x y : LoadBalancer} {wanted : List (String × List BalancerSpec)}
  {new : List LoadBalancer} {filled rest : List Target} {c0 c1 c2 v : Cloud}

/-- What is owned later was made with a fresh id, and nothing hangs on it. -/
theorem Vacant.blank (h : Vacant s c0) (hv : c0.Restructures v) (hx : x ∈ v.balancers)
    (hown : s.owns x.tags = true) : Cloud.Blank x.id v := by
  rcases hv.origin x hx with ⟨b, hb, heq⟩ | ⟨n, hn, hid⟩
  · rw [heq] at hown
    exact absurd (h.unowned b hb).symm (hown ▸ Bool.noConfusion)
  · have hblank : Cloud.Blank x.id c0 := hid ▸ h.rooted.blank hn
    exact hblank.of_untouched (hv.untouched x.id (.inl ⟨x, hx, rfl⟩))

/-- The load balancers of the topology carry the tags of the cluster. -/
theorem owns_of_inTopology (h : InTopology s x) : s.owns x.tags = true :=
  h.elim (fun hprimary => owns_of_primaryTags hprimary.2) fun hsec => owns_of_secondaryTags hsec.2

/-- What a run goes on with, the primary last. -/
def members (s : Scope) (q : LoadBalancer) (new : List LoadBalancer) : List LoadBalancer :=
  new.map (Secondary.pinned s s.secondaries) ++ [pinnedPrimary s q]

/-- A run goes on with the new secondaries, as they are pinned, and with the primary. -/
theorem mem_members : x ∈ members s q new ↔
    (∃ y ∈ new, Secondary.pinned s s.secondaries y = x) ∨ x = pinnedPrimary s q := by
  unfold members
  rw [List.mem_append, List.mem_map, List.mem_singleton]

/-- But for its private address, a member is a load balancer of the cloud. -/
theorem exists_of_mem_members (h : x ∈ members s q new) :
    ∃ y ∈ new ++ [q], x = { y with privateAddress := x.privateAddress } := by
  rcases mem_members.1 h with ⟨y, hy, rfl⟩ | rfl
  · exact ⟨y, List.mem_append_left _ hy, rfl⟩
  · exact ⟨q, List.mem_append_right _ (List.mem_singleton_self q), rfl⟩

/-- Pins do not change ids. -/
theorem map_id_members : (members s q new).map (·.id) = (new ++ [q]).map (·.id) := by
  unfold members
  rw [List.map_append, List.map_append, Secondary.map_id_pinned]
  rfl

/-- An undisturbed run on a vacant cloud: it makes the primary `q` and the secondaries `new`. -/
structure Launch (s : Scope) (q : LoadBalancer) (wanted : List (String × List BalancerSpec))
    (new : List LoadBalancer) (c0 c1 c2 : Cloud) : Prop where
  vacant : Vacant s c0
  primary : (ensurePrimary s).Returns c0 (pinnedPrimary s q) c1
  course : Course s q wanted c1 c2
  adds : Secondary.Adds s s.secondaries ((Secondary.reconciler s).targets wanted) [] new c1 c2
  pins : s.cluster.network.privatePins.Nodup
  ready : ∀ x ∈ members s q new, x.status = .ready
  published : ∃ c3, (ensurePrivateNetwork s (members s q new)).Returns c2
      ((members s q new).map (settled s c3)) c3 ∧
    ∀ x ∈ members s q new, ∃ address, publishedAddress s (settled s c3 x) = .ok address

/-- All secondaries have been created in the end. -/
theorem Course.ends (h : Course s q wanted c1 c2) :
    Filled s ((Secondary.reconciler s).targets wanted) [] c1 c2 c2 :=
  ⟨h.secondaries, [], rfl⟩

/-- None has been created at first. -/
theorem Course.begins (h : Course s q wanted c1 c2) :
    Filled s [] ((Secondary.reconciler s).targets wanted) c1 c2 c1 :=
  ⟨⟨[], rfl⟩, h.secondaries⟩

namespace Launch

/-- Up to any point, the run only creates load balancers. -/
theorem restructures (h : Launch s q wanted new c0 c1 c2) (hv : Filled s filled rest c1 c2 v) :
    c0.Restructures v := by
  obtain ⟨created, hcreated⟩ := hv.before
  have hprimary := h.vacant.sound.restructures_of_returns ensurePrimary_orderly h.primary
  exact hprimary.trans
    (h.course.sound.restructures_of_returns Secondary.createMissing_structural hcreated)

/-- The cloud on which all load balancers are made is sound. -/
theorem sound (h : Launch s q wanted new c0 c1 c2) : c2.Sound := by
  obtain ⟨created, hcreated⟩ := h.course.secondaries
  exact h.course.sound.returns hcreated

/-- The load balancers that are made are there, in the topology and in zones of the region. -/
theorem mem_balancers (h : Launch s q wanted new c0 c1 c2) (hy : y ∈ new ++ [q]) :
    y ∈ c2.balancers ∧ InTopology s y ∧ y.zone ∈ s.site.zones := by
  rw [h.adds.balancers, List.mem_append]
  rcases List.mem_append.1 hy with hnew | hq
  · exact ⟨.inr hnew, .inr (h.adds.secondary y hnew), (h.adds.secondary y hnew).1⟩
  · rw [List.mem_singleton.1 hq]
    exact ⟨.inl h.course.primary.mem, .inl h.course.primary.primary, h.course.zone⟩

/-- Every load balancer of the cluster has been made by the run. -/
theorem mem_of_inTopology (h : Launch s q wanted new c0 c1 c2) (hx : x ∈ c2.balancers)
    (htop : InTopology s x) : x ∈ new ++ [q] := by
  rw [h.adds.balancers, List.mem_append] at hx
  rcases hx, htop with ⟨hold | hnew, hprimary | hsec⟩
  · have hself : x = q := h.course.primary.unique x hold hprimary
    exact List.mem_append_right _ (List.mem_singleton.2 hself)
  · exact absurd hsec (h.course.apart x hold)
  · exact List.mem_append_left _ hnew
  · exact List.mem_append_left _ hnew

/-- The load balancers that a run goes on with have ids of their own. -/
theorem nodup_ids (h : Launch s q wanted new c0 c1 c2) :
    ((members s q new).map (·.id)).Nodup := by
  have hids := h.sound.balancers.nodup
  rw [h.adds.balancers, List.map_append, List.nodup_append'] at hids
  obtain ⟨_, hnew, hdisjoint⟩ := hids
  rw [map_id_members, List.map_append, List.nodup_append']
  refine ⟨hnew, List.nodup_singleton _, fun id hid hq => ?_⟩
  rw [List.map_singleton, List.mem_singleton] at hq
  exact hdisjoint (hq ▸ List.mem_map_of_mem h.course.primary.mem) hid

/-- No two members are pinned to one private address. -/
theorem id_eq_of_pin (h : Launch s q wanted new c0 c1 c2) {address : String}
    (hx : x ∈ members s q new) (hy : y ∈ members s q new)
    (hxpin : x.privateAddress = some address) (hypin : y.privateAddress = some address) :
    x.id = y.id := by
  have hpins := h.pins
  unfold NetworkSpec.privatePins at hpins
  have hsecondaries : (s.secondaries.filterMap (·.privateAddress)).Nodup :=
    hpins.sublist ((List.sublist_cons_self _ _).filterMap _)
  have hdeclared : ∀ z ∈ new, (Secondary.pinned s s.secondaries z).privateAddress = some address →
      ∃ d, Secondary.declared s s.secondaries z = some d ∧ d.privateAddress = some address :=
    fun z _ hz => Option.bind_eq_some_iff.1 hz
  -- A secondary is not pinned to the primary's address.
  have hprimary : ∀ z ∈ new, (Secondary.pinned s s.secondaries z).privateAddress = some address →
      s.primary.privateAddress ≠ some address := by
    intro z hz hzpin hqpin
    obtain ⟨d, hd, hdpin⟩ := hdeclared z hz hzpin
    obtain ⟨i, hi, _⟩ := Reconciler.desiredAt_eq_some hd
    have hmem : d ∈ s.secondaries := List.mem_of_mem_filter (List.mem_of_getElem? hi)
    obtain ⟨k, hk⟩ := List.mem_iff_getElem?.1 hmem
    have hpositions := Secondary.index_eq_of_pin hpins (i := 0) (j := k + 1)
      List.getElem?_cons_zero (List.getElem?_cons_succ.trans hk) hqpin hdpin
    cases hpositions
  rcases mem_members.1 hx, mem_members.1 hy with ⟨⟨z, hz, rfl⟩ | rfl, ⟨z', hz', rfl⟩ | rfl⟩
  · obtain ⟨d, hd, hdpin⟩ := hdeclared z hz hxpin
    obtain ⟨d', hd', hdpin'⟩ := hdeclared z' hz' hypin
    have hplace : Secondary.place z = Secondary.place z' :=
      Secondary.place_eq_of_pin hsecondaries hd hd' hdpin hdpin'
    have hplaces := h.adds.nodup_places List.nodup_nil
      (Reconciler.nodup_targets (Secondary.desiredName_injective s) h.course.groups)
    rw [List.inj_on_of_nodup_map hplaces hz hz' hplace]
  · exact absurd hypin (hprimary z hz hxpin)
  · exact absurd hxpin (hprimary z' hz' hypin)
  · rfl

/-- What the run makes is a fleet. -/
def fleet (h : Launch s q wanted new c0 c1 c2) : Fleet s where
  -- The members are the load balancers as they go on from here, whatever their types.
  base := c2
  members := (members s q new).map (·.untyped)
  main := q.id
  there := by
    intro y hy
    obtain ⟨x, hx, rfl⟩ := List.mem_map.1 hy
    obtain ⟨z, hz, heq⟩ := exists_of_mem_members hx
    have hid : z.id = x.id := by rw [heq]
    exact ⟨z, (h.mem_balancers hz).1, hid⟩
  zones := by
    intro y hy
    obtain ⟨x, hx, rfl⟩ := List.mem_map.1 hy
    obtain ⟨z, hz, heq⟩ := exists_of_mem_members hx
    have hzone : x.zone = z.zone := by rw [heq]
    show x.zone ∈ s.site.zones
    rw [hzone]
    exact (h.mem_balancers hz).2.2
  ids := by
    intro y hy y' hy' hid
    obtain ⟨x, hx, rfl⟩ := List.mem_map.1 hy
    obtain ⟨x', hx', rfl⟩ := List.mem_map.1 hy'
    rw [List.inj_on_of_nodup_map h.nodup_ids hx hx' hid]
  pins := by
    intro y hy y' hy' address hpin hpin'
    obtain ⟨x, hx, rfl⟩ := List.mem_map.1 hy
    obtain ⟨x', hx', rfl⟩ := List.mem_map.1 hy'
    show x.id = x'.id
    exact h.id_eq_of_pin hx hx' hpin hpin'
  main_mem := by
    have hmem : pinnedPrimary s q ∈ members s q new := mem_members.2 (.inr rfl)
    exact List.mem_map_of_mem (f := (·.id)) (List.mem_map_of_mem (f := (·.untyped)) hmem)

/-- Nothing hangs on the members yet when all of them are there. -/
theorem blank (h : Launch s q wanted new c0 c1 c2) (hx : x ∈ members s q new) :
    Cloud.Blank x.id c2 := by
  obtain ⟨z, hz, heq⟩ := exists_of_mem_members hx
  have hid : x.id = z.id := by rw [heq]
  obtain ⟨hmem, htop, _⟩ := h.mem_balancers hz
  rw [hid]
  exact h.vacant.blank (h.restructures h.course.ends) hmem (owns_of_inTopology htop)

/-- A pinned private address was there to be given. -/
theorem pin_available (h : Launch s q wanted new c0 c1 c2) {networkId address : String}
    (hnetwork : s.privateNetworkId = some networkId) (hx : x ∈ members s q new)
    (hpin : x.privateAddress = some address) :
    ∃ e ∈ Site.availableIn networkId c2, e.address = address := by
  obtain ⟨c3, hreturns, _⟩ := h.published
  obtain ⟨⟨u, hattach⟩, _⟩ := (ensurePrivateNetwork_spec hreturns).2.2 networkId hnetwork
  have hfree : ∀ b ∈ members s q new, (c2.attachments.filter fun a =>
      decide (a.networkId = networkId) && decide (a.balancerId = b.id)) = [] := fun b hb =>
    Cloud.filter_and_eq_nil (h.blank hb).attachments
  exact attachAll_pins hattach nofun (List.Subset.refl _) h.nodup_ids hfree x hx address hpin

/-- Once all load balancers are there, everything is to be done yet. -/
theorem underway (h : Launch s q wanted new c0 c1 c2) : Underway h.fleet c2 := by
  have hno : ∀ y ∈ h.fleet.members, Cloud.Blank y.id c2 := by
    intro y hy
    obtain ⟨x, hx, rfl⟩ := List.mem_map.1 hy
    have hblank : Cloud.Blank x.id c2 := h.blank hx
    exact hblank
  have hports : ∀ y ∈ h.fleet.members, (c2.frontends.filter fun f =>
      decide (f.name = frontendName) && decide (f.balancerId = y.id)) = [] := fun y hy =>
    Cloud.filter_and_eq_nil (hno y hy).frontends
  have hnone : ∀ y ∈ h.fleet.members, ∀ f, ¬HasFrontend c2 y.id f := fun y hy f hf =>
    List.cons_ne_nil _ _ (hf.symm.trans (hports y hy))
  refine ⟨h.sound, rfl, rfl, rfl, fun networkId hnetwork y hy => ?_, fun y hy => .inl ?_,
    fun y hy => .inl (hports y hy), fun y hy f hf => absurd hf (hnone y hy f), fun f hf => ?_,
    fun n hn => ?_⟩
  · obtain ⟨x, hx, rfl⟩ := List.mem_map.1 hy
    have hblank := hno x.untyped hy
    refine .pending (Cloud.filter_and_eq_nil hblank.attachments) ?_ fun address hpin =>
      h.pin_available hnetwork hx hpin
    rw [Site.heldIn_singleton, hblank.privateAddresses]
    rfl
  · exact Cloud.filter_and_eq_nil (hno y hy).backends
  · obtain ⟨y, hy, hid⟩ := List.mem_map.1 h.fleet.main_mem
    exact absurd (hid ▸ hf) (hnone y hy f)
  -- No frontend had the id, so that its rules are as they were, and none was referred to.
  · have hrestructures := h.restructures h.course.ends
    have hle : c0.nextId ≤ n := Nat.le_trans hrestructures.nextId hn
    have hrules := hrestructures.rules (numbered "frontend" n) fun f hf hid =>
      absurd (hid ▸ List.mem_map_of_mem hf) (h.vacant.sound.frontends.fresh n hle)
    refine hrules.trans (List.filter_eq_nil_iff.2 fun r hr hid => ?_)
    exact h.vacant.rooted.rules r hr n hle (of_decide_eq_true hid)

/-- Where a member has no pin, it was given an address because addresses are booked. -/
theorem books (h : Launch s q wanted new c0 c1 c2) {networkId : String}
    (hnetwork : s.privateNetworkId = some networkId) (hy : y ∈ h.fleet.members)
    (hnone : y.privateAddress = none) : c2.booksAddresses = true := by
  obtain ⟨x, hx, rfl⟩ := List.mem_map.1 hy
  obtain ⟨c3, hreturns, _⟩ := h.published
  obtain ⟨⟨u, hattach⟩, hsettled⟩ := (ensurePrivateNetwork_spec hreturns).2.2 networkId hnetwork
  obtain ⟨_, hattached, hne⟩ := hsettled x hx
  have hmembers : ∀ b ∈ members s q new, b.untyped ∈ h.fleet.members := fun b hb =>
    List.mem_map_of_mem hb
  have hachieves : (attachAll s.site networkId none (members s q new)).Achieves
      (Underway h.fleet) c2 fun _ _ => True :=
    h.underway.attachAll_achieves hnetwork hmembers h.nodup_ids nofun
  have hlater : Underway h.fleet c3 := hachieves.upholds.of_returns hattach
  have hbooks : c3.booksAddresses = c2.booksAddresses := hlater.books
  rw [← hbooks]
  have hjoining := hlater.joining_of_mem hnetwork (hmembers x hx)
  exact hjoining.books_of_settled hnetwork hattached hnone hne

end Launch

namespace Phases

variable {b : LoadBalancer} {bs : List LoadBalancer} {ks : List Backend} {m : FrontendMap}
  {c c3 c4 c5 c' : Cloud}

/-- A run that is not interrupted, on a cloud where the cluster has nothing. -/
theorem launch (h : Phases s b bs ks m c c1 c2 c3 c4 c5 c') (hc : Vacant s c)
    (hzones : s.site.zones.Nodup) (hclashes : s.cluster.network.clashes = [])
    (hpublished : ∀ x ∈ bs ++ [b], ∃ address, publishedAddress s (settled s c3 x) = .ok address) :
    ∃ q wanted new, Launch s q wanted new c c1 c2 ∧ b = pinnedPrimary s q ∧
      bs = new.map (Secondary.pinned s s.secondaries) := by
  obtain ⟨q, hb, hq⟩ := ensurePrimary_spec hc.sound h.primary
  have hprimary := h.primary
  rw [hb] at hprimary
  have hsound : c1.Sound := hc.sound.returns h.primary
  have hapart : ∀ x ∈ c1.balancers, ¬Secondary.IsSecondary s x := by
    intro x hx hsec
    rcases hq.origin x hx with ⟨x0, hx0, heq⟩ | htags
    · have hown := owns_of_secondaryTags hsec.2
      rw [heq] at hown
      exact absurd (hc.unowned x0 hx0).symm (hown ▸ Bool.noConfusion)
    · exact not_isSecondary_of_tags htags hsec
  -- Nothing is listed, so that all targets are created.
  have hlisted : s.site.balancersWith (Secondary.tags s) c1 = [] :=
    List.eq_nil_iff_forall_not_mem.2 fun x hx =>
      hapart x (Secondary.mem_listed.1 hx).1 (Secondary.mem_listed.1 hx).2
  have hensure := h.secondaries
  rw [Secondary.ensure_eq] at hensure
  split at hensure
  · exact (returns_fail hensure).elim
  · next wanted hwanted =>
    obtain ⟨live, c1', hlist, hrest⟩ := returns_bind.1 hensure
    obtain ⟨rfl, rfl⟩ := (Site.findBalancers_returns (Secondary.tags_ne_nil s)).1 hlist
    rw [hlisted] at hrest
    obtain ⟨kept, c1'', hretain, hrest'⟩ := returns_bind.1 hrest
    obtain ⟨rfl, rfl⟩ := returns_done.1 hretain
    obtain ⟨created, c2', hcreated, hdone⟩ := returns_bind.1 hrest'
    obtain ⟨rfl, rfl⟩ := returns_done.1 hdone
    obtain ⟨new, hnew, hadds⟩ := Secondary.createMissing_spec hsound
      (Secondary.desiredAt_of_mem_targets hwanted) hcreated
    have hmembers : bs ++ [b] = members s q new := by
      unfold members
      rw [hnew, hb]
      rfl
    refine ⟨q, wanted, new, ?_, hb, hnew⟩
    exact {
      vacant := hc
      primary := hprimary
      course := ⟨hzones, hsound, hq.only, hq.zone, hapart, hwanted, _, hcreated⟩
      adds := hadds
      pins := (NetworkSpec.clashes_eq_nil_iff.1 hclashes).2
      ready := hmembers ▸ checkReady_eq_ok.1 h.ready
      published := hmembers ▸ ⟨c3, h.network, hpublished⟩ }

end Phases

end Topology

end ControlPlane
