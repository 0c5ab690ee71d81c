import ControlPlane.Proofs.Topology.Steady

/-!
# A second run

On the cloud that a run leaves, a second run of the same declaration sends look-ups only and
publishes the same addresses (`reconcile_idempotent`). For the cloud is steady then
(`reconcile_steady`): each phase has left what it looks for, and no later one has changed that. The
second run may list the secondaries in another order; they are published in the order of their
places, of which no two are the same.

This is not so where a load balancer carries the tags of a primary and those of a secondary: each of
the two declarations then brings it to its own type, in every run anew.
-/

namespace ControlPlane

open Program hiding ofExcept
open Cloud (numbered)

/-! ## Secondaries -/

namespace Secondary

variable {s : Scope} {c c' : Cloud} {b : LoadBalancer} {d : BalancerSpec}

/-- What holds no private address can get the declared one. -/
theorem fitsPrivately_of_none (h : c.privateAddresses.filter (·.holder = some b.id) = []) :
    fitsPrivately s c b d = true := by
  unfold fitsPrivately
  split
  · next address networkId _ _ =>
    have hnone : Site.heldIn networkId [b.id] c = [] := by
      rw [Site.heldIn_singleton, h]
      rfl
    dsimp only
    rw [hnone]
    rfl
  · rfl

end Secondary

namespace Topology

open Secondary (listed)

variable {s : Scope}

/-- The setting in which a run need not be repeated: zones are distinct, no secondary declares an
empty type, no load balancer has two roles, and no private address is held by a load balancer that
is still to come. -/
structure Repeatable (s : Scope) (c : Cloud) : Prop where
  zones : s.site.zones.Nodup
  types : ∀ d ∈ s.secondaries, d.type ≠ some ""
  roles : RolesApart s c
  holders : ∀ n, c.nextId ≤ n → ∀ a ∈ c.privateAddresses, a.holder ≠ some (numbered "lb" n)

namespace Phases

variable {b : LoadBalancer} {bs : List LoadBalancer} {ks : List Backend} {m : FrontendMap}
  {c c1 c2 c3 c4 c5 c' : Cloud}

/-- After the private network is ensured, the private addresses stay as they are. -/
theorem privateAddresses_eq (h : Phases s b bs ks m c c1 c2 c3 c4 c5 c') :
    c'.privateAddresses = c3.privateAddresses := by
  rw [h.of_parts]

/-- After the private network is ensured, the attachments stay as they are. -/
theorem attachments_eq (h : Phases s b bs ks m c c1 c2 c3 c4 c5 c') :
    c'.attachments = c3.attachments := by
  rw [h.of_parts]

/-- After the private network is ensured, so does everything that is settled about it. -/
theorem settled_eq (h : Phases s b bs ks m c c1 c2 c3 c4 c5 c') : settled s c' = settled s c3 := by
  funext x
  unfold settled heldAddress
  rw [h.privateAddresses_eq]

/-! ### What each phase has left -/

/-- The private address of a secondary that has been ensured does not stand against its declaration
in the end. -/
theorem fitsPrivately (h : Phases s b bs ks m c c1 c2 c3 c4 c5 c') (hc : c.Sound)
    (hrun : Repeatable s c) {all : List LoadBalancer}
    (hbs : bs = all.map (Secondary.pinned s s.secondaries))
    (hall : Secondary.Ensures s s.secondaries all c1 c2) {x : LoadBalancer} (hx : x ∈ all)
    {d : BalancerSpec} (hd : Secondary.declared s s.secondaries x = some d) :
    Secondary.fitsPrivately s c' x d = true := by
  have hstart : Secondary.fitsPrivately s c2 x d = true := by
    rcases hall.fitsPrivately x hx with hfits | ⟨n, hn, hid⟩
    · exact hfits d hd
    -- A new load balancer holds nothing, as nothing was held under its id.
    · have hle : c.nextId ≤ n := by
        calc c.nextId ≤ c1.nextId := Cloud.nextId_le_of_returns h.primary
          _ ≤ n := hn
      have huntouched : Cloud.Untouched x.id c c2 :=
        (h.restructures hc).untouched x.id (.inl ⟨x, hall.mem x hx, rfl⟩)
      have hnone : c.privateAddresses.filter (·.holder = some x.id) = [] := by
        rw [List.filter_eq_nil_iff]
        intro a ha hholder
        rw [hid] at hholder
        exact hrun.holders n hle a ha (of_decide_eq_true hholder)
      exact Secondary.fitsPrivately_of_none (huntouched.privateAddresses.trans hnone)
  rw [Secondary.fitsPrivately_congr h.privateAddresses_eq]
  cases hnetwork : s.privateNetworkId with
  | none =>
    unfold Secondary.fitsPrivately
    rw [hnetwork]
    split
    · next hnone => cases hnone
    · rfl
  | some networkId =>
    obtain ⟨⟨_, hattach⟩, _⟩ := (ensurePrivateNetwork_spec h.network).2.2 networkId hnetwork
    have hids := (h.sound_secondaries hc).balancers
    have hpin : ∀ y ∈ bs ++ [b], y.id = x.id → y.privateAddress = d.privateAddress := by
      intro y hy hid
      rcases List.mem_append.1 hy with hy | hy
      · rw [hbs] at hy
        obtain ⟨y0, hy0, rfl⟩ := List.mem_map.1 hy
        have hself : y0 = x := hids.inj (hall.mem y0 hy0) (hall.mem x hx) hid
        rw [hself, Secondary.pinned, hd]
        rfl
      -- The primary is no secondary.
      · obtain ⟨q, hb, hq, hsec, _⟩ := h.hasPrimary hc hrun.roles
        rw [List.mem_singleton.1 hy, hb] at hid
        have hmem : q ∈ c2.balancers := h.balancers_eq ▸ hq.mem
        have hself : q = x := hids.inj hmem (hall.mem x hx) hid
        exact absurd (hself ▸ hall.secondary x hx) hsec
    exact attachAll_fitsPrivately (h.sound_secondaries hc) hnetwork hpin hattach hstart

/-- The secondaries are listed as they have been left, maybe in another order. -/
theorem listed_perm (h : Phases s b bs ks m c c1 c2 c3 c4 c5 c') (hc : c.Sound)
    (hdistinct : s.site.zones.Nodup) :
    ∃ all, bs = all.map (Secondary.pinned s s.secondaries) ∧
      Secondary.Ensures s s.secondaries all c1 c2 ∧ (listed s c').Perm all := by
  have hc1 := h.sound_primary hc
  have hc' := h.sound_rules hc
  obtain ⟨all, hbs, hall⟩ :=
    Secondary.ensure_spec hc1 (Secondary.nodup_listed hc1 hdistinct) h.secondaries
  have hlisted := List.Nodup.of_map _ (Secondary.nodup_listed hc' hdistinct)
  refine ⟨all, hbs, hall,
    (List.perm_ext_iff_of_nodup hlisted (List.Nodup.of_map _ hall.places)).2 fun x => ?_⟩
  rw [Secondary.mem_listed, h.balancers_eq]
  exact ⟨fun hx => hall.complete x hx.1 hx.2, fun hx => ⟨hall.mem x hx, hall.secondary x hx⟩⟩

/-- The secondaries that a run ensures are all the secondaries at its end. -/
theorem pinned_perm (h : Phases s b bs ks m c c1 c2 c3 c4 c5 c') (hc : c.Sound)
    (hdistinct : s.site.zones.Nodup) : (pinnedSecondaries s c').Perm bs := by
  obtain ⟨all, rfl, _, hperm⟩ := h.listed_perm hc hdistinct
  exact hperm.map _

/-- The load balancers in the end are those that are declared. -/
theorem placed (h : Phases s b bs ks m c c1 c2 c3 c4 c5 c') (hc : c.Sound)
    (hrun : Repeatable s c) : ∃ q, b = pinnedPrimary s q ∧ Placed s q c' := by
  obtain ⟨q, hprimary, hq, hsec, hzone, htype⟩ := h.hasPrimary hc hrun.roles
  have hb : b = pinnedPrimary s q := hprimary
  obtain ⟨wanted, _, _, _, hw, _⟩ := Secondary.ensure_cases (h.sound_primary hc) h.secondaries
  obtain ⟨all, hbs, hall, hperm⟩ := h.listed_perm hc hrun.zones
  have hpinned := h.pinned_perm hc hrun.zones
  refine ⟨q, hb, ?_⟩
  constructor
  case primary => exact hq
  case zone => exact hzone
  case type => exact htype
  case apart => exact hsec
  case groups => exact ⟨wanted, hw⟩
  case ids => exact Secondary.nodup_listed (h.sound_rules hc) hrun.zones
  case places => exact (hperm.map Secondary.place).nodup_iff.2 hall.places
  case stays =>
    -- What was ensured stays: it fits, and is of its type.
    intro x hx
    have hx' : x ∈ all := hperm.mem_iff.1 hx
    obtain ⟨d, hd, hfits⟩ := hall.fits x hx'
    have hprivate := h.fitsPrivately hc hrun hbs hall hx' hd
    have hmem : d ∈ s.secondaries := by
      obtain ⟨i, hi, _⟩ := Reconciler.desiredAt_eq_some hd
      exact List.mem_of_mem_filter (List.mem_of_getElem? hi)
    exact ⟨d, hd, hfits, hprivate, hrun.types d hmem⟩
  case filled =>
    intro zone i hi
    obtain ⟨x, hx, hplace⟩ := hall.filled zone i hi
    exact ⟨x, hperm.mem_iff.2 hx, hplace⟩
  case ready =>
    have hready := checkReady_eq_ok.1 h.ready
    intro x hx
    rcases List.mem_append.1 hx with hx | hx
    · have hx' : Secondary.pinned s s.secondaries x ∈ bs := by
        rw [hbs]
        exact List.mem_map_of_mem (hperm.mem_iff.1 hx)
      have hstatus := hready _ (List.mem_append_left [b] hx')
      exact hstatus
    · have hstatus := hready b (List.mem_append_right _ (List.mem_singleton_self b))
      rw [hb] at hstatus
      rw [List.mem_singleton.1 hx]
      exact hstatus
  case attached =>
    intro networkId hnetwork x hx
    obtain ⟨_, hattach⟩ := (ensurePrivateNetwork_spec h.network).2.2 networkId hnetwork
    rw [← hb] at hx
    obtain ⟨_, hattached, hsettled⟩ := hattach x ((hpinned.append_right [b]).mem_iff.1 hx)
    unfold IsAttached
    rw [h.attachments_eq, h.settled_eq]
    exact ⟨hattached, hsettled⟩

/-- The secondaries in the end have been settled, as has the primary. -/
theorem mem_settled (h : Phases s b bs ks m c c1 c2 c3 c4 c5 c') (hc : c.Sound) {q : LoadBalancer}
    (hb : b = pinnedPrimary s q) {x : LoadBalancer} (hx : x = q ∨ x ∈ listed s c') :
    ∃ y ∈ settled s c3 b :: bs.map (settled s c3), y.id = x.id := by
  rcases hx with rfl | hx
  · refine ⟨_, List.mem_cons_self, ?_⟩
    rw [hb]
    rfl
  · obtain ⟨hmem, hsec⟩ := Secondary.mem_listed.1 hx
    exact h.exists_settled hc hmem (.inr hsec)

/-- The load balancers in the end serve what the primary serves. -/
theorem serves (h : Phases s b bs ks m c c1 c2 c3 c4 c5 c') (hc : c.Sound) {q : LoadBalancer}
    (hb : b = pinnedPrimary s q) : Serves s q c' := by
  have hlater := h.backends_eq.2
  obtain ⟨k, more, hks, hk, _, hall, _⟩ := ensureBackends_spec (h.sound_network hc) h.backends
  obtain ⟨hmaps, hnodup, hkeys, hzones, _⟩ := h.frontends_spec
  have hqid : q.id = b.id := (congrArg LoadBalancer.id hb).symm
  -- Every load balancer at the end was one of the run's, and got a backend with the primary's
  -- servers.
  have hfound : ∀ x, x = q ∨ x ∈ listed s c' →
      ∃ k' ∈ ks, HasBackend c' x.id k' ∧ k'.pool.Perm k.pool := by
    intro x hx
    obtain ⟨y, hy, hid⟩ := h.mem_settled hc hb hx
    obtain ⟨_, k', hk', hhas, hpool⟩ := hall y hy
    exact ⟨k', hk', hid ▸ hhas.congr hlater, hpool⟩
  constructor
  case pools =>
    have hkmem : k ∈ ks := hks ▸ List.mem_cons_self
    refine ⟨k, ?_, hzones k hkmem, fun x hx => ?_⟩
    · rw [hqid]
      exact hk.congr hlater
    · obtain ⟨k', hk', hhas, hpool⟩ := hfound x (.inr hx)
      exact ⟨k', hhas, hzones k' hk', hpool⟩
  case rules =>
    obtain ⟨f, hlookup, hzone, hrules, _, hcopies⟩ :=
      Access.sync_spec (h.sound_frontends hc) h.rules
    have hentry : (b.id, f) ∈ m := (Reconciler.lookup_eq_some_iff_mem hnodup).1 hlookup
    -- What is desired depends on gateways only, which no phase changes.
    have hdesired : Access.desiredOn s c5 = Access.desiredOn s c' := by
      unfold Access.desiredOn
      rw [h.gatewaySubnets_eq hc]
    refine ⟨f, ?_, hzone, fun d hd => hrules d (hdesired ▸ hd), fun x hx => ?_⟩
    · rw [hqid]
      exact hmaps _ hentry
    · obtain ⟨k', hk', hhas, _⟩ := hfound x (.inr hx)
      have hkey : x.id ∈ m.map (·.1) := by
        rw [hkeys, ← hhas.balancerId]
        exact List.mem_map_of_mem hk'
      obtain ⟨g, _, hg⟩ := FrontendMap.exists_lookup hkey
      refine ⟨g, hmaps _ hg, ?_⟩
      -- The primary's own frontend has its own rules, and the others have copies.
      by_cases hid : x.id = b.id
      · rw [hid] at hg
        have hsame : g = f := (hmaps _ hg).unique (hmaps _ hentry)
        rw [hsame]
        exact ⟨hzone, RuleSpec.sameRules_refl _⟩
      · exact hcopies _ hg hid

end Phases

/-! ## Publishing -/

/-- Load balancers at distinct places are published in one order, however they are listed. -/
theorem mergeSort_eq_of_places {xs ys : List LoadBalancer}
    (hplaces : (xs.map Secondary.place).Nodup) (h : xs.Perm ys) :
    xs.mergeSort byZoneAndName = ys.mergeSort byZoneAndName := by
  -- The order is that of the places, zone by zone.
  have hiff : ∀ a b, byZoneAndName a b = true ↔
      a.zone < b.zone ∨ a.zone = b.zone ∧ a.name ≤ b.name := by
    intro a b
    unfold byZoneAndName
    rw [Bool.or_eq_true, Bool.and_eq_true, decide_eq_true_eq, decide_eq_true_eq,
      decide_eq_true_eq]
  refine mergeSort_eq_of_perm ?trans ?total ?antisymm h
  case trans =>
    intro a b d hab hbd
    rw [hiff] at hab hbd ⊢
    rcases hab with hab | ⟨hab, hab'⟩
    · rcases hbd with hbd | ⟨hbd, _⟩
      · exact .inl (String.lt_trans hab hbd)
      · exact .inl (hbd ▸ hab)
    · rcases hbd with hbd | ⟨hbd, hbd'⟩
      · exact .inl (hab ▸ hbd)
      · exact .inr ⟨hab.trans hbd, String.le_trans hab' hbd'⟩
  case total =>
    intro a b
    rw [Bool.or_eq_true, hiff, hiff]
    by_cases hlt : a.zone < b.zone
    · exact .inl (.inl hlt)
    · by_cases hgt : b.zone < a.zone
      · exact .inr (.inl hgt)
      · have heq := String.le_antisymm (String.not_lt.1 hgt) (String.not_lt.1 hlt)
        exact (String.le_total a.name b.name).imp (fun hle => .inr ⟨heq, hle⟩)
          fun hle => .inr ⟨heq.symm, hle⟩
  case antisymm =>
    intro a ha b hb hab hba
    rw [hiff] at hab hba
    refine List.inj_on_of_nodup_map hplaces ha hb ?_
    rcases hab with hlt | ⟨heq, hle⟩
    · rcases hba with hlt' | ⟨heq', _⟩
      · exact absurd (String.lt_trans hlt hlt') (String.lt_irrefl _)
      · exact absurd (heq' ▸ hlt) (String.lt_irrefl _)
    · rcases hba with hlt' | ⟨_, hle'⟩
      · exact absurd (heq ▸ hlt') (String.lt_irrefl _)
      · exact Prod.ext heq (String.le_antisymm hle hle')

/-- The cloud that a run leaves is steady, and a run there publishes what the first run did. -/
theorem reconcile_steady {deadline : Option Seconds} {x x' : Session Cloud} {u : Unit}
    (hc : x.world.store.Sound) (hrun : Repeatable s x.world.store)
    (h : (reconcile s).run Cloud.provider deadline x = (.ok u, x')) :
    ∃ q main, x'.status.address = some main ∧
      Steady s q main x'.status.secondaryAddresses x'.world.store := by
  obtain ⟨b, bs, main, others, harrange, hmain, hothers, haddress, haddresses⟩ := reconcile_run h
  obtain ⟨b, bs, _, _, _, _, c3, _, _, heq, hphases⟩ := arrange_returns harrange
  cases heq
  obtain ⟨q, rfl, hplaced⟩ := hphases.placed hc hrun
  have hserves : Serves s q x'.world.store := hphases.serves hc rfl
  -- The places tell the secondaries apart, so that they are published in the same order.
  have hplaces : (((pinnedSecondaries s x'.world.store).map (settled s c3)).map
      Secondary.place).Nodup := by
    rw [pinnedSecondaries, List.map_map, List.map_map]
    exact hplaced.places
  have hsort := mergeSort_eq_of_places hplaces ((hphases.pinned_perm hc hrun.zones).map (settled s c3))
  rw [← hsort, ← hphases.settled_eq] at hothers
  rw [← hphases.settled_eq] at hmain
  exact ⟨q, main, haddress, hphases.sound_rules hc, hplaced, hserves, hmain,
    haddresses.symm ▸ hothers⟩

/-- On the cloud that a run leaves, a second run of the same declaration returns, changes nothing,
sends look-ups only, and publishes the same addresses. -/
theorem reconcile_idempotent {deadline deadline' : Option Seconds} {x x' y : Session Cloud}
    {u : Unit} (hc : x.world.store.Sound) (hrun : Repeatable s x.world.store)
    (h : (reconcile s).run Cloud.provider deadline x = (.ok u, x'))
    (hstore : y.world.store = x'.world.store) (hlive : y.Live deadline') :
    ∃ y', (reconcile s).run Cloud.provider deadline' y = (.ok (), y') ∧
      y'.world.store = x'.world.store ∧
      (∃ calls, y'.calls = y.calls ++ calls ∧ ∀ k ∈ calls, k.request.isMutation = false) ∧
      y'.status.address = x'.status.address ∧
      y'.status.secondaryAddresses = x'.status.secondaryAddresses := by
  obtain ⟨q, main, haddress, hsteady⟩ := reconcile_steady hc hrun h
  rw [← hstore] at hsteady
  obtain ⟨y', hrun', hsame, hcalls, haddress', hothers'⟩ := hsteady.run hlive
  exact ⟨y', hrun', hsame.trans hstore, hcalls, haddress'.trans haddress.symm, hothers'⟩

/-- The sample cloud has no two roles, and its second run finds nothing to do. -/
theorem sample_run_twice : ∃ x' y', (reconcile (Sample.scope ["10.0.0.0/8"])).run Cloud.provider
      none (Sample.session Sample.cloud) = (.ok (), x') ∧
    (reconcile (Sample.scope ["10.0.0.0/8"])).run Cloud.provider none
      (Sample.session x'.world.store) = (.ok (), y') ∧
    (∀ k ∈ y'.calls, k.request.isMutation = false) ∧
    y'.status.address = x'.status.address ∧
    y'.status.secondaryAddresses = x'.status.secondaryAddresses := by
  obtain ⟨_, x', h⟩ := Sample.exists_of_isOk (r := (reconcile (Sample.scope ["10.0.0.0/8"])).run
    Cloud.provider none (Sample.session Sample.cloud)) (by decide +kernel)
  have hrepeatable : Repeatable (Sample.scope ["10.0.0.0/8"]) Sample.cloud :=
    ⟨by decide +kernel, by decide +kernel, by decide +kernel, fun _ _ => nofun⟩
  have hstore : (Sample.session x'.world.store).world.store = x'.world.store := rfl
  have hlive : (Sample.session x'.world.store).Live none := rfl
  obtain ⟨y', hrun, _, ⟨calls, hcalls, hlookups⟩, hstatus⟩ :=
    reconcile_idempotent Sample.cloud_sound hrepeatable h hstore hlive
  refine ⟨x', y', h, hrun, fun k hk => hlookups k ?_, hstatus⟩
  rw [hcalls] at hk
  exact hk

end Topology

/-! ## Two roles -/

namespace Sample

/-- A load balancer with the tags of a primary and those of a secondary, at the place of the
declared secondary. -/
def ambiguous : Cloud where
  balancers :=
    [{ id := "both", zone := "fr-par-1", name := "demo-0", type := "lb-s"
       tags := (scope []).tags [Tag.primary, Tag.secondary, Tag.managedAddress]
       addresses := [{ id := "first", address := "51.15.0.1", zone := "fr-par-1" }] }]

/-- The cloud with a load balancer of two roles is sound. -/
theorem ambiguous_sound : ambiguous.Sound := by
  refine ⟨?_, ?_, ?_, ?_, ?_, ?_⟩ <;> exact .of_foreign (by decide +kernel) (by decide +kernel)

end Sample

namespace Topology

/-- A load balancer with two roles is migrated twice in every run, to the type of the primary and to
that of the secondary; so a second run does not find everything done. -/
theorem not_idempotent_with_two_roles :
    ¬∀ (s : Scope) (x x' y : Session Cloud), x.world.store.Sound → s.site.zones.Nodup →
      (∀ d ∈ s.secondaries, d.type ≠ some "") →
      (∀ n, x.world.store.nextId ≤ n → ∀ a ∈ x.world.store.privateAddresses,
        a.holder ≠ some (numbered "lb" n)) →
      x.Live none → (reconcile s).run Cloud.provider none x = (.ok (), x') →
      y.world.store = x'.world.store → y.Live none →
      ∃ y', (reconcile s).run Cloud.provider none y = (.ok (), y') ∧
        ∃ calls, y'.calls = y.calls ++ calls ∧ ∀ k ∈ calls, k.request.isMutation = false := by
  intro hclaim
  -- The secondary declares another type than the primary has by default.
  let first := (reconcile (Sample.scope [])).run Cloud.provider none
    (Sample.session Sample.ambiguous)
  let second := (reconcile (Sample.scope [])).run Cloud.provider none
    (Sample.session first.2.world.store)
  obtain ⟨_, x', h⟩ := Sample.exists_of_isOk (r := first) (by decide +kernel)
  have hmutates : second.2.calls.any (·.request.isMutation) = true := by decide +kernel
  have hx' : first.2 = x' := congrArg (·.2) h
  obtain ⟨y', hrun, calls, hcalls, hlookups⟩ := hclaim (Sample.scope [])
    (Sample.session Sample.ambiguous) x' (Sample.session x'.world.store) Sample.ambiguous_sound
    (by decide +kernel) (by decide +kernel) (fun _ _ => nofun) rfl h rfl rfl
  have hy' : second.2 = y' := by
    show ((reconcile (Sample.scope [])).run Cloud.provider none
      (Sample.session first.2.world.store)).2 = y'
    rw [hx', hrun]
  rw [hy', hcalls, List.any_eq_true] at hmutates
  obtain ⟨k, hk, hmutation⟩ := hmutates
  exact Bool.false_ne_true ((hlookups k hk).symm.trans hmutation)

end Topology

end ControlPlane
