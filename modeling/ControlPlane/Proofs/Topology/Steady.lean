import ControlPlane.Proofs.Topology.Convergence
import ControlPlane.Proofs.Topology.Standstill

/-!
# Clouds on which a run has nothing to do

`Steady` says of a cloud alone what a run looks for and would otherwise bring about: one primary and
the declared secondaries, all of them ready, attached and with an address (`Placed`), and with the
pool and the rules of the primary on every one of them (`Serves`). On a steady cloud a run sends
look-ups only, and publishes the addresses that the load balancers have (`Steady.run`).

Which load balancers there are does not depend on what they serve, so what changes pools and rules
alone leaves a cloud steady as soon as it leaves them equal.
-/

namespace ControlPlane

open Program hiding ofExcept

namespace Secondary

variable {s : Scope} {c c' : Cloud} {b : LoadBalancer} {d : BalancerSpec}

/-- The secondaries of a cluster as they are listed, zone by zone. -/
abbrev listed (s : Scope) (c : Cloud) : List LoadBalancer := s.site.balancersWith (tags s) c

/-- Where zones are distinct, every load balancer is listed once. -/
theorem nodup_listed (hc : c.Sound) (hzones : s.site.zones.Nodup) :
    ((listed s c).map (·.id)).Nodup := by
  unfold listed Site.balancersWith
  rw [List.map_flatMap, List.nodup_flatMap]
  refine ⟨fun zone _ => hc.balancers.nodup.sublist (List.filter_sublist.map _), ?_⟩
  -- A load balancer is in one zone only.
  refine hzones.imp fun {zone zone'} hne => ?_
  intro id hid hid'
  obtain ⟨x, hx, rfl⟩ := List.mem_map.1 hid
  obtain ⟨y, hy, heq⟩ := List.mem_map.1 hid'
  rw [List.mem_filter, Bool.and_eq_true, decide_eq_true_eq] at hx hy
  have hsame : y = x := hc.balancers.inj hy.1 hx.1 heq
  rw [hsame] at hy
  exact hne (hx.2.2.symm.trans hy.2.2)

/-- What is listed depends on the load balancers only. -/
theorem listed_congr (h : c'.balancers = c.balancers) : listed s c' = listed s c := by
  unfold listed Site.balancersWith
  rw [h]

/-- The private address depends on the private addresses alone. -/
theorem fitsPrivately_congr (h : c'.privateAddresses = c.privateAddresses) :
    fitsPrivately s c' b d = fitsPrivately s c b d := by
  unfold fitsPrivately Site.heldIn
  rw [h]

/-- Whether a load balancer stays depends on the private addresses only. -/
theorem Stays.congr (h : Stays s c b d) (hc' : c'.privateAddresses = c.privateAddresses) :
    Stays s c' b d :=
  ⟨h.fits, (fitsPrivately_congr hc').trans h.fitsPrivately, h.type⟩

end Secondary

namespace Topology

open Secondary (listed)

variable {s : Scope} {q : LoadBalancer} {c c' : Cloud}

/-- The primary with the private address that is declared for it. -/
def pinnedPrimary (s : Scope) (q : LoadBalancer) : LoadBalancer :=
  { q with privateAddress := s.primary.privateAddress }

/-- The secondaries with the private addresses that are declared for them. -/
def pinnedSecondaries (s : Scope) (c : Cloud) : List LoadBalancer :=
  (listed s c).map (Secondary.pinned s s.secondaries)

/-- The load balancers are those that are declared, with `q` as the primary, and they are ready and
attached. -/
structure Placed (s : Scope) (q : LoadBalancer) (c : Cloud) : Prop where
  primary : HasPrimary s q c
  zone : q.zone ∈ s.site.zones
  type : sameType q.type s.primary.resolvedType = true
  apart : ¬Secondary.IsSecondary s q
  groups : ∃ wanted, (Secondary.reconciler s).groups s.secondaries = .ok wanted
  ids : ((listed s c).map (·.id)).Nodup
  places : ((listed s c).map Secondary.place).Nodup
  stays : ∀ b ∈ listed s c, ∃ d, Secondary.declared s s.secondaries b = some d ∧
    Secondary.Stays s c b d
  filled : ∀ zone i, i < ((Secondary.reconciler s).desiredIn zone s.secondaries).length →
    ∃ b ∈ listed s c, Secondary.place b = (zone, Secondary.desiredName s i)
  ready : ∀ b ∈ listed s c ++ [q], b.status = .ready
  attached : ∀ networkId, s.privateNetworkId = some networkId →
    ∀ b ∈ pinnedSecondaries s c ++ [pinnedPrimary s q],
      IsAttached c b.id networkId ∧ (settled s c b).privateAddress ≠ none

/-- The load balancers that there are have pools with the servers of the primary's pool, and
frontends whose rules agree with those of the primary's frontend, which are as desired. -/
structure Serves (s : Scope) (q : LoadBalancer) (c : Cloud) : Prop where
  pools : ∃ k, HasBackend c q.id k ∧ k.zone ∈ s.site.zones ∧ ∀ b ∈ listed s c,
    ∃ k', HasBackend c b.id k' ∧ k'.zone ∈ s.site.zones ∧ k'.pool.Perm k.pool
  rules : ∃ f, HasFrontend c q.id f ∧ f.zone ∈ s.site.zones ∧
    (∀ d ∈ Access.desiredOn s c, Access.HasRule (Access.rulesOf c f.id) d.name d.subnets) ∧
    ∀ b ∈ listed s c, ∃ g, HasFrontend c b.id g ∧ g.zone ∈ s.site.zones ∧
      Access.Agree (Access.rulesOf c f.id) c g.id

/-- A cloud on which a run has nothing to do but to publish some addresses. -/
structure Steady (s : Scope) (q : LoadBalancer) (main : String) (others : List String)
    (c : Cloud) : Prop where
  sound : c.Sound
  placed : Placed s q c
  serves : Serves s q c
  main : publishedAddress s (settled s c (pinnedPrimary s q)) = .ok main
  others : (((pinnedSecondaries s c).map (settled s c)).mergeSort byZoneAndName).mapM
    (publishedAddress s) = .ok others

namespace Placed

/-- What is settled about load balancers depends on the private addresses alone. -/
theorem settled_congr (h : c'.privateAddresses = c.privateAddresses) :
    settled s c' = settled s c := by
  funext b
  unfold settled heldAddress
  rw [h]

/-- Which load balancers there are, and where, does not depend on what they serve. -/
theorem congr (h : Placed s q c) (hbalancers : c'.balancers = c.balancers)
    (hattachments : c'.attachments = c.attachments)
    (hprivate : c'.privateAddresses = c.privateAddresses) : Placed s q c' := by
  -- All of it speaks of load balancers, attachments and private addresses only.
  have hlisted : listed s c' = listed s c := Secondary.listed_congr hbalancers
  constructor
  case primary => exact ⟨hbalancers ▸ h.primary.mem, h.primary.primary, hbalancers ▸ h.primary.unique⟩
  case zone => exact h.zone
  case type => exact h.type
  case apart => exact h.apart
  case groups => exact h.groups
  case ids => exact hlisted ▸ h.ids
  case places => exact hlisted ▸ h.places
  case stays =>
    rw [hlisted]
    intro b hb
    obtain ⟨d, hd, hstays⟩ := h.stays b hb
    exact ⟨d, hd, hstays.congr hprivate⟩
  case filled => exact hlisted ▸ h.filled
  case ready => exact hlisted ▸ h.ready
  case attached =>
    unfold pinnedSecondaries IsAttached
    rw [hlisted, hattachments, settled_congr hprivate]
    exact h.attached

/-! ### The load balancers -/

/-- The primary that is placed is found, and not changed. -/
theorem primary_idles (h : Placed s q c) (hc : c.Sound) :
    (ensurePrimary s).Idles c (pinnedPrimary s q) :=
  ensurePrimary_idles hc h.primary h.zone h.type

/-- The secondaries that are placed are found, and not changed. -/
theorem secondaries_idles (h : Placed s q c) :
    (Secondary.ensure s s.secondaries).Idles c (pinnedSecondaries s c) := by
  obtain ⟨wanted, hw⟩ := h.groups
  exact Secondary.ensure_idles hw h.places h.stays h.filled

/-- What holds of the load balancers as they are stored holds of them as they are declared, if it is
not about private addresses. -/
theorem forall_pinned {P : LoadBalancer → Prop} (hP : ∀ b a, P b → P { b with privateAddress := a })
    (hall : ∀ b ∈ listed s c ++ [q], P b) :
    ∀ b ∈ pinnedSecondaries s c ++ [pinnedPrimary s q], P b := by
  intro b hb
  rcases List.mem_append.1 hb with hb | hb
  · obtain ⟨b0, hb0, rfl⟩ := List.mem_map.1 hb
    exact hP b0 _ (hall b0 (List.mem_append_left _ hb0))
  · rw [List.mem_singleton.1 hb]
    exact hP q _ (hall q (List.mem_append_right _ (List.mem_singleton_self q)))

/-- Load balancers that are placed pass the check that they are ready. -/
theorem ready_idles (h : Placed s q c) :
    (Program.ofExcept (checkReady (pinnedSecondaries s c ++ [pinnedPrimary s q]))).Idles c () := by
  refine idles_ofExcept (checkReady_eq_ok.2 ?_) c
  exact forall_pinned (fun _ _ hb => hb) h.ready

/-- Load balancers that are placed are in zones of the region. -/
theorem zones (h : Placed s q c) : ∀ b ∈ listed s c ++ [q], b.zone ∈ s.site.zones := by
  intro b hb
  rcases List.mem_append.1 hb with hb | hb
  · exact (Secondary.mem_listed.1 hb).2.1
  · rw [List.mem_singleton.1 hb]
    exact h.zone

/-- Load balancers that are placed are attached, and each is given back with its address. -/
theorem network_idles (h : Placed s q c) :
    (ensurePrivateNetwork s (pinnedSecondaries s c ++ [pinnedPrimary s q])).Idles c
      ((pinnedSecondaries s c ++ [pinnedPrimary s q]).map (settled s c)) := by
  refine ensurePrivateNetwork_idles fun networkId hnetwork b hb => ?_
  have hzones : ∀ b ∈ pinnedSecondaries s c ++ [pinnedPrimary s q], b.zone ∈ s.site.zones :=
    forall_pinned (fun _ _ hb => hb) h.zones
  exact ⟨hzones b hb, h.attached networkId hnetwork b hb⟩

end Placed

/-! ### What they serve -/

/-- The load balancers whose backends are ensured, by id. -/
theorem exists_listed {b : LoadBalancer}
    (hb : b ∈ settled s c (pinnedPrimary s q) :: (pinnedSecondaries s c).map (settled s c)) :
    ∃ b0 ∈ q :: listed s c, b.id = b0.id ∧ b.zone = b0.zone := by
  rcases List.mem_cons.1 hb with rfl | hb
  · exact ⟨q, List.mem_cons_self, rfl, rfl⟩
  · obtain ⟨b1, hb1, rfl⟩ := List.mem_map.1 hb
    obtain ⟨b0, hb0, rfl⟩ := List.mem_map.1 hb1
    exact ⟨b0, List.mem_cons_of_mem _ hb0, rfl, rfl⟩

/-- The backends are found, each of a load balancer that is listed, and the primary's is one of
them. -/
theorem Steady.backends_idles {main : String} {others : List String}
    (h : Steady s q main others c) :
    ∃ ks, (ensureBackends s.site (settled s c (pinnedPrimary s q))
        ((pinnedSecondaries s c).map (settled s c))).Idles c ks ∧
      (∀ k ∈ ks, k.zone ∈ s.site.zones ∧ ∃ b ∈ q :: listed s c, k.balancerId = b.id) ∧
      q.id ∈ ks.map (·.balancerId) := by
  obtain ⟨k, hk, hkzone, hall⟩ := h.serves.pools
  -- Every load balancer has a backend with the servers of the primary's.
  have hhas : ∀ b ∈ q :: listed s c, ∃ k', HasBackend c b.id k' ∧ k'.zone ∈ s.site.zones ∧
      k'.pool.Perm k.pool := by
    rintro b (_ | ⟨_, hb⟩)
    · exact ⟨k, hk, hkzone, List.Perm.refl _⟩
    · exact hall b hb
  have hfound : ∀ b ∈ settled s c (pinnedPrimary s q) :: (pinnedSecondaries s c).map (settled s c),
      b.zone ∈ s.site.zones ∧ ∃ k', HasBackend c b.id k' ∧ k'.pool.Perm k.pool := by
    intro b hb
    obtain ⟨b0, hb0, hid, hzone⟩ := exists_listed hb
    obtain ⟨k', hk', _, hpool⟩ := hhas b0 hb0
    refine ⟨?_, k', hid ▸ hk', hpool⟩
    rw [hzone]
    exact h.placed.zones b0 ((List.perm_append_singleton q (listed s c)).mem_iff.2 hb0)
  have hmain : HasBackend c (settled s c (pinnedPrimary s q)).id k := hk
  obtain ⟨ks, hidles⟩ := ensureBackends_idles hmain hfound
  obtain ⟨k0, more, hks, hk0, _, _, hfrom⟩ := ensureBackends_spec h.sound hidles.returns
  -- The backends that are returned are those, in zones of the region.
  refine ⟨ks, hidles, fun k1 hk1 => ?_, ?_⟩
  · obtain ⟨b, hb, hk1'⟩ := hfrom k1 hk1
    obtain ⟨b0, hb0, hid, _⟩ := exists_listed hb
    rw [hid] at hk1'
    obtain ⟨k', hk', hzone, _⟩ := hhas b0 hb0
    refine ⟨?_, b0, hb0, hk1'.balancerId⟩
    rw [hk1'.unique hk']
    exact hzone
  · have hid : k0.balancerId = q.id := hk0.balancerId
    rw [hks, List.map_cons, hid]
    exact List.mem_cons_self

/-- The frontends of backends are found, and their rules are as they shall be. -/
theorem Serves.rules_idle (h : Serves s q c) {ks : List Backend}
    (hks : ∀ k ∈ ks, k.zone ∈ s.site.zones ∧ ∃ b ∈ q :: listed s c, k.balancerId = b.id)
    (hself : q.id ∈ ks.map (·.balancerId)) :
    ∃ m, (ensureFrontends s [] ks).Idles c m ∧ (Access.sync s q.id m).Idles c () := by
  obtain ⟨f, hf, hzone, hrules, hall⟩ := h.rules
  have hhas : ∀ b ∈ q :: listed s c, ∃ g, HasFrontend c b.id g ∧ g.zone ∈ s.site.zones ∧
      Access.Agree (Access.rulesOf c f.id) c g.id := by
    rintro b (_ | ⟨_, hb⟩)
    · exact ⟨f, hf, hzone, RuleSpec.sameRules_refl _⟩
    · exact hall b hb
  have hfound : ∀ k ∈ ks, k.zone ∈ s.site.zones ∧ ∃ g, HasFrontend c k.balancerId g := by
    intro k hk
    obtain ⟨hkzone, b, hb, hid⟩ := hks k hk
    obtain ⟨g, hg, _⟩ := hhas b hb
    exact ⟨hkzone, g, hid ▸ hg⟩
  obtain ⟨m, hidles⟩ : ∃ m, (ensureFrontends s [] ks).Idles c m := ensureFrontends_idles hfound
  have hnone : FrontendMap.Maps [] c := fun _ he => absurd he List.not_mem_nil
  obtain ⟨hmaps, _, hkeys, _⟩ := ensureFrontends_spec hnone List.nodup_nil hidles.returns
  obtain ⟨f', hlookup, hentry⟩ := FrontendMap.exists_lookup ((hkeys q.id).2 (.inr hself))
  have hf' : f' = f := (hmaps _ hentry).unique hf
  subst hf'
  refine ⟨m, hidles, Access.sync_idles hlookup hzone hrules fun e he _ => ?_⟩
  -- Every frontend of the map is that of a load balancer that is listed.
  obtain ⟨k, hk, hid⟩ := List.mem_map.1
    (((hkeys e.1).1 (List.mem_map_of_mem he)).resolve_left List.not_mem_nil)
  obtain ⟨_, b, hb, hbid⟩ := hks k hk
  obtain ⟨g, hg, hgzone, hagree⟩ := hhas b hb
  have hentry' : HasFrontend c b.id e.2 := by
    rw [← hbid, hid]
    exact hmaps e he
  rw [hentry'.unique hg]
  exact ⟨hgzone, hagree⟩

namespace Steady

variable {main : String} {others : List String}

/-- The whole run, up to what is published, sends look-ups only. -/
theorem arrange_idles (h : Steady s q main others c) :
    (arrange s).Idles c
      (settled s c (pinnedPrimary s q), (pinnedSecondaries s c).map (settled s c)) := by
  obtain ⟨ks, hbackends, hks, hself⟩ := h.backends_idles
  obtain ⟨m, hfrontends, hrules⟩ := h.serves.rules_idle hks hself
  unfold arrange
  refine (h.placed.primary_idles h.sound).bind (h.placed.secondaries_idles.bind ?_)
  refine h.placed.ready_idles.bind (h.placed.network_idles.bind ?_)
  dsimp only
  rw [(settled_append c _ _).1, (settled_append c _ _).2]
  exact hbackends.bind (hfrontends.bind (hrules.bind (idles_done _ c)))

/-- In a live session on a steady cloud, a run returns, changes nothing, sends look-ups only, and
publishes the addresses. -/
theorem run {deadline : Option Seconds} {y : Session Cloud}
    (h : Steady s q main others y.world.store) (hlive : y.Live deadline) :
    ∃ y', (reconcile s).run Cloud.provider deadline y = (.ok (), y') ∧
      y'.world.store = y.world.store ∧
      (∃ calls, y'.calls = y.calls ++ calls ∧ ∀ k ∈ calls, k.request.isMutation = false) ∧
      y'.status.address = some main ∧ y'.status.secondaryAddresses = others := by
  obtain ⟨calls, log, hrun, hcalls⟩ := h.arrange_idles.run hlive
  refine ⟨{ y with
    calls := y.calls ++ calls
    log := y.log ++ log
    status := { y.status with address := some main, secondaryAddresses := others } }, ?_, rfl,
    ⟨calls, rfl, hcalls⟩, rfl, rfl⟩
  rw [reconcile_eq, run_bind, hrun]
  exact publish_run.2 ⟨main, others, h.main, h.others, rfl⟩

end Steady

end Topology

end ControlPlane
