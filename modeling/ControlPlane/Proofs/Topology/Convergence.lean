import ControlPlane.Proofs.Topology.Phases

/-!
# What a run leaves

Three statements about the cloud at the end of a run that returns, whatever the cloud was at the
start: which secondaries there are (`ensureSecondaries_converges`), that backends and frontends
agree on every load balancer (`reconcile_wires`), and which rules each frontend has
(`reconcile_admits`).
They are about any session with a cloud in memory, with a deadline or without. What is asked of the
cloud is that ids name resources and that fresh ids are fresh (`Cloud.Sound`), and for the
secondaries that no load balancer is listed twice.

The statements are about the load balancers that there are in the end, told by their tags and zones.
The phases of a run (`Phases`) say which of them it has met.
-/

namespace ControlPlane

open Program hiding ofExcept

/-! ## A sample -/

namespace Sample

/-- A cluster on a private network with one secondary load balancer. -/
def scope (ranges : List String) : Scope where
  site :=
    { region := ⟨"fr-par"⟩
      projectId := "project"
      balancerZones := ["fr-par-1", "fr-par-2"]
      gatewayZones := ["fr-par-1"] }
  cluster :=
    { name := "demo"
      namespaceName := "infra"
      network :=
        { privateNetwork := { enabled := true, id := some "net" }
          primary := { allowedRanges := ranges }
          secondaries := [{ type := some "LB-GP-M" }] } }

/-- What may have become of the cluster's cloud: a secondary of another type and without servers,
a stray one, a frontend on another port, and a rule that was added by hand. -/
def cloud : Cloud where
  balancers :=
    [{ id := "main", zone := "fr-par-1", name := "demo", type := "lb-s"
       tags := Topology.primaryTags (scope [])
       addresses := [{ id := "first", address := "51.15.0.1", zone := "fr-par-1" }] },
     { id := "small", zone := "fr-par-1", name := "demo-0", type := "lb-s"
       tags := Secondary.tags (scope []) ++ [Tag.managedAddress]
       addresses := [{ id := "second", address := "51.15.0.2", zone := "fr-par-1" }] },
     { id := "stray", zone := "fr-par-1", name := "demo-7", type := "lb-s"
       tags := Secondary.tags (scope []) }]
  backends :=
    [{ id := "pool", balancerId := "main", zone := "fr-par-1", name := Topology.backendName
       forwardPort := 6443, pool := ["10.1.0.2"] },
     { id := "empty", balancerId := "small", zone := "fr-par-1", name := Topology.backendName
       forwardPort := 6443 }]
  frontends :=
    [{ id := "port", balancerId := "main", zone := "fr-par-1", name := Topology.frontendName
       inboundPort := 443, backendId := "pool" }]
  rules :=
    [{ name := "member", index := 5, action := .allow, subnets := ["10.2.0.0/16"]
       id := "rule", frontendId := "port" }]
  gateways :=
    [{ id := "gate", zone := "fr-par-1", name := "gate", tags := (scope []).tags []
       v4 := some "51.15.0.9" }]

/-- A session that starts on a cloud. -/
def session (c : Cloud) : Session Cloud := { world := { store := c, now := 0, canceled := false } }

/-- The cloud of the examples is sound. -/
theorem cloud_sound : cloud.Sound := by
  refine ⟨?_, ?_, ?_, ?_, ?_, ?_⟩ <;> exact .of_foreign (by decide +kernel) (by decide +kernel)

/-- What a program returns, if it does, it returns in a session. -/
theorem exists_of_isOk {α σ : Type} {r : Except Failure α × σ} (h : r.1.isOk = true) :
    ∃ a x, r = (.ok a, x) := by
  obtain ⟨e | a, x⟩ := r
  · cases h
  · exact ⟨a, x, rfl⟩

end Sample

/-! ## The secondaries -/

namespace Secondary

/-- The declarations of secondaries in a zone, in order. -/
def specsIn (s : Scope) (zone : String) : List BalancerSpec :=
  s.secondaries.filter fun d => match s.site.region.resolve d.zone with
    | .ok z => z = zone
    | .error _ => false

/-- The secondaries of the cluster that there are. -/
def present (s : Scope) (c : Cloud) : List LoadBalancer :=
  c.balancers.filter fun b => decide (b.zone ∈ s.site.zones) && hasTags b.tags (tags s)

/-- A load balancer as the cloud stores it, without the private address that a run sets. -/
def bare (b : LoadBalancer) : LoadBalancer := { b with privateAddress := none }

/-- A load balancer is as declared: of the type, if one is declared and not empty; and, if it is
public, under an address that the provider allocated or under the pinned one. -/
structure AsDeclared (s : Scope) (d : BalancerSpec) (b : LoadBalancer) : Prop where
  type : ∀ t, d.type = some t → t ≠ "" → Text.lower b.type = Text.lower t
  allocated : s.balancersPrivate = false → d.address = none →
    Tag.managedAddress ∈ b.tags ∧ b.addresses ≠ []
  pinned : s.balancersPrivate = false → ∀ address, d.address = some address →
    ∃ a ∈ b.addresses, a.address = address

/-- The secondaries are exactly those that are declared, one for each position in each zone, and
`bs` are these. -/
structure Converged (s : Scope) (bs : List LoadBalancer) (c : Cloud) : Prop where
  placed : ∀ b ∈ present s c, ∃ i, i < (specsIn s b.zone).length ∧
    b.name = s.resourceName [toString i]
  one : ∀ (zone : String) (i : Nat) (d : BalancerSpec), (specsIn s zone)[i]? = some d → ∃ b,
    (present s c).filter (fun b => b.zone = zone ∧ b.name = s.resourceName [toString i]) = [b] ∧
      AsDeclared s d b
  returned : (bs.map bare).Perm ((present s c).map bare)

variable {s : Scope} {c c' : Cloud}

/-- The secondaries that there are are the load balancers with the tags of one in the zones of the
region. -/
theorem mem_present {b : LoadBalancer} :
    b ∈ present s c ↔ b ∈ c.balancers ∧ IsSecondary s b := by
  unfold present
  rw [List.mem_filter, Bool.and_eq_true, decide_eq_true_eq]
  exact Iff.rfl

/-- The secondaries that there are have ids of their own. -/
theorem nodup_present (hc : c.Sound) : ((present s c).map (·.id)).Nodup :=
  hc.balancers.nodup.sublist (List.filter_sublist.map _)

/-- Where every declaration can be grouped, those of a zone are the ones that resolve to it. -/
theorem desiredIn_eq_specsIn {wanted : List (String × List BalancerSpec)}
    (hw : (reconciler s).groups s.secondaries = .ok wanted) (zone : String) :
    (reconciler s).desiredIn zone s.secondaries = specsIn s zone := by
  unfold Reconciler.desiredIn specsIn
  apply List.filter_congr
  intro d hd
  obtain ⟨z, hz⟩ := Reconciler.exists_zone hw d hd
  have hz' : desiredZone s d = .ok z := hz
  have hresolve := (desiredZone_eq_ok.1 hz').1
  rw [hz, hresolve]

/-- What fits is as declared. -/
theorem Fits.asDeclared {b : LoadBalancer} {d : BalancerSpec} (h : Fits s b d) :
    AsDeclared s d b := by
  constructor
  · intro t ht hne
    exact (sameType_iff.1 (h.type t ht hne)).symm
  · intro hpublic hnone
    have hfits := h.address hpublic
    unfold addressFits at hfits
    rw [hnone, Bool.and_eq_true, decide_eq_true_eq, decide_eq_true_eq] at hfits
    exact ⟨hfits.2, hfits.1⟩
  · -- A declared address is among those that it holds.
    intro hpublic address hsome
    have hfits := h.address hpublic
    unfold addressFits LoadBalancer.holds at hfits
    rw [hsome, Bool.and_eq_true, List.any_eq_true] at hfits
    obtain ⟨a, ha, haddress⟩ := hfits.2
    exact ⟨a, ha, of_decide_eq_true haddress⟩

/-- The secondaries that are ensured are those that are present. -/
theorem Ensures.perm_present {desired : List BalancerSpec} {all : List LoadBalancer}
    (h : Ensures s desired all c c') (hc' : c'.Sound) : all.Perm (present s c') := by
  -- Neither list holds a load balancer twice, and they hold the same ones.
  have hall : all.Nodup := List.Nodup.of_map _ h.places
  have hpresent : (present s c').Nodup := List.Nodup.of_map _ (nodup_present hc')
  refine (List.perm_ext_iff_of_nodup hall hpresent).2 fun b => ?_
  rw [mem_present]
  exact ⟨fun hb => ⟨h.mem b hb, h.secondary b hb⟩, fun hb => h.complete b hb.1 hb.2⟩

/-- Ensured secondaries have converged. -/
theorem Ensures.converged {wanted : List (String × List BalancerSpec)} {all : List LoadBalancer}
    (hw : (reconciler s).groups s.secondaries = .ok wanted)
    (h : Ensures s s.secondaries all c c') (hc' : c'.Sound) :
    Converged s (all.map (Secondary.pinned s s.secondaries)) c' := by
  have hperm : all.Perm (present s c') := h.perm_present hc'
  constructor
  case placed =>
    intro b hb
    obtain ⟨d, hd, _⟩ := h.fits b (hperm.mem_iff.2 hb)
    obtain ⟨i, hi, hname⟩ := Reconciler.desiredAt_eq_some hd
    rw [desiredIn_eq_specsIn hw] at hi
    obtain ⟨hlt, _⟩ := List.getElem?_eq_some_iff.1 hi
    exact ⟨i, hlt, hname.symm⟩
  case one =>
    intro zone i d hd
    rw [← desiredIn_eq_specsIn hw] at hd
    obtain ⟨hlt, _⟩ := List.getElem?_eq_some_iff.1 hd
    obtain ⟨b, hb, hplace⟩ := h.filled zone i hlt
    obtain ⟨hzone, hname⟩ := Prod.mk.inj hplace
    -- No other secondary is at this place.
    have hunique : ∀ x ∈ present s c',
        decide (x.zone = zone ∧ x.name = s.resourceName [toString i]) = true → x = b := by
      intro x hx hp
      obtain ⟨hxzone, hxname⟩ := of_decide_eq_true hp
      have hxplace : place x = (zone, desiredName s i) := Prod.ext hxzone hxname
      have hsame : place x = place b := hxplace.trans hplace.symm
      exact List.inj_on_of_nodup_map h.places (hperm.mem_iff.2 hx) hb hsame
    -- The one that is there fits what is declared for the place.
    have hat : declared s s.secondaries b = some d := by
      unfold declared
      rw [hzone, hname]
      show (reconciler s).desiredAt s.secondaries zone ((reconciler s).desiredName i) = _
      rw [Reconciler.desiredAt_desiredName (desiredName_injective s), hd]
    obtain ⟨d', hd', hfits⟩ := h.fits b hb
    cases hd'.symm.trans hat
    refine ⟨b, ?_, hfits.asDeclared⟩
    exact Topology.filter_eq_singleton (nodup_present hc') (hperm.mem_iff.1 hb)
      (decide_eq_true ⟨hzone, hname⟩) hunique
  case returned =>
    have hbare : (all.map (Secondary.pinned s s.secondaries)).map bare = all.map bare := by
      rw [List.map_map]
      rfl
    rw [hbare]
    exact hperm.map bare

end Secondary

namespace Topology

variable {s : Scope} {deadline : Option Seconds} {x x' : Session Cloud}

/-- Whatever the cloud was, once the secondaries have been ensured there is exactly one for each
declaration, as declared, and these are returned. -/
theorem ensureSecondaries_converges {bs : List LoadBalancer} (hc : x.world.store.Sound)
    (hlisted : ((s.site.balancersWith (Secondary.tags s) x.world.store).map (·.id)).Nodup)
    (h : (ensureSecondaries s false).run Cloud.provider deadline x = (.ok bs, x')) :
    Secondary.Converged s bs x'.world.store := by
  have hensure : (Secondary.ensure s s.secondaries).Returns x.world.store bs x'.world.store :=
    Secondary.ensure_orderly.returns h
  obtain ⟨wanted, _, _, _, hw, _⟩ := Secondary.ensure_cases hc hensure
  obtain ⟨all, rfl, hall⟩ := Secondary.ensure_spec hc hlisted hensure
  exact hall.converged hw (hc.returns hensure)

/-- The stray secondary goes, and the other one is brought to its type. -/
theorem sample_secondaries_converge : ∃ bs x', (ensureSecondaries (Sample.scope []) false).run
    Cloud.provider none (Sample.session Sample.cloud) = (.ok bs, x') ∧
      Secondary.Converged (Sample.scope []) bs x'.world.store := by
  obtain ⟨bs, x', h⟩ := Sample.exists_of_isOk (r := (ensureSecondaries (Sample.scope []) false).run
    Cloud.provider none (Sample.session Sample.cloud)) (by decide +kernel)
  exact ⟨bs, x', h, ensureSecondaries_converges Sample.cloud_sound (by decide +kernel) h⟩

/-! ## Backends and frontends -/

/-- The load balancer is one of the cluster's. -/
def InTopology (s : Scope) (b : LoadBalancer) : Prop :=
  IsPrimary s b ∨ Secondary.IsSecondary s b

/-- Backends and frontends agree on every load balancer of the topology at the end of a run from `c`
to `c'`. What was there is authoritative: the pool of the primary, and every frontend of a load
balancer that is still there. -/
structure Wired (s : Scope) (c c' : Cloud) : Prop where
  primary : ∃ p, HasPrimary s p c'
  backend : ∀ b ∈ c'.balancers, InTopology s b → ∃ k, HasBackend c' b.id k
  frontend : ∀ b ∈ c'.balancers, InTopology s b → ∃ f, HasFrontend c' b.id f
  pools : ∀ p ∈ c'.balancers, IsPrimary s p → ∀ b ∈ c'.balancers, Secondary.IsSecondary s b →
    ∀ kp k, HasBackend c' p.id kp → HasBackend c' b.id k → k.pool.Perm kp.pool
  backendKept : ∀ p ∈ c'.balancers, IsPrimary s p →
    ∀ k ∈ c.backends, k.name = backendName → k.balancerId = p.id → HasBackend c' p.id k
  frontendsKept : ∀ f ∈ c.frontends, (∃ b ∈ c'.balancers, b.id = f.balancerId) → f ∈ c'.frontends
  frontendsMade : ∀ f ∈ c'.frontends, f ∉ c.frontends → f.inboundPort = s.apiServerPort ∧
    ∃ k, HasBackend c' f.balancerId k ∧ f.backendId = k.id

/-- Which backend a load balancer has depends on the backends only. -/
theorem HasBackend.congr {c c' : Cloud} {id : String} {k : Backend} (h : HasBackend c id k)
    (hc : c'.backends = c.backends) : HasBackend c' id k := by
  unfold HasBackend
  rw [hc]
  exact h

/-- Which frontend a load balancer has depends on the frontends only. -/
theorem HasFrontend.congr {c c' : Cloud} {id : String} {f : Frontend} (h : HasFrontend c id f)
    (hc : c'.frontends = c.frontends) : HasFrontend c' id f := by
  unfold HasFrontend
  rw [hc]
  exact h

namespace Phases

variable {b : LoadBalancer} {bs : List LoadBalancer} {ks : List Backend} {m : FrontendMap}
  {c c1 c2 c3 c4 c5 c' : Cloud}

/-- A load balancer of the topology in the end is among those whose backends are ensured. -/
theorem exists_settled (h : Phases s b bs ks m c c1 c2 c3 c4 c5 c') (hc : c.Sound)
    {x : LoadBalancer} (hx : x ∈ c'.balancers) (htop : InTopology s x) :
    ∃ y ∈ settled s c3 b :: bs.map (settled s c3), y.id = x.id := by
  rcases htop with hprimary | hsec
  · exact ⟨_, List.mem_cons_self, (h.id_eq_of_isPrimary hc hx hprimary).symm⟩
  · obtain ⟨y, hy, hid⟩ := List.mem_map.1 (h.id_mem_of_isSecondary hc hx hsec)
    exact ⟨_, List.mem_cons_of_mem _ (List.mem_map_of_mem hy), hid⟩

/-- What ensuring the backends leaves at the end of the run: `k` is the primary's. -/
theorem exists_backends (h : Phases s b bs ks m c c1 c2 c3 c4 c5 c') (hc : c.Sound) :
    ∃ k, HasBackend c' b.id k ∧
      (∀ k0 ∈ c3.backends, k0.name = backendName → k0.balancerId = b.id → k0 = k) ∧
      (∀ x ∈ c'.balancers, InTopology s x →
        ∃ k' ∈ ks, HasBackend c' x.id k' ∧ k'.pool.Perm k.pool) ∧
      ∀ k' ∈ ks, HasBackend c' k'.balancerId k' := by
  -- Backends stay as they are after their phase.
  have hlater := h.backends_eq.2
  obtain ⟨k, more, hks, hk, hkept, hall, hfrom⟩ :=
    ensureBackends_spec (h.sound_network hc) h.backends
  refine ⟨k, hk.congr hlater, hkept, fun x hx htop => ?_, fun k' hk' => ?_⟩
  · obtain ⟨y, hy, hid⟩ := h.exists_settled hc hx htop
    obtain ⟨_, k', hk', hhas, hpool⟩ := hall y hy
    rw [hid] at hhas
    exact ⟨k', hk', hhas.congr hlater, hpool⟩
  · obtain ⟨y, _, hhas⟩ := hfrom k' hk'
    rw [hhas.balancerId]
    exact hhas.congr hlater

/-- The primary is there in the end, with the addresses that it had: a run that returns has found or
made a backend under it. -/
theorem exists_primary (h : Phases s b bs ks m c c1 c2 c3 c4 c5 c') (hc : c.Sound) :
    ∃ p, HasPrimary s p c' ∧ p.id = b.id ∧ p.addresses = b.addresses := by
  obtain ⟨q, hb, hq⟩ := ensurePrimary_spec hc h.primary
  have hc1 := h.sound_primary hc
  have hqb : q.id = b.id := (congrArg LoadBalancer.id hb).symm
  -- Nothing is put under a load balancer that is gone, also if the second phase took it for a stray
  -- secondary.
  have hgrounded : Cloud.Grounded q.id c' := by
    have hstart : Cloud.Grounded q.id c1 := fun _ => ⟨q, hq.only.mem, rfl⟩
    exact ((((hstart.returns h.secondaries).returns h.network).returns h.backends).returns
      h.frontends).returns h.rules
  obtain ⟨k, hk, _⟩ := h.exists_backends hc
  obtain ⟨p, hp, hid⟩ := hgrounded ⟨k, hk.mem, hk.balancerId.trans hqb.symm⟩
  -- It is the one that the first phase has left, but for its type.
  obtain ⟨q1, hq1, heq⟩ : ∃ q1 ∈ c1.balancers, p = { q1 with type := p.type } := by
    refine ((hc1.restructures_of_returns Secondary.ensure_orderly h.secondaries).origin p
      (h.balancers_eq ▸ hp)).resolve_right ?_
    rintro ⟨n, hn, hfresh⟩
    refine hc1.balancers.fresh n hn ?_
    rw [← hfresh, hid]
    exact List.mem_map_of_mem hq.only.mem
  have hself : q1 = q := by
    rw [heq] at hid
    exact hc1.balancers.inj hq1 hq.only.mem hid
  rw [hself] at heq
  have hprimary : IsPrimary s p := by
    rw [heq]
    exact hq.only.primary
  refine ⟨p, ⟨hp, hprimary, fun x hx hx' => ?_⟩, hid.trans hqb, ?_⟩
  · have hxid : x.id = p.id := (h.id_eq_of_isPrimary hc hx hx').trans (hid.trans hqb).symm
    exact (h.sound_rules hc).balancers.inj hx hp hxid
  · rw [heq, hb]

/-- What ensuring the frontends leaves at the end of the run: the map leads from the load balancers
of backends to their frontends, and these are old ones or have been made. -/
theorem frontends_spec (h : Phases s b bs ks m c c1 c2 c3 c4 c5 c') :
    m.Maps c' ∧ (m.map (·.1)).Nodup ∧ (∀ id, id ∈ m.map (·.1) ↔ id ∈ ks.map (·.balancerId)) ∧
      (∀ k ∈ ks, k.zone ∈ s.site.zones) ∧
      ∃ new, c'.frontends = c2.frontends ++ new ∧ ∀ f ∈ new, MadeFor s ks c4 f := by
  have hnone : FrontendMap.Maps [] c4 := fun _ he => absurd he List.not_mem_nil
  have hnodup : (([] : FrontendMap).map (·.1)).Nodup := List.nodup_nil
  obtain ⟨hmaps, hkeys, hmem, hzones, ⟨new, hnew, hmade⟩, _⟩ :=
    ensureFrontends_spec hnone hnodup h.frontends
  refine ⟨fun e he => (hmaps e he).congr h.frontends_eq.2, hkeys, fun id => ?_, hzones, new, ?_,
    hmade⟩
  · rw [hmem]
    exact or_iff_right List.not_mem_nil
  · rw [h.frontends_eq.2, hnew, h.frontends_eq.1]

/-- Every load balancer of the topology in the end has a frontend, which the map leads to. -/
theorem exists_frontend (h : Phases s b bs ks m c c1 c2 c3 c4 c5 c') (hc : c.Sound)
    {x : LoadBalancer} (hx : x ∈ c'.balancers) (htop : InTopology s x) :
    ∃ f, (x.id, f) ∈ m ∧ HasFrontend c' x.id f := by
  obtain ⟨k, _, _, hall, _⟩ := h.exists_backends hc
  obtain ⟨k', hk', hhas, _⟩ := hall x hx htop
  obtain ⟨hmaps, _, hkeys, _⟩ := h.frontends_spec
  have hkey : x.id ∈ m.map (·.1) := by
    rw [hkeys, ← hhas.balancerId]
    exact List.mem_map_of_mem hk'
  obtain ⟨f, _, hf⟩ := FrontendMap.exists_lookup hkey
  exact ⟨f, hf, hmaps _ hf⟩

/-- What is under a load balancer that is there in the end has been left alone until load balancers
were attached. -/
theorem untouched (h : Phases s b bs ks m c c1 c2 c3 c4 c5 c') (hc : c.Sound) {x : LoadBalancer}
    (hx : x ∈ c'.balancers) : Cloud.Untouched x.id c c2 := by
  have hx2 : x ∈ c2.balancers := by
    rw [← h.balancers_eq]
    exact hx
  exact (h.restructures hc).untouched x.id (.inl ⟨x, hx2, rfl⟩)

/-- A backend of the primary that was there before is there when backends are ensured. -/
theorem mem_backends (h : Phases s b bs ks m c c1 c2 c3 c4 c5 c') (hc : c.Sound)
    {x : LoadBalancer} (hx : x ∈ c'.balancers) {k : Backend} (hk : k ∈ c.backends)
    (hid : k.balancerId = x.id) : k ∈ c3.backends := by
  have hmem : k ∈ c2.backends.filter (·.balancerId = x.id) := by
    rw [(h.untouched hc hx).backends]
    exact List.mem_filter.2 ⟨hk, decide_eq_true hid⟩
  rw [h.backends_eq.1]
  exact List.mem_of_mem_filter hmem

/-- A frontend of a load balancer that is there in the end is there when frontends are ensured. -/
theorem mem_frontends (h : Phases s b bs ks m c c1 c2 c3 c4 c5 c') (hc : c.Sound)
    {x : LoadBalancer} (hx : x ∈ c'.balancers) {f : Frontend} (hf : f ∈ c.frontends)
    (hid : f.balancerId = x.id) : f ∈ c2.frontends := by
  have hmem : f ∈ c2.frontends.filter (·.balancerId = x.id) := by
    rw [(h.untouched hc hx).frontends]
    exact List.mem_filter.2 ⟨hf, decide_eq_true hid⟩
  exact List.mem_of_mem_filter hmem

/-- The phases of a run wire the topology. -/
theorem wired (h : Phases s b bs ks m c c1 c2 c3 c4 c5 c') (hc : c.Sound) : Wired s c c' := by
  obtain ⟨k, hk, hkept, hall, hfrom⟩ := h.exists_backends hc
  obtain ⟨_, _, _, _, new, hnew, hmade⟩ := h.frontends_spec
  constructor
  case primary =>
    obtain ⟨p, hp, _⟩ := h.exists_primary hc
    exact ⟨p, hp⟩
  case backend =>
    intro x hx htop
    obtain ⟨k', _, hhas, _⟩ := hall x hx htop
    exact ⟨k', hhas⟩
  case frontend =>
    intro x hx htop
    obtain ⟨f, _, hf⟩ := h.exists_frontend hc hx htop
    exact ⟨f, hf⟩
  case pools =>
    intro p hp hprimary x hx hsec kp k' hkp hk'
    obtain ⟨k'', _, hhas, hpool⟩ := hall x hx (.inr hsec)
    have hpid : p.id = b.id := h.id_eq_of_isPrimary hc hp hprimary
    rw [hpid] at hkp
    rw [hk'.unique hhas, hkp.unique hk]
    exact hpool
  case backendKept =>
    intro p hp hprimary k0 hk0 hname hid
    have hk3 : k0 ∈ c3.backends := h.mem_backends hc hp hk0 hid
    have hpid : p.id = b.id := h.id_eq_of_isPrimary hc hp hprimary
    have hself : k0 = k := hkept k0 hk3 hname (hid.trans hpid)
    rw [hpid, hself]
    exact hk
  case frontendsKept =>
    rintro f hf ⟨y, hy, hid⟩
    have hf2 : f ∈ c2.frontends := h.mem_frontends hc hy hf hid.symm
    rw [hnew]
    exact List.mem_append_left _ hf2
  case frontendsMade =>
    intro f hf hnone
    -- The first two phases make no frontend, so that it is of the last one.
    have hstart := (h.restructures hc).frontends
    rw [hnew, List.mem_append] at hf
    have hf' : f ∈ new := hf.resolve_left fun hold => hnone (hstart hold)
    obtain ⟨_, hport, k', hk', hbalancer, hbackend⟩ := hmade f hf'
    rw [hbalancer]
    exact ⟨hport, k', hfrom k' hk', hbackend⟩

end Phases

/-- Whatever the cloud was, after a run every load balancer of the topology has one backend with the
primary's pool and one frontend of it; and what the primary and all frontends had been is kept. -/
theorem reconcile_wires {u : Unit} (hc : x.world.store.Sound)
    (h : (reconcile s).run Cloud.provider deadline x = (.ok u, x')) :
    Wired s x.world.store x'.world.store := by
  obtain ⟨_, _, _, _, harrange, _⟩ := reconcile_run h
  obtain ⟨_, _, _, _, _, _, _, _, _, _, hphases⟩ := arrange_returns harrange
  exact hphases.wired hc

/-- A run on the cloud of the examples returns, and wires it. -/
theorem sample_wired : ∃ x', (reconcile (Sample.scope [])).run Cloud.provider none
    (Sample.session Sample.cloud) = (.ok (), x') ∧
      Wired (Sample.scope []) Sample.cloud x'.world.store := by
  obtain ⟨_, x', h⟩ := Sample.exists_of_isOk (r := (reconcile (Sample.scope [])).run
    Cloud.provider none (Sample.session Sample.cloud)) (by decide +kernel)
  exact ⟨x', h, reconcile_wires Sample.cloud_sound h⟩

/-! ## Rules -/

/-- The rules of a frontend with other names than those that are ensured. -/
def otherRules (c : Cloud) (frontendId : String) : List Rule :=
  (Access.rulesOf c frontendId).filter (·.name ∉ Access.ruleNames)

/-- Who is admitted at the end of a run from `c` to `c'`: the frontend of the primary has the rules
that are desired and else those that it had, and that of every secondary has the same ones. -/
structure Admits (s : Scope) (c c' : Cloud) : Prop where
  primary : ∃ p, HasPrimary s p c'
  rules : ∀ p ∈ c'.balancers, IsPrimary s p → ∃ f, HasFrontend c' p.id f ∧
    Access.HasRule (Access.rulesOf c' f.id) Access.rangesName s.primary.allowedRanges ∧
    Access.HasRule (Access.rulesOf c' f.id) Access.gatewayName (Access.gatewaySubnets s c') ∧
    Access.HasRule (Access.rulesOf c' f.id) Access.denyAllName
      (if s.primary.allowedRanges = [] then [] else Access.everywhere) ∧
    otherRules c' f.id = otherRules c f.id
  copies : ∀ p ∈ c'.balancers, IsPrimary s p → ∀ b ∈ c'.balancers, Secondary.IsSecondary s b →
    ∃ f g, HasFrontend c' p.id f ∧ HasFrontend c' b.id g ∧
      ((Access.rulesOf c' g.id).map (·.content)).Perm ((Access.rulesOf c' f.id).map (·.content))

namespace Phases

variable {b : LoadBalancer} {bs : List LoadBalancer} {ks : List Backend} {m : FrontendMap}
  {c c1 c2 c3 c4 c5 c' : Cloud}

/-- No frontend of the primary was of a load balancer that has been deleted, so that its rules were
left alone until they were synced. -/
theorem rulesOf_eq (h : Phases s b bs ks m c c1 c2 c3 c4 c5 c') (hc : c.Sound)
    {p : LoadBalancer} {f : Frontend} (hp : p ∈ c'.balancers) (hf : HasFrontend c' p.id f) :
    Access.rulesOf c5 f.id = Access.rulesOf c f.id := by
  unfold Access.rulesOf
  rw [h.rules_eq]
  refine (h.restructures hc).rules f.id fun g hg hid => ?_
  obtain ⟨hfmem, _, hbalancer⟩ := hf.mem_filter
  obtain ⟨_, _, _, _, new, hnew, hmade⟩ := h.frontends_spec
  rw [hnew, List.mem_append] at hfmem
  rcases hfmem with hold | hfnew
  -- An old frontend is under the primary, which is still there.
  · have hold' : f ∈ c.frontends := (h.restructures hc).frontends hold
    have hself : g = f := hc.frontends.inj hg hold' hid
    rw [hself, hbalancer]
    exact .inl ⟨p, h.balancers_eq ▸ hp, rfl⟩
  -- The id of a new one was no frontend's.
  · obtain ⟨⟨n, hn, hfresh⟩, _⟩ := hmade f hfnew
    have hle : c.nextId ≤ n := by
      calc c.nextId ≤ c2.nextId := (h.restructures hc).nextId
        _ ≤ c3.nextId := Cloud.nextId_le_of_returns h.network
        _ ≤ c4.nextId := Cloud.nextId_le_of_returns h.backends
        _ ≤ n := hn
    refine absurd ?_ (hc.frontends.fresh n hle)
    rw [← hfresh, ← hid]
    exact List.mem_map_of_mem hg

/-- The subnets of the gateways have not changed since rules were synced. -/
theorem gatewaySubnets_eq (h : Phases s b bs ks m c c1 c2 c3 c4 c5 c') (hc : c.Sound) :
    Access.gatewaySubnets s c5 = Access.gatewaySubnets s c' := by
  unfold Access.gatewaySubnets Site.gatewaysWith
  rw [(h.gateways_eq hc).1, (h.gateways_eq hc).2]

/-- The phases of a run admit who is desired. -/
theorem admits (h : Phases s b bs ks m c c1 c2 c3 c4 c5 c') (hc : c.Sound) : Admits s c c' := by
  obtain ⟨hmaps, hkeys, _⟩ := h.frontends_spec
  obtain ⟨f, hlookup, _, hrules, hothers, hcopies⟩ :=
    Access.sync_spec (h.sound_frontends hc) h.rules
  have hentry : (b.id, f) ∈ m := (Reconciler.lookup_eq_some_iff_mem hkeys).1 hlookup
  have hf : ∀ p ∈ c'.balancers, IsPrimary s p → HasFrontend c' p.id f := by
    intro p hp hprimary
    rw [h.id_eq_of_isPrimary hc hp hprimary]
    exact hmaps _ hentry
  constructor
  case primary =>
    obtain ⟨p, hp, _⟩ := h.exists_primary hc
    exact ⟨p, hp⟩
  case rules =>
    intro p hp hprimary
    have hothers' : otherRules c' f.id = otherRules c f.id := by
      unfold otherRules
      rw [hothers, h.rulesOf_eq hc hp (hf p hp hprimary)]
    have hranges := hrules _ List.mem_cons_self
    have hgateways := hrules _ (List.mem_cons_of_mem _ List.mem_cons_self)
    have hdeny := hrules _ (List.mem_cons_of_mem _ (List.mem_cons_of_mem _ List.mem_cons_self))
    rw [h.gatewaySubnets_eq hc] at hgateways
    exact ⟨f, hf p hp hprimary, hranges, hgateways, hdeny, hothers'⟩
  case copies =>
    intro p hp hprimary x hx hsec
    obtain ⟨g, hg, hhas⟩ := h.exists_frontend hc hx (.inr hsec)
    refine ⟨f, g, hf p hp hprimary, hhas, ?_⟩
    by_cases hid : x.id = b.id
    -- A secondary that is the primary has the same frontend.
    · have hself : g = f := by
        rw [hid] at hhas
        exact hhas.unique (hmaps _ hentry)
      rw [hself]
    · have hagree := (hcopies _ hg hid).2
      have hperm := RuleSpec.perm_of_sameRules hagree
      rw [List.map_map, List.map_map] at hperm
      exact hperm.symm

end Phases

/-- Whatever the cloud was, after a run the frontend of the primary has the desired rules and
otherwise those that it had, and every secondary has the same rules as the primary. -/
theorem reconcile_admits {u : Unit} (hc : x.world.store.Sound)
    (h : (reconcile s).run Cloud.provider deadline x = (.ok u, x')) :
    Admits s x.world.store x'.world.store := by
  obtain ⟨_, _, _, _, harrange, _⟩ := reconcile_run h
  obtain ⟨_, _, _, _, _, _, _, _, _, _, hphases⟩ := arrange_returns harrange
  exact hphases.admits hc

/-- A run with an allowed range on the cloud of the examples returns, and admits who is desired. -/
theorem sample_admits : ∃ x', (reconcile (Sample.scope ["10.0.0.0/8"])).run Cloud.provider none
    (Sample.session Sample.cloud) = (.ok (), x') ∧
      Admits (Sample.scope ["10.0.0.0/8"]) Sample.cloud x'.world.store := by
  obtain ⟨_, x', h⟩ := Sample.exists_of_isOk (r := (reconcile (Sample.scope ["10.0.0.0/8"])).run
    Cloud.provider none (Sample.session Sample.cloud)) (by decide +kernel)
  exact ⟨x', h, reconcile_admits Sample.cloud_sound h⟩

end Topology

end ControlPlane
