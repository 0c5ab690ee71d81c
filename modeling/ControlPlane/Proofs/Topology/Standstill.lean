import ControlPlane.Proofs.Topology.Phases

/-!
# Where nothing is left to do

For every part of a run, a cloud on which it only looks things up: the converse of what the part
leaves, so that a second run finds on each of its paths what the first has written. A part is shown
to idle (`Program.Idles`) along its own recursion. What it returns is then known from what it leaves
(`Program.Idles.returns`), as leaving a cloud as it is is a special case.
-/

namespace ControlPlane

open Program hiding ofExcept

/-! ## Load balancers -/

namespace Secondary

variable {s : Scope} {c : Cloud} {b : LoadBalancer} {d : BalancerSpec} {desired : List BalancerSpec}
  {wanted : List (String × List BalancerSpec)} {taken : List (String × String)}
  {live : List LoadBalancer}

/-- A load balancer that is kept for a declaration and not changed. An empty type declares one that
no load balancer has. -/
structure Stays (s : Scope) (c : Cloud) (b : LoadBalancer) (d : BalancerSpec) : Prop where
  fits : Fits s b d
  fitsPrivately : fitsPrivately s c b d = true
  type : d.type ≠ some ""

/-- A load balancer that stays is kept, and nothing is changed to decide it. -/
theorem Stays.keeps_idles (h : Stays s c b d) : (keeps s b d).Idles c true := by
  have haddress : (s.balancersPrivate || addressFits b d) = true := by
    cases hpublic : s.balancersPrivate with
    | true => rfl
    | false =>
      rw [h.fits.address hpublic]
      rfl
  refine keeps_readOnly.idles (keeps_returns.2 ⟨?_, rfl⟩)
  rw [haddress, h.fitsPrivately]
  rfl

/-- Its update changes nothing. -/
theorem Stays.update_idles (h : Stays s c b d) :
    (update s b d).Idles c { b with privateAddress := d.privateAddress } := by
  cases update_steps s b d with
  | kept _ hp => exact hp ▸ idles_done _ c
  | migrated t ht hdiffer _ =>
    have hne : t ≠ "" := by
      rintro rfl
      exact h.type ht
    exact absurd (h.fits.type t ht hne) hdiffer

/-- Load balancers at distinct places that stay are all kept. -/
theorem retain_idles (hw : (reconciler s).groups desired = .ok wanted)
    (hplaces : (live.map place).Nodup) (htaken : ∀ b ∈ live, place b ∉ taken)
    (hstay : ∀ b ∈ live, ∃ d, declared s desired b = some d ∧ Stays s c b d) :
    ((reconciler s).retain wanted taken live).Idles c (live.map (pinned s desired)) := by
  induction live generalizing taken with
  | nil => exact idles_done _ c
  | cons b live ih =>
    obtain ⟨d, hd, hb⟩ := hstay b List.mem_cons_self
    have hstay' : ∀ x ∈ live, ∃ d, declared s desired x = some d ∧ Stays s c x d := fun x hx =>
      hstay x (List.mem_cons_of_mem _ hx)
    rw [List.map_cons, List.nodup_cons] at hplaces
    have hmatch : (reconciler s).match? wanted taken b = some d :=
      (Reconciler.match?_eq_some hw).2 ⟨htaken b List.mem_cons_self, hd⟩
    have htaken' : ∀ x ∈ live, place x ∉ place b :: taken := by
      intro x hx hmem
      rcases List.mem_cons.1 hmem with heq | hmem
      · exact hplaces.1 (heq ▸ List.mem_map_of_mem hx)
      · exact htaken x (List.mem_cons_of_mem _ hx) hmem
    -- The place of the first one is taken now, and no other one is at it.
    have hrest : ((reconciler s).retain wanted (place b :: taken) live).Idles c
        (live.map (pinned s desired)) := ih hplaces.2 htaken' hstay'
    rw [retain_cons, hmatch]
    refine hb.keeps_idles.bind ?_
    rw [if_pos rfl]
    refine hb.update_idles.bind (hrest.bind ?_)
    rw [List.map_cons, pinned, hd]
    exact idles_done _ c

/-- Nothing is created where every targeted place is taken. -/
theorem createMissing_idles {targets : List (String × String × BalancerSpec)}
    (h : ∀ t ∈ targets, (t.1, t.2.1) ∈ taken) :
    ((reconciler s).createMissing taken targets).Idles c [] := by
  have hnone : targets.filter (fun t => (t.1, t.2.1) ∉ taken) = [] :=
    List.filter_eq_nil_iff.2 fun t ht => by simpa using h t ht
  rw [Reconciler.createMissing_eq, hnone]
  exact idles_done [] c

/-- Where the listed secondaries are those that are declared, and stay, they are returned. -/
theorem ensure_idles (hw : (reconciler s).groups desired = .ok wanted)
    (hplaces : ((s.site.balancersWith (tags s) c).map place).Nodup)
    (hstay : ∀ b ∈ s.site.balancersWith (tags s) c,
      ∃ d, declared s desired b = some d ∧ Stays s c b d)
    (hfilled : ∀ zone i, i < ((reconciler s).desiredIn zone desired).length →
      ∃ b ∈ s.site.balancersWith (tags s) c, place b = (zone, desiredName s i)) :
    (ensure s desired).Idles c ((s.site.balancersWith (tags s) c).map (pinned s desired)) := by
  have hlist : (list s).Idles c (s.site.balancersWith (tags s) c) :=
    list_readOnly.idles ((Site.findBalancers_returns (tags_ne_nil s)).2 ⟨rfl, rfl⟩)
  have hretain := retain_idles hw hplaces (fun _ _ => List.not_mem_nil) hstay
  -- Every target is a place that is filled, so that none is missing.
  have htaken : ∀ t ∈ (reconciler s).targets wanted, (t.1, t.2.1) ∈
      ((s.site.balancersWith (tags s) c).map (pinned s desired)).map place := by
    intro t ht
    obtain ⟨i, hi, hname⟩ := (Reconciler.mem_targets hw).1 ht
    obtain ⟨hlt, _⟩ := List.getElem?_eq_some_iff.1 hi
    obtain ⟨b, hb, hplace⟩ := hfilled t.1 i hlt
    have hname' : desiredName s i = t.2.1 := hname
    rw [map_place_pinned, ← hname', ← hplace]
    exact List.mem_map_of_mem hb
  have hcreate := @createMissing_idles s c _ _ htaken
  rw [ensure_eq, hw]
  refine hlist.bind (hretain.bind (hcreate.bind ?_))
  rw [List.append_nil]
  exact idles_done _ c

end Secondary

namespace Topology

section

variable {s : Scope} {c : Cloud} {q : LoadBalancer}

/-- The only primary is found, and stays if it is of the declared type. -/
theorem ensurePrimary_idles (hc : c.Sound) (hq : HasPrimary s q c) (hzone : q.zone ∈ s.site.zones)
    (htype : sameType q.type s.primary.resolvedType = true) :
    (ensurePrimary s).Idles c { q with privateAddress := s.primary.privateAddress } := by
  have hresolve : s.primary.resolve s.site.region = .ok (q.zone, s.primary.resolvedType) := by
    unfold BalancerSpec.resolve
    rw [hq.primary.1]
    rfl
  have hfind : (s.site.findBalancer q.zone (primaryTags s)).orNone.Idles c (some q) := by
    refine Site.findBalancer_readOnly.orNone.idles ?_
    exact (Site.findBalancer_returns (primaryTags_ne_nil s)).2 ⟨hzone, hq.filter hc, rfl⟩
  obtain ⟨step, heq, hstep⟩ := ensurePrimary_steps s
  rw [heq]
  refine (idles_ofExcept hresolve c).bind (hfind.bind ?_)
  cases hstep (q.zone, s.primary.resolvedType) (some q) with
  | kept _ _ hp => exact hp ▸ idles_done _ c
  | migrated _ hdiffer _ => exact absurd htype hdiffer

/-- The check passes when all load balancers are ready. -/
theorem checkReady_eq_ok {bs : List LoadBalancer} :
    checkReady bs = .ok () ↔ ∀ b ∈ bs, b.status = .ready := by
  induction bs with
  | nil => exact iff_of_true rfl nofun
  | cons b rest ih =>
    unfold checkReady
    rw [List.forall_mem_cons, ← ih]
    split
    · next hready => exact (and_iff_right hready).symm
    · next hready => exact iff_of_false nofun fun h => hready h.1

/-! ## The private network -/

/-- A load balancer that is attached is left as it is. -/
theorem attachOne_idles {networkId : String} {known : Option (List PrivateAddress)}
    {b : LoadBalancer} (hzone : b.zone ∈ s.site.zones) (hattached : IsAttached c b.id networkId) :
    (attachOne s.site networkId known b).Idles c known := by
  obtain ⟨a, ha⟩ := hattached
  have hfind : (s.site.findAttachment b.zone b.id networkId).orNone.Idles c (some a) :=
    Site.findAttachment_readOnly.orNone.idles (Site.findAttachment_returns.2 ⟨hzone, ha, rfl⟩)
  obtain ⟨step, heq, hstep⟩ := attachOne_steps s.site networkId known b
  rw [heq]
  refine hfind.bind ?_
  cases hstep (some a) with
  | attached _ hp => exact hp ▸ idles_done known c

/-- Attaching load balancers that are attached changes nothing. -/
theorem attachAll_idles {networkId : String} {known : Option (List PrivateAddress)}
    {bs : List LoadBalancer}
    (h : ∀ b ∈ bs, b.zone ∈ s.site.zones ∧ IsAttached c b.id networkId) :
    (attachAll s.site networkId known bs).Idles c () := by
  have hall : ∀ known, ∀ b ∈ bs,
      ∃ known', (attachOne s.site networkId known b).Idles c known' := fun known b hb =>
    ⟨known, attachOne_idles (h b hb).1 (h b hb).2⟩
  obtain ⟨known', hwalk⟩ := Idles.foldlM hall known
  rw [attachAll_eq]
  exact hwalk.bind (idles_done () c)

/-- Load balancers that are attached and have a private address are settled. -/
theorem ensurePrivateNetwork_idles {bs : List LoadBalancer}
    (h : ∀ networkId, s.privateNetworkId = some networkId → ∀ b ∈ bs, b.zone ∈ s.site.zones ∧
      IsAttached c b.id networkId ∧ (settled s c b).privateAddress ≠ none) :
    (ensurePrivateNetwork s bs).Idles c (bs.map (settled s c)) := by
  cases hnetwork : s.privateNetworkId with
  | none =>
    rw [ensurePrivateNetwork_of_none hnetwork, map_settled_of_none hnetwork]
    exact idles_done _ c
  | some networkId =>
    rw [ensurePrivateNetwork_of_some hnetwork]
    have hall := h networkId hnetwork
    have hattach : (attachAll s.site networkId none bs).Idles c () :=
      attachAll_idles fun b hb => ⟨(hall b hb).1, (hall b hb).2.1⟩
    have hresolve := (resolveHeld_returns (c := c) hnetwork).2
      ⟨rfl, rfl, fun b hb => (hall b hb).2.2⟩
    -- What is left looks addresses up at most.
    exact hattach.bind (resolveHeld_readOnly.idles hresolve)

end

/-! ## Backends and frontends -/

section

variable {s : Site} {c : Cloud} {b : LoadBalancer} {servers : List String}

/-- A backend that has the servers, if they count, is left as it is. -/
theorem ensureBackend_idles {update : Bool} {k : Backend} (hzone : b.zone ∈ s.zones)
    (hk : HasBackend c b.id k) (hpool : update = true → k.pool.Perm servers) :
    (ensureBackend s b servers update).Idles c k := by
  have hfind : (s.findBackend b.zone b.id backendName).orNone.Idles c (some k) :=
    Site.findBackend_readOnly.orNone.idles (Site.findBackend_returns.2 ⟨hzone, hk, rfl⟩)
  obtain ⟨step, heq, hstep⟩ := ensureBackend_steps s b servers update
  rw [heq]
  refine hfind.bind ?_
  cases hstep (some k) with
  | updated _ hupdate hdiffer _ => exact absurd (hpool hupdate) hdiffer
  | kept _ _ hp => exact hp ▸ idles_done k c

/-- Backends with the servers are left as they are. -/
theorem copyPool_idles {bs : List LoadBalancer}
    (h : ∀ b ∈ bs, b.zone ∈ s.zones ∧ ∃ k, HasBackend c b.id k ∧ k.pool.Perm servers) :
    ∃ ks, (copyPool s servers bs).Idles c ks := by
  rw [copyPool_eq]
  refine Idles.mapM' fun b hb => ?_
  obtain ⟨hzone, k, hk, hpool⟩ := h b hb
  exact ⟨k, ensureBackend_idles hzone hk fun _ => hpool⟩

/-- Where every load balancer has a backend with the servers of the first one's, ensuring the
backends changes nothing. -/
theorem ensureBackends_idles {bs : List LoadBalancer} {k : Backend} (hk : HasBackend c b.id k)
    (h : ∀ x ∈ b :: bs, x.zone ∈ s.zones ∧ ∃ k', HasBackend c x.id k' ∧ k'.pool.Perm k.pool) :
    ∃ ks, (ensureBackends s b bs).Idles c ks := by
  obtain ⟨hzone, _⟩ := h b List.mem_cons_self
  obtain ⟨ks, hks⟩ := copyPool_idles fun x hx => h x (List.mem_cons_of_mem _ hx)
  have hself : (ensureBackend s b [] false).Idles c k := ensureBackend_idles hzone hk nofun
  exact ⟨k :: ks, hself.bind (hks.bind (idles_done _ c))⟩

end

section

variable {s : Scope} {c : Cloud}

/-- Checking the port of a frontend only logs. -/
theorem checkPort_idles (f : Frontend) (port : Int) : (checkPort f port).Idles c () := by
  unfold checkPort
  split
  · exact idles_done _ c
  · exact idles_done _ c

/-- A frontend that is there is left as it is, whatever its port. -/
theorem ensureFrontend_idles {k : Backend} {f : Frontend} (hzone : k.zone ∈ s.site.zones)
    (hf : HasFrontend c k.balancerId f) : (ensureFrontend s k).Idles c f := by
  have hfind : (s.site.findFrontend k.zone k.balancerId frontendName).orNone.Idles c (some f) :=
    Site.findFrontend_readOnly.orNone.idles (Site.findFrontend_returns.2 ⟨hzone, hf, rfl⟩)
  obtain ⟨step, heq, hstep⟩ := ensureFrontend_steps s k
  rw [heq]
  refine hfind.bind ?_
  cases hstep (some f) with
  | kept _ hp => exact hp ▸ (checkPort_idles f _).bind (idles_done f c)

/-- Where every load balancer has a frontend, ensuring the frontends changes nothing. -/
theorem ensureFrontends_idles {known : FrontendMap} {ks : List Backend}
    (h : ∀ k ∈ ks, k.zone ∈ s.site.zones ∧ ∃ f, HasFrontend c k.balancerId f) :
    ∃ m, (ensureFrontends s known ks).Idles c m := by
  rw [ensureFrontends_eq]
  refine Idles.foldlM (fun m k hk => ?_) known
  obtain ⟨hzone, f, hf⟩ := h k hk
  exact ⟨m.put k.balancerId f, (ensureFrontend_idles hzone hf).bind (idles_done _ c)⟩

end

end Topology

/-! ## Rules -/

namespace Access

section

variable {s : Site} {c : Cloud} {f : Frontend}

/-- A rule with the desired subnets is left as it is, as is one that is not to be and is not. -/
theorem ensureRule_idles {d : DesiredRule} (hzone : f.zone ∈ s.zones)
    (h : HasRule (rulesOf c f.id) d.name d.subnets) : (ensureRule s f d).Idles c () := by
  have hfind : ∀ r : Option Rule, (rulesOf c f.id).filter (·.name = d.name) = r.toList →
      (s.findRule f.zone f.id d.name).orNone.Idles c r := by
    intro r hr
    refine Site.findRule_readOnly.orNone.idles (Site.findRule_returns.2 ⟨hzone, ?_, rfl⟩)
    rw [← List.filter_filter]
    exact hr
  obtain ⟨step, heq, hstep⟩ := ensureRule_steps s f d
  rw [heq]
  by_cases hsubnets : d.subnets = []
  · -- No rule is desired, and there is none.
    rw [HasRule, if_pos hsubnets] at h
    refine (hfind none h).bind ?_
    cases hstep none with
    | absent _ hp => exact hp ▸ idles_done () c
    | created hsome _ => exact absurd hsubnets hsome
  · -- The rule is there with the subnets that are desired.
    rw [HasRule, if_neg hsubnets] at h
    obtain ⟨r, hr, hperm⟩ := h
    refine (hfind (some r) hr).bind ?_
    cases hstep (some r) with
    | removed _ hnone _ => exact absurd hnone hsubnets
    | kept _ _ _ hp => exact hp ▸ idles_done () c
    | replaced _ _ hdiffer _ => exact absurd hperm hdiffer

/-- Where the desired rules are there, ensuring them changes nothing. -/
theorem ensureRules_idles {ds : List DesiredRule} (hzone : f.zone ∈ s.zones)
    (h : ∀ d ∈ ds, HasRule (rulesOf c f.id) d.name d.subnets) :
    (ensureRules s f ds).Idles c () := by
  rw [ensureRules_eq]
  exact Idles.forM fun d hd => ensureRule_idles hzone (h d hd)

/-- Rules that agree with the given ones are left as they are. -/
theorem copyTo_idles {rules : List Rule} (hzone : f.zone ∈ s.zones) (h : Agree rules c f.id) :
    (copyTo s rules f).Idles c () := by
  have hlist : (s.listRules f.zone f.id).Idles c (rulesOf c f.id) :=
    Site.listRules_readOnly.idles (Site.listRules_returns.2 ⟨hzone, rfl, rfl⟩)
  obtain ⟨step, heq, hstep⟩ := copyTo_steps s rules f
  rw [heq]
  refine hlist.bind ?_
  cases hstep (rulesOf c f.id) with
  | agreed _ hp => exact hp ▸ idles_done () c
  | copied hdiffer _ => exact absurd h hdiffer

/-- Where the other frontends have the rules of the primary, copying them changes nothing. -/
theorem copyRules_idles {primaryId : String} {rules : List Rule} {m : FrontendMap}
    (h : ∀ e ∈ m, e.1 ≠ primaryId → e.2.zone ∈ s.zones ∧ Agree rules c e.2.id) :
    (copyRules s primaryId rules m).Idles c () := by
  rw [copyRules_eq]
  refine Idles.forM fun e he => ?_
  obtain ⟨he, hne⟩ := List.mem_filter.1 he
  obtain ⟨hzone, hagree⟩ := h e he (of_decide_eq_true hne)
  exact copyTo_idles hzone hagree

end

/-- Where the primary's frontend has the desired rules and the others agree, look-ups only are
sent. -/
theorem sync_idles {s : Scope} {c : Cloud} {primaryId : String} {m : FrontendMap} {f : Frontend}
    (hlookup : m.lookup primaryId = some f) (hzone : f.zone ∈ s.site.zones)
    (hrules : ∀ d ∈ desiredOn s c, HasRule (rulesOf c f.id) d.name d.subnets)
    (hcopies : ∀ e ∈ m, e.1 ≠ primaryId →
      e.2.zone ∈ s.site.zones ∧ Agree (rulesOf c f.id) c e.2.id) :
    (sync s primaryId m).Idles c () := by
  have hdesired : (desiredRules s).Idles c (desiredOn s c) :=
    desiredRules_readOnly.idles (desiredRules_returns.2 ⟨rfl, rfl⟩)
  have hensure : (ensureRules s.site f (desiredOn s c)).Idles c () :=
    ensureRules_idles hzone hrules
  have hlist : (s.site.listRules f.zone f.id).Idles c (rulesOf c f.id) :=
    Site.listRules_readOnly.idles (Site.listRules_returns.2 ⟨hzone, rfl, rfl⟩)
  rw [sync_of_some hlookup]
  refine hdesired.bind (hensure.bind ?_)
  -- Listing the rules to copy is a look-up too.
  cases spread_steps s.site primaryId f m with
  | alone _ hp => exact hp ▸ idles_done _ c
  | copied _ hp => exact hp ▸ hlist.bind (copyRules_idles hcopies)

end Access

end ControlPlane
