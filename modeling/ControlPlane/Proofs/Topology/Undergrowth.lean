import ControlPlane.Proofs.Topology.Membership
import ControlPlane.Proofs.Topology.Reversal
import ControlPlane.Proofs.Topology.Steady

/-!
# What is under a cluster's load balancers can be taken back

Once the load balancers are there, a run changes none of them, so that what is the cluster's own is
known for the rest of the run (`ownIds_eq`). Everything that is made then is under a load balancer
of the cluster that is there, and what is changed or removed was made so before. Hence every job
keeps a cloud reversible (`Reversible.upholds_job`), whoever has worked on it before.

It takes from the region that no zone is listed twice. Otherwise a secondary would be listed twice,
kept once and deleted then, and what is made under it afterwards would be left over.
-/

namespace ControlPlane

open Program hiding ofExcept
open Cloud (ActsOnOwn Overlay)

namespace Topology

variable {s : Scope} {c0 c c' : Cloud} {mine : List String → Bool}

/-- What requests do that leave load balancers as they are, they do not do to these. -/
theorem balancers_eq {α : Type} {p : Program α} {a : α} (hp : p.Orderly Request.LeavesBalancers)
    (h : p.Returns c a c') : c'.balancers = c.balancers := by
  refine hp.changes (R := fun c c' => c'.balancers = c.balancers) h (fun _ => rfl)
    (fun _ _ _ h h' => h'.trans h) fun r c v c' hr hv => ?_
  have hanswer := Cloud.balancers_answer hr c
  rwa [hv] at hanswer

/-- What leaves load balancers leaves the ids of one's own. -/
theorem ownIds_eq {α : Type} {p : Program α} {a : α} (hp : p.Orderly Request.LeavesBalancers)
    (h : p.Returns c a c') : c'.ownIds mine = c.ownIds mine := by
  unfold Cloud.ownIds
  rw [balancers_eq hp h]

/-- Where only rules change, the frontends of one's own stay. -/
theorem ownFrontendIds_eq {α : Type} {p : Program α} {a : α} (hp : p.Orderly Request.IsRule)
    (h : p.Returns c a c') : c'.ownFrontendIds mine = c.ownFrontendIds mine := by
  rw [Access.changes_rules hp h]
  rfl

/-- A request of the network phase leaves load balancers. -/
theorem leavesBalancers_of_network {r : Request} (h : r.IsNetwork) : r.LeavesBalancers := by
  cases r <;> trivial

/-- A request of the pool phase leaves load balancers. -/
theorem leavesBalancers_of_pool {r : Request} (h : r.IsPool) : r.LeavesBalancers := by
  cases r <;> trivial

/-- A request of the frontend phase leaves load balancers. -/
theorem leavesBalancers_of_frontend {r : Request} (h : r.IsFrontend) : r.LeavesBalancers := by
  cases r <;> trivial

/-- A request below load balancers leaves these. -/
theorem leavesBalancers_of_below {r : Request} (h : r.IsBelow) : r.LeavesBalancers := by
  cases r <;> trivial

/-- What is sent as a rule is checked before. -/
theorem upholds_specified {P : Cloud → Prop} (hc : P c) {site : Site} {zone : String}
    {checked : Schema.Checked RuleSpec} {next : RuleSpec → Program Rule}
    (hnext : ∀ spec, Site.specified checked = .ok spec → (next spec).Upholds P c) :
    (site.checkZone zone >>= fun _ =>
      Program.ofExcept (Site.specified checked) >>= next).Upholds P c := by
  refine upholds_in_zone hc fun _ => (upholds_ofExcept hc _).bind fun spec c1 hspec _ => ?_
  obtain ⟨hok, rfl⟩ := returns_ofExcept.1 hspec
  exact hnext spec hok

namespace Reversible

/-! ## The private network -/

/-- Only a load balancer of the cluster is attached. -/
theorem upholds_attachOne (h : Reversible s c0 c) {networkId : String}
    {known : Option (List PrivateAddress)} {b : LoadBalancer} (hb : b.id ∈ c.ownIds s.owns) :
    (attachOne s.site networkId known b).Upholds (Reversible s c0) c := by
  obtain ⟨step, heq, hstep⟩ := attachOne_steps s.site networkId known b
  rw [heq]
  refine (ReadOnly.upholds Site.findAttachment_readOnly.orNone h).bind fun found c1 hfind h1 => ?_
  obtain ⟨_, _, rfl⟩ := Site.findAttachment_returns.1 hfind
  cases hstep found with
  | attached a hp => exact hp ▸ upholds_done h1 _
  | missing hp =>
    rw [hp]
    refine (ReadOnly.upholds pinnedAddressId_readOnly h1).bind fun r c2 hpin h2 => ?_
    rw [pinnedAddressId_readOnly.returns_eq hpin] at h2 ⊢
    exact Upholds.bind (h1.upholds_change hb trivial) fun _ _ _ h3 => upholds_done h3 _

/-- Attaching load balancers of one's own can be reverted at any point. -/
theorem upholds_attachAll (h : Reversible s c0 c) {networkId : String}
    {known : Option (List PrivateAddress)} {bs : List LoadBalancer}
    (hbs : ∀ b ∈ bs, b.id ∈ c.ownIds s.owns) :
    (attachAll s.site networkId known bs).Upholds (Reversible s c0) c := by
  rw [attachAll_eq]
  refine Upholds.discard (Upholds.foldlM (K := fun c' => c'.ownIds s.owns = c.ownIds s.owns)
    (fun known b hb c' h' hown => ⟨?_, fun _ c'' hattach => ?_⟩) h rfl known)
  · exact h'.upholds_attachOne (hown ▸ hbs b hb)
  · exact (ownIds_eq (attachOne_orderly.mono fun _ => leavesBalancers_of_network) hattach).trans hown

/-- The network phase can be reverted at any point. -/
theorem upholds_network (h : Reversible s c0 c) {bs : List LoadBalancer}
    (hbs : ∀ b ∈ bs, b.id ∈ c.ownIds s.owns) :
    (ensurePrivateNetwork s bs).Upholds (Reversible s c0) c := by
  cases hnetwork : s.privateNetworkId with
  | none => exact ensurePrivateNetwork_of_none hnetwork bs ▸ upholds_done h _
  | some networkId =>
    rw [ensurePrivateNetwork_of_some hnetwork]
    exact (h.upholds_attachAll hbs).bind fun _ c1 _ h1 => ReadOnly.upholds resolveHeld_readOnly h1

/-! ## Backends and frontends -/

/-- Ensuring the backend of a load balancer of one's own can be reverted at any point. -/
theorem upholds_backend (h : Reversible s c0 c) {site : Site} {b : LoadBalancer}
    {servers : List String} {update : Bool} (hb : b.id ∈ c.ownIds s.owns) :
    (ensureBackend site b servers update).Upholds (Reversible s c0) c := by
  obtain ⟨step, heq, hstep⟩ := ensureBackend_steps site b servers update
  rw [heq]
  refine (ReadOnly.upholds Site.findBackend_readOnly.orNone h).bind fun found c1 hfind h1 => ?_
  obtain ⟨_, hfilter, rfl⟩ := Site.findBackend_returns.1 hfind
  cases hstep found with
  | created hp => exact hp ▸ h1.upholds_change hb trivial
  | updated k _ _ hp =>
    have hk : HasBackend c1 b.id k := hfilter
    have hnew := h1.overlay.backend_not_mem hk.mem (hk.balancerId ▸ hb)
    exact hp ▸ h1.upholds_change hnew trivial
  | kept k _ hp => exact hp ▸ upholds_done h1 _

/-- Copying a pool to load balancers of one's own can be reverted at any point. -/
theorem upholds_copyPool (h : Reversible s c0 c) {site : Site} {servers : List String}
    {bs : List LoadBalancer} (hbs : ∀ b ∈ bs, b.id ∈ c.ownIds s.owns) :
    (copyPool site servers bs).Upholds (Reversible s c0) c := by
  rw [copyPool_eq]
  refine Upholds.mapM' (K := fun c' => c'.ownIds s.owns = c.ownIds s.owns)
    (fun b hb c' h' hown => ⟨?_, fun k c'' hk => ?_⟩) h rfl
  · exact h'.upholds_backend (hown ▸ hbs b hb)
  · exact (ownIds_eq (ensureBackend_orderly.mono fun _ => leavesBalancers_of_pool) hk).trans hown

/-- The backend phase can be reverted at any point. -/
theorem upholds_backends (h : Reversible s c0 c) {site : Site} {b : LoadBalancer}
    {bs : List LoadBalancer} (hbs : ∀ x ∈ b :: bs, x.id ∈ c.ownIds s.owns) :
    (ensureBackends site b bs).Upholds (Reversible s c0) c := by
  obtain ⟨hb, hothers⟩ := List.forall_mem_cons.1 hbs
  unfold ensureBackends
  refine (h.upholds_backend hb).bind fun k c1 hk h1 => ?_
  have hown : c1.ownIds s.owns = c.ownIds s.owns :=
    ownIds_eq (ensureBackend_orderly.mono fun _ => leavesBalancers_of_pool) hk
  exact (h1.upholds_copyPool (by rwa [hown])).bind fun more c2 _ h2 => upholds_done h2 _

/-- Ensuring a frontend for a backend of one's own can be reverted at any point. -/
theorem upholds_frontend (h : Reversible s c0 c) {k : Backend}
    (hk : k.balancerId ∈ c.ownIds s.owns) :
    (ensureFrontend s k).Upholds (Reversible s c0) c := by
  obtain ⟨step, heq, hstep⟩ := ensureFrontend_steps s k
  rw [heq]
  refine (ReadOnly.upholds Site.findFrontend_readOnly.orNone h).bind fun found c1 hfind h1 => ?_
  obtain ⟨_, _, rfl⟩ := Site.findFrontend_returns.1 hfind
  cases hstep found with
  | created hp => exact hp ▸ h1.upholds_change hk trivial
  | kept f hp =>
    have hport : (checkPort f s.apiServerPort).ReadOnly := checkPort_orderly
    exact hp ▸ (ReadOnly.upholds hport h1).bind fun _ c2 _ h2 => upholds_done h2 _

/-- The frontend phase can be reverted at any point. -/
theorem upholds_frontends (h : Reversible s c0 c) {known : FrontendMap} {ks : List Backend}
    (hks : ∀ k ∈ ks, k.balancerId ∈ c.ownIds s.owns) :
    (ensureFrontends s known ks).Upholds (Reversible s c0) c := by
  rw [ensureFrontends_eq]
  refine Upholds.foldlM (K := fun c' => c'.ownIds s.owns = c.ownIds s.owns)
    (fun m k hk c' h' hown => ⟨?_, fun _ c'' hf => ?_⟩) h rfl known
  · exact (h'.upholds_frontend (hown ▸ hks k hk)).bind fun _ _ _ h'' => upholds_done h'' _
  · exact (ownIds_eq ((ensureFrontend_orderly.mono fun _ => leavesBalancers_of_frontend).map _)
      hf).trans hown

/-! ## Rules -/

/-- Ensuring a rule on a frontend of one's own can be reverted at any point. -/
theorem upholds_rule (h : Reversible s c0 c) {site : Site} {f : Frontend} {d : DesiredRule}
    (hf : f.id ∈ c.ownFrontendIds s.owns) :
    (Access.ensureRule site f d).Upholds (Reversible s c0) c := by
  obtain ⟨step, heq, hstep⟩ := Access.ensureRule_steps site f d
  rw [heq]
  refine (ReadOnly.upholds Site.findRule_readOnly.orNone h).bind fun existing c1 hfind h1 => ?_
  obtain ⟨_, hfilter, rfl⟩ := Site.findRule_returns.1 hfind
  -- What is found is of a frontend of the cluster's, so that it is not a rule from before.
  have hnew : ∀ r ∈ existing, r.id ∉ c0.rules.map (·.id) := by
    rintro r ⟨⟩
    have hr := List.mem_singleton_self r
    rw [Option.toList_some] at hfilter
    rw [← hfilter, List.mem_filter, Bool.and_eq_true, decide_eq_true_eq, decide_eq_true_eq] at hr
    exact h1.overlay.rule_not_mem hr.1 (hr.2.2 ▸ hf)
  cases hstep existing with
  | removed r _ hp => exact hp ▸ h1.upholds_change (hnew r rfl) trivial
  | absent _ hp | kept _ _ _ hp => exact hp ▸ upholds_done h1 _
  | created _ hp =>
    rw [hp]
    exact Upholds.discard (upholds_specified h1 fun _ _ => upholds_request h1 (h1.answer hf trivial))
  | replaced r _ _ hp =>
    rw [hp]
    exact Upholds.discard (upholds_specified h1 fun _ _ =>
      upholds_request h1 (h1.answer (hnew r rfl) trivial))

/-- Ensuring several rules on a frontend of one's own can be reverted at any point. -/
theorem upholds_rules (h : Reversible s c0 c) {site : Site} {f : Frontend}
    {ds : List DesiredRule} (hf : f.id ∈ c.ownFrontendIds s.owns) :
    (Access.ensureRules site f ds).Upholds (Reversible s c0) c := by
  rw [Access.ensureRules_eq]
  refine Upholds.forM (K := fun c' => c'.ownFrontendIds s.owns = c.ownFrontendIds s.owns)
    (fun d _ c' h' hown => ⟨?_, fun c'' hrule => ?_⟩) h rfl
  · exact h'.upholds_rule (hown ▸ hf)
  · exact (ownFrontendIds_eq Access.ensureRule_orderly hrule).trans hown

/-- Copying rules to a frontend of one's own can be reverted at any point. -/
theorem upholds_copyTo (h : Reversible s c0 c) {site : Site} {rules : List Rule} {f : Frontend}
    (hf : f.id ∈ c.ownFrontendIds s.owns) :
    (Access.copyTo site rules f).Upholds (Reversible s c0) c := by
  obtain ⟨step, heq, hstep⟩ := Access.copyTo_steps site rules f
  rw [heq]
  refine (ReadOnly.upholds Site.listRules_readOnly h).bind fun others c1 hlist h1 => ?_
  obtain ⟨_, _, rfl⟩ := Site.listRules_returns.1 hlist
  cases hstep others with
  | agreed _ hp => exact hp ▸ upholds_done h1 _
  | copied _ hp => exact hp ▸ Upholds.discard (h1.upholds_change hf trivial)

/-- Copying rules to several frontends of one's own can be reverted at any point. -/
theorem upholds_copyRules (h : Reversible s c0 c) {site : Site} {primaryId : String}
    {rules : List Rule} {m : FrontendMap} (hm : ∀ e ∈ m, e.2.id ∈ c.ownFrontendIds s.owns) :
    (Access.copyRules site primaryId rules m).Upholds (Reversible s c0) c := by
  rw [Access.copyRules_eq]
  refine Upholds.forM (K := fun c' => c'.ownFrontendIds s.owns = c.ownFrontendIds s.owns)
    (fun e he c' h' hown => ⟨?_, fun c'' hcopy => ?_⟩) h rfl
  · exact h'.upholds_copyTo (hown ▸ hm e (List.mem_of_mem_filter he))
  · exact (ownFrontendIds_eq Access.copyTo_orderly hcopy).trans hown

/-- The rules phase can be reverted at any point. -/
theorem upholds_sync (h : Reversible s c0 c) {primaryId : String} {m : FrontendMap}
    (hm : ∀ e ∈ m, e.2.id ∈ c.ownFrontendIds s.owns) :
    (Access.sync s primaryId m).Upholds (Reversible s c0) c := by
  cases hf : m.lookup primaryId with
  | none => exact Access.sync_of_none hf ▸ List.forall_mem_singleton.2 h
  | some f =>
    rw [Access.sync_of_some hf]
    have hmem : f.id ∈ c.ownFrontendIds s.owns := by
      obtain ⟨_, _, rfl, _⟩ := List.lookup_eq_some_iff.1 hf
      exact hm _ (List.mem_append_right _ List.mem_cons_self)
    refine (ReadOnly.upholds Access.desiredRules_readOnly h).bind fun ds c1 hdesired h1 => ?_
    rw [Access.desiredRules_readOnly.returns_eq hdesired] at h1 ⊢
    refine (h1.upholds_rules hmem).bind fun _ c2 hrules h2 => ?_
    -- The primary's rules come first, and change no frontends.
    have hsame : c2.ownFrontendIds s.owns = c.ownFrontendIds s.owns :=
      ownFrontendIds_eq Access.ensureRules_orderly hrules
    cases Access.spread_steps s.site primaryId f m with
    | alone _ hp => exact hp ▸ upholds_done h2 _
    | copied _ hp =>
      rw [hp]
      refine (ReadOnly.upholds Site.listRules_readOnly h2).bind fun rules c3 hlist h3 => ?_
      obtain ⟨_, _, rfl⟩ := Site.listRules_returns.1 hlist
      exact h3.upholds_copyRules (by rwa [hsame])

/-! ## Whole runs -/

/-- The load balancers that a run goes on with are there, and are the cluster's own. -/
theorem ownIds_ensured (h : Reversible s c0 c) (hzones : s.site.zones.Nodup) {b : LoadBalancer}
    {bs : List LoadBalancer} {c1 c2 : Cloud} (hprimary : (ensurePrimary s).Returns c b c1)
    (h1 : Reversible s c0 c1) (hsecondaries : (Secondary.ensure s s.secondaries).Returns c1 bs c2) :
    ∀ x ∈ bs ++ [b], x.id ∈ c2.ownIds s.owns := by
  obtain ⟨q, rfl, hq⟩ := ensurePrimary_spec h.overlay.sound hprimary
  have hsound := h1.overlay.sound
  refine List.forall_mem_append.2 ⟨fun x hx => ?_, List.forall_mem_singleton.2 ?_⟩
  · obtain ⟨all, rfl, hall⟩ :=
      Secondary.ensure_spec hsound (Secondary.nodup_listed hsound hzones) hsecondaries
    obtain ⟨y, hy, rfl⟩ := List.mem_map.1 hx
    have hown := owns_of_secondaryTags (hall.secondary y hy).2
    exact Cloud.mem_ownIds.2 ⟨y, hall.mem y hy, hown, rfl⟩
  -- The primary is no secondary, so that it has been left alone.
  · have hown := owns_of_primaryTags hq.only.primary.2
    have hnot : ¬Secondary.IsSecondary s q := fun hsec =>
      Scope.not_primary_of_secondary (h1.made q hq.only.mem hown).1 hsec.2 hq.only.primary.2
    have hmem := (Secondary.ensure_covers hsound hsecondaries).2.others q hq.only.mem hnot
    exact Cloud.mem_ownIds.2 ⟨q, hmem, hown, rfl⟩

/-- All phases can be reverted at any point, in distinct zones. -/
theorem upholds_arrange (h : Reversible s c0 c) (hzones : s.site.zones.Nodup) :
    (arrange s).Upholds (Reversible s c0) c := by
  unfold arrange
  refine h.upholds_ensurePrimary.bind fun b c1 hprimary h1 => ?_
  refine (h1.upholds_ensure fun d hd a ha => Scope.mem_publicPins hd ha).bind
    fun bs c2 hsecondaries h2 => ?_
  have hown2 := h.ownIds_ensured hzones hprimary h1 hsecondaries
  refine (upholds_ofExcept h2 _).bind fun _ c2' hready h2' => ?_
  obtain ⟨_, rfl⟩ := returns_ofExcept.1 hready
  refine (h2.upholds_network hown2).bind fun rs c3 hnetwork h3 => ?_
  obtain rfl := (ensurePrivateNetwork_spec hnetwork).1
  dsimp only
  rw [(settled_append c3 b bs).1, (settled_append c3 b bs).2]
  have hown3 : ∀ x ∈ settled s c3 b :: bs.map (settled s c3), x.id ∈ c3.ownIds s.owns := by
    rw [ownIds_eq (ensurePrivateNetwork_orderly.mono fun _ => leavesBalancers_of_network) hnetwork]
    obtain ⟨hbs, hb⟩ := List.forall_mem_append.1 hown2
    exact List.forall_mem_cons.2 ⟨hb b (List.mem_singleton_self b), List.forall_mem_map.2 hbs⟩
  refine (h3.upholds_backends hown3).bind fun ks c4 hbackends h4 => ?_
  have hown4 : ∀ k ∈ ks, k.balancerId ∈ c4.ownIds s.owns := by
    obtain ⟨_, _, _, _, _, _, hall⟩ := ensureBackends_spec h3.overlay.sound hbackends
    rw [ownIds_eq (ensureBackends_orderly.mono fun _ => leavesBalancers_of_pool) hbackends]
    intro k hk
    obtain ⟨x, hx, hhas⟩ := hall k hk
    rw [hhas.balancerId]
    exact hown3 x hx
  -- Every frontend that is published is one of a backend, and hence of the cluster's own.
  refine (h4.upholds_frontends hown4).bind fun m c5 hfrontends h5 => ?_
  have hown5 : ∀ e ∈ m, e.2.id ∈ c5.ownFrontendIds s.owns := by
    intro e he
    obtain ⟨hmaps, _, hkeys, _⟩ := ensureFrontends_spec (List.forall_mem_nil _) List.nodup_nil
      hfrontends
    have hkey : e.1 ∈ ks.map (·.balancerId) :=
      ((hkeys e.1).1 (List.mem_map_of_mem he)).resolve_left List.not_mem_nil
    obtain ⟨k, hk, heq⟩ := List.mem_map.1 hkey
    obtain ⟨hmem, _, hparent⟩ := (hmaps e he).mem_filter
    refine Cloud.mem_ownFrontendIds.2 ⟨e.2, hmem, ?_, rfl⟩
    rw [hparent, ← heq,
      ownIds_eq (ensureFrontends_orderly.mono fun _ => leavesBalancers_of_frontend) hfrontends]
    exact hown4 k hk
  refine (h5.upholds_sync hown5).bind fun _ c6 _ h6 => upholds_done h6 _

/-- A run for the cluster can be reverted at any point. -/
theorem upholds_reconcile (h : Reversible s c0 c) (hzones : s.site.zones.Nodup) :
    (reconcile s).Upholds (Reversible s c0) c := by
  rw [reconcile_eq]
  exact (h.upholds_arrange hzones).bind fun _ c1 _ h1 => publish_upholds h1

/-- The deletion of the cluster can be reverted at any point. -/
theorem upholds_delete (h : Reversible s c0 c) : (delete s).Upholds (Reversible s c0) c := by
  refine h.upholds_deletePrimary.bind fun _ c1 _ h1 => ?_
  exact Upholds.discard (h1.upholds_ensure (List.forall_mem_nil _))

/-! ## Members -/

/-- The load balancers that a member works on are the cluster's own. -/
theorem ownIds_found {m : Member} {bs : List LoadBalancer} (hc : c.Sound)
    (h : m.findBalancers.Returns c bs c') : ∀ b ∈ bs, b.id ∈ c.ownIds m.scope.owns := by
  intro b hb
  obtain ⟨_, hfound, _⟩ := Member.findBalancers_spec hc h
  obtain ⟨hmem, htopology⟩ := (hfound b).1 hb
  have howns : m.scope.owns b.tags = true :=
    htopology.elim (fun hp => owns_of_primaryTags hp.2) fun hsec => owns_of_secondaryTags hsec.2
  exact Cloud.mem_ownIds.2 ⟨b, hmem, howns, rfl⟩

/-- Acting on load balancers of the cluster's own can be taken back if acting on each can. -/
theorem upholds_eachLive (h : Reversible s c0 c) {act : LoadBalancer → Program Unit}
    {bs : List LoadBalancer} (hbs : ∀ b ∈ bs, b.id ∈ c.ownIds s.owns)
    (hbelow : ∀ b, (act b).Orderly Request.IsBelow)
    (hact : ∀ b c, Reversible s c0 c → b.id ∈ c.ownIds s.owns →
      (act b).Upholds (Reversible s c0) c) :
    (Member.eachLive act bs).Upholds (Reversible s c0) c := by
  rw [Member.eachLive_eq]
  refine Upholds.forM (K := fun c' => c'.ownIds s.owns = c.ownIds s.owns)
    (fun b hb c' h' hown => ⟨?_, fun c'' hreturns => ?_⟩) h rfl
  · exact hact b c' h' (hown ▸ hbs b (List.mem_of_mem_filter hb))
  · exact (ownIds_eq ((hbelow b).mono fun _ => leavesBalancers_of_below) hreturns).trans hown

/-- Registering a node with a load balancer of one's own can be reverted at any point. -/
theorem upholds_server (h : Reversible s c0 c) {site : Site} {node : String} {deletion : Bool}
    {b : LoadBalancer} (hb : b.id ∈ c.ownIds s.owns) :
    (Member.ensureServer site node deletion b).Upholds (Reversible s c0) c := by
  obtain ⟨step, heq, hstep⟩ := Member.ensureServer_steps site node deletion b
  rw [heq]
  refine (ReadOnly.upholds Site.findBackend_readOnly h).bind fun k c1 hfind h1 => ?_
  obtain ⟨_, hfilter, rfl⟩ := Site.findBackend_returns.1 (returns_orNone_some.2 hfind)
  have hk : HasBackend c1 b.id k := hfilter
  have hnew := h1.overlay.backend_not_mem hk.mem (hk.balancerId ▸ hb)
  cases hstep k with
  | removed _ _ hp | added _ _ hp => exact hp ▸ h1.upholds_change hnew trivial
  | kept _ hp => exact hp ▸ upholds_done h1 _

/-- Ensuring the rule of a member at a load balancer of one's own can be reverted at any point. -/
theorem upholds_memberRule {m : Member} (h : Reversible m.scope c0 c) {addresses : List String}
    {deletion : Bool} {b : LoadBalancer} (hb : b.id ∈ c.ownIds m.scope.owns) :
    (m.ensureRule addresses deletion b).Upholds (Reversible m.scope c0) c := by
  refine (ReadOnly.upholds Member.findFrontend_readOnly h).bind fun found c1 hfind h1 => ?_
  obtain rfl := Member.findFrontend_readOnly.returns_eq hfind
  cases found with
  | none => exact upholds_done h1 _
  | some f =>
    obtain ⟨hmem, _, hparent⟩ := (Member.hasFrontend_of_handled hfind f rfl).mem_filter
    exact h1.upholds_rule (Cloud.mem_ownFrontendIds.2 ⟨f, hmem, hparent ▸ hb, rfl⟩)

/-- A run that registers a member can be reverted at any point. -/
theorem upholds_register {m : Member} (h : Reversible m.scope c0 c) {node : String}
    {addresses : List String} : (m.reconcile node addresses).Upholds (Reversible m.scope c0) c := by
  refine (ReadOnly.upholds Member.findBalancers_readOnly h).bind fun bs c1 hfind h1 => ?_
  obtain rfl := Member.findBalancers_readOnly.returns_eq hfind
  have hown := ownIds_found h1.overlay.sound hfind
  refine Upholds.bind (h1.upholds_eachLive hown (fun _ => Member.ensureServer_orderly)
    fun b c hc hb => hc.upholds_server hb) fun _ c2 hservers h2 => ?_
  have hsame : c2.ownIds m.scope.owns = c1.ownIds m.scope.owns := ownIds_eq
    ((Member.eachLive_orderly fun _ => Member.ensureServer_orderly).mono fun _ =>
      leavesBalancers_of_below) hservers
  exact h2.upholds_eachLive (by rwa [hsame]) (fun _ => Member.ensureRule_orderly)
    fun b c hc hb => hc.upholds_memberRule hb

/-- A run that removes a member can be reverted at any point. -/
theorem upholds_remove {m : Member} (h : Reversible m.scope c0 c) {node : String} :
    (m.delete node).Upholds (Reversible m.scope c0) c := by
  refine (ReadOnly.upholds Member.findBalancers_readOnly.orNone h).bind fun found c1 hfind h1 => ?_
  obtain rfl := Member.findBalancers_readOnly.orNone.returns_eq hfind
  have hown : ∀ b ∈ found.getD [], b.id ∈ c1.ownIds m.scope.owns := by
    cases found with
    | none => exact nofun
    | some bs => exact ownIds_found h1.overlay.sound (returns_orNone_some.1 hfind)
  refine Upholds.bind (h1.upholds_eachLive hown (fun _ => Member.ensureRule_orderly)
    fun b c hc hb => hc.upholds_memberRule hb) fun _ c2 hrules h2 => ?_
  have hsame : c2.ownIds m.scope.owns = c1.ownIds m.scope.owns := ownIds_eq
    ((Member.eachLive_orderly fun _ => Member.ensureRule_orderly).mono fun _ =>
      leavesBalancers_of_below) hrules
  exact h2.upholds_eachLive (by rwa [hsame]) (fun _ => Member.ensureServer_orderly)
    fun b c hc hb => hc.upholds_server hb

/-- Whatever is run for the cluster, it can be taken back on the way. -/
theorem upholds_job (h : Reversible s c0 c) (hzones : s.site.zones.Nodup) (j : Job) :
    (j.program s).Upholds (Reversible s c0) c := by
  cases j with
  | reconcile => exact h.upholds_reconcile hzones
  | delete => exact h.upholds_delete
  | register name node addresses => exact upholds_register (m := ⟨s, name⟩) h
  | remove name node => exact upholds_remove (m := ⟨s, name⟩) h

end Reversible

end Topology

end ControlPlane
