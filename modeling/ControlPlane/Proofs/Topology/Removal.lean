import ControlPlane.Proofs.Access.Renewal
import ControlPlane.Proofs.Topology.Membership
import ControlPlane.Proofs.Topology.Singles

/-!
# Members removed from partial topologies

What runs that were cut short have left may lack any part. A removal passes over a load balancer
without a frontend. It fails at one without a backend, and where the zone of the primary is none of
the region; and where there is no primary it takes this for nothing to do, also if there are
secondaries. Apart from that nothing stands in its way: after any history of runs it returns exactly
if none of the first two is the case, and it has removed the member from every load balancer exactly
if there was a primary or no trace of the member (`removal_returns_iff`).
-/

namespace ControlPlane

open Program hiding ofExcept

/-! ## Success -/

namespace Member

open ControlPlane.Topology

variable {m : Member} {c0 c : Cloud} {b : LoadBalancer} {bs : List LoadBalancer} {node : String}

/-- If acting on each load balancer that is not being deleted returns, acting on all of them does.
-/
theorem eachLive_returns (act : LoadBalancer → Program Unit) {I : Cloud → Prop} (hc : I c)
    (hact : ∀ b ∈ bs, b.status ≠ .deleting → ∀ c, I c → ∃ c', (act b).Returns c () c' ∧ I c') :
    ∃ c', (eachLive act bs).Returns c () c' ∧ I c' := by
  induction bs generalizing c with
  | nil => exact ⟨c, returns_done.2 ⟨rfl, rfl⟩, hc⟩
  | cons b rest ih =>
    obtain ⟨hfirst, hothers⟩ := List.forall_mem_cons.1 hact
    by_cases hlive : b.status ≠ .deleting
    · obtain ⟨c1, hb, h1⟩ := hfirst hlive c hc
      obtain ⟨c', hrest, h'⟩ := ih h1 hothers
      rw [eachLive_cons_of_live hlive]
      exact ⟨c', returns_bind.2 ⟨(), c1, hb, hrest⟩, h'⟩
    · rw [eachLive_cons_of_deleting hlive]
      exact ih hc hothers

/-- A list with at most one element has one or none. -/
theorem eq_toList_of_length_le {α : Type} {items : List α} (h : items.length ≤ 1) :
    ∃ found : Option α, items = found.toList := by
  match items with
  | [] => exact ⟨none, rfl⟩
  | [a] => exact ⟨some a, rfl⟩
  | _ :: _ :: _ => simp at h

/-- A rule can be ensured at a load balancer with a frontend that has at most one under its name. -/
theorem ensureRule_returns (addresses : List String) (deletion : Bool) {f : Frontend}
    (hzone : b.zone ∈ m.scope.site.zones) (hf : HasFrontend c b.id f)
    (hfzone : f.zone ∈ m.scope.site.zones) (hsingle : (Access.specsOf c f.id m.ruleName).length ≤ 1) :
    ∃ c', (m.ensureRule addresses deletion b).Returns c () c' := by
  have hfind : (m.scope.site.findFrontend b.zone b.id Topology.frontendName).Returns c f c :=
    returns_orNone_some.1 (Site.findFrontend_returns.2 ⟨hzone, hf, rfl⟩)
  have hmap : (some <$> m.scope.site.findFrontend b.zone b.id Topology.frontendName).Returns c
      (some f) c := returns_map.2 ⟨f, hfind, rfl⟩
  have hlow : 0 ≤ (m.desiredRule addresses).index := by
    show (0 : Int) ≤ ruleIndex
    decide
  have hhigh : (m.desiredRule addresses).index ≤ RuleSpec.maxIndex := by
    show ruleIndex ≤ RuleSpec.maxIndex
    decide
  obtain ⟨c', h⟩ := Access.ensureRule_returns hf.mem_filter.1 hfzone hlow hhigh hsingle
  refine ⟨c', returns_bind.2 ⟨some f, c, ?_, h⟩⟩
  unfold Program.Returns at hmap ⊢
  rw [exec_handle, hmap]

/-- In a removal, a frontend that is not there is nothing to do, and one that is there is no
obstacle. -/
theorem ensureRule_removes (h : NoneTwice m.scope c0 c) (hb : c0.Later "lb" b.id)
    (hzone : b.zone ∈ m.scope.site.zones) :
    ∃ c', (m.ensureRule [] true b).Returns c () c' := by
  obtain ⟨found, hfound⟩ := eq_toList_of_length_le (h.frontends b.id hb)
  have hfind : (m.scope.site.findFrontend b.zone b.id frontendName).orNone.Returns c found c :=
    Site.findFrontend_returns.2 ⟨hzone, hfound, rfl⟩
  cases found with
  | none => exact ⟨c, returns_bind.2 ⟨none, c, hfind, returns_done.2 ⟨rfl, rfl⟩⟩⟩
  | some f =>
    have hf : HasFrontend c b.id f := hfound
    obtain ⟨hmem, _, hparent⟩ := hf.mem_filter
    obtain ⟨hfzone, hfid⟩ := h.ports f hmem (hparent ▸ hb)
    exact ensureRule_returns [] true hzone hf hfzone
      (Access.length_specsOf_le (h.rules f.id hfid) m.ruleName)

/-- A node can be put into the pool of a backend that is there, and taken out of it. -/
theorem ensureServer_returns (node : String) (deletion : Bool) {site : Site} {k : Backend}
    (hk : HasBackend c b.id k) (hzone : b.zone ∈ site.zones) :
    ∃ c', (ensureServer site node deletion b).Returns c () c' := by
  have hfind : (site.findBackend b.zone b.id backendName).Returns c k c :=
    returns_orNone_some.1 (Site.findBackend_returns.2 ⟨hzone, hk, rfl⟩)
  obtain ⟨old, hold⟩ := Cloud.exists_find? (p := fun x : Backend => decide (x.id = k.id))
    hk.mem (decide_eq_true rfl)
  -- Its backend is there, so that its pool can be changed.
  have hchanged : ∀ f : List String → List String, ∃ k' c', c.changePool k.id f = (.ok k', c') := by
    intro f
    unfold Cloud.changePool Cloud.withFirst
    dsimp only
    rw [hold]
    exact ⟨_, _, rfl⟩
  obtain ⟨step, heq, hstep⟩ := ensureServer_steps site node deletion b
  have hfound : (∃ c', (step k).Returns c () c') →
      ∃ c', (ensureServer site node deletion b).Returns c () c' :=
    fun ⟨c', h⟩ => ⟨c', heq ▸ returns_bind.2 ⟨k, c, hfind, h⟩⟩
  refine hfound ?_
  cases hstep k with
  | removed _ _ hp =>
    obtain ⟨k', c', hc'⟩ := hchanged (·.erase node)
    have hanswer : c.answer (.removeServer b.zone k.id node) = (.ok (), c') := by
      unfold Cloud.answer
      dsimp only
      rw [hc']
      rfl
    exact ⟨c', hp ▸ Site.change_returns.2 ⟨hzone, hanswer⟩⟩
  | added _ _ hp =>
    obtain ⟨k', c', hc'⟩ := hchanged (· ++ [node])
    have hanswer : c.answer (.addServer b.zone k.id node) = (.ok (), c') := by
      unfold Cloud.answer
      dsimp only
      rw [hc']
      rfl
    exact ⟨c', hp ▸ Site.change_returns.2 ⟨hzone, hanswer⟩⟩
  | kept _ hp => exact ⟨c, hp ▸ returns_done.2 ⟨rfl, rfl⟩⟩

/-- Nodes can be put into the pools of load balancers with backends, and taken out of them. -/
theorem ensureServers_returns (node : String) (deletion : Bool) {site : Site} (hc : c.Sound)
    (hzones : ∀ b ∈ bs, b.zone ∈ site.zones)
    (hbackends : ∀ b ∈ bs, b.status ≠ .deleting → ∃ k, HasBackend c b.id k) :
    ∃ c', (eachLive (ensureServer site node deletion) bs).Returns c () c' := by
  obtain ⟨c', hservers, _⟩ := eachLive_returns (ensureServer site node deletion)
    (I := fun v => v.Sound ∧ ∀ b ∈ bs, b.status ≠ .deleting → ∃ k, HasBackend v b.id k)
    ⟨hc, hbackends⟩ fun b hb hlive v hv => by
      obtain ⟨k, hk⟩ := hv.2 b hb hlive
      obtain ⟨v', hreturns⟩ := ensureServer_returns node deletion hk (hzones b hb)
      refine ⟨v', hreturns, hv.1.returns hreturns, fun b' hb' hlive' => ?_⟩
      obtain ⟨k', hk'⟩ := hv.2 b' hb' hlive'
      obtain ⟨k0, _, rfl⟩ := ensureServer_effect hv.1 hreturns
      exact ⟨_, hk'.changePool k0.id (enlisted node deletion)⟩
  exact ⟨c', hservers⟩

/-- There is no second primary, wherever the primary is looked for. -/
def OnePrimary (s : Scope) (c : Cloud) : Prop :=
  ∀ b ∈ c.balancers, IsPrimary s b → ∀ b' ∈ c.balancers, IsPrimary s b' → b' = b

/-- If there is a primary, every live load balancer of the cluster has a backend. -/
def Backed (s : Scope) (c : Cloud) : Prop :=
  (∃ b ∈ c.balancers, IsPrimary s b) →
    ∀ b ∈ c.balancers, InTopology s b → b.status ≠ .deleting → ∃ k, HasBackend c b.id k

/-- A removal succeeds where nothing has been made twice, if the load balancers have backends. -/
theorem delete_removes (node : String) (h : NoneTwice m.scope c0 c) (honly : OnePrimary m.scope c)
    (husable : ZoneUsable m.scope) (hbacked : Backed m.scope c) :
    ∃ c', (m.delete node).Returns c () c' := by
  by_cases hprimary : ∃ b ∈ c.balancers, IsPrimary m.scope b
  · have hbackends := hbacked hprimary
    obtain ⟨q, hq, hisPrimary⟩ := hprimary
    have hfind : m.findBalancers.orNone.Returns c (some (Secondary.listed m.scope c ++ [q])) c :=
      (orNone_findBalancers_returns h.sound).2
        ⟨husable, rfl, q, ⟨hq, hisPrimary, honly q hq hisPrimary⟩, rfl⟩
    obtain ⟨_, hbs, hzones⟩ := findBalancers_spec h.sound (returns_orNone_some.1 hfind)
    have hlater : ∀ b ∈ Secondary.listed m.scope c ++ [q], c0.Later "lb" b.id := by
      intro b hb
      obtain ⟨hmem, htopology⟩ := (hbs b).1 hb
      exact h.own b hmem (owns_of_inTopology htopology)
    -- First the rules go, and no backend with them.
    obtain ⟨c1, hrules, h1, hbackends1⟩ := eachLive_returns (m.ensureRule [] true)
      (I := fun v => NoneTwice m.scope c0 v ∧ v.backends = c.backends) ⟨h, rfl⟩ fun b hb _ v hv => by
        obtain ⟨v', hreturns⟩ := ensureRule_removes hv.1 (hlater b hb) (hzones b hb)
        have hframe := Access.changes_rules ensureRule_isRule hreturns
        exact ⟨v', hreturns, hv.1.upholds_memberRule.of_returns hreturns, by rw [hframe, hv.2]⟩
    -- Then the node goes from the pools, and the backends stay.
    obtain ⟨c', hservers⟩ := ensureServers_returns node true h1.sound hzones fun b hb hlive => by
      obtain ⟨hmem, htopology⟩ := (hbs b).1 hb
      obtain ⟨k, hk⟩ := hbackends b hmem htopology hlive
      exact ⟨k, hk.congr hbackends1⟩
    exact ⟨c', returns_bind.2 ⟨_, c, hfind, returns_bind.2 ⟨(), c1, hrules, hservers⟩⟩⟩
  · have hnone : ∀ b ∈ c.balancers, ¬IsPrimary m.scope b := fun b hb hb' => hprimary ⟨b, hb, hb'⟩
    have hfind : m.findBalancers.orNone.Returns c none c :=
      (orNone_findBalancers_returns h.sound).2 ⟨husable, rfl, hnone⟩
    exact ⟨c, returns_bind.2 ⟨none, c, hfind, returns_bind.2 ⟨(), c, returns_done.2 ⟨rfl, rfl⟩,
      returns_done.2 ⟨rfl, rfl⟩⟩⟩⟩

/-- No live load balancer of the cluster has the node in its pool or a rule of the member. -/
def Absent (m : Member) (node : String) (c : Cloud) : Prop :=
  ∀ b ∈ c.balancers, InTopology m.scope b → b.status ≠ .deleting →
    (∀ k ∈ backendsOf c b.id, node ∉ k.pool) ∧
      ∀ f ∈ frontendsOf c b.id, ∀ r ∈ Access.rulesOf c f.id, r.name ≠ m.ruleName

/-- Where nothing has been made twice, a removal that returns has removed the member, if there was a
primary. -/
theorem absent_of_delete (h : NoneTwice m.scope c0 c) {c' : Cloud} {u : Unit}
    (hprimary : ∃ b ∈ c.balancers, IsPrimary m.scope b) (hrun : (m.delete node).Returns c u c') :
    Backed m.scope c ∧ Absent m node c' := by
  obtain ⟨p, hp, hisPrimary⟩ := hprimary
  -- Pools have each server once, as all of them were made by runs.
  have honce : PoolsOnce m.scope c := fun b hb htopology k hk =>
    h.pools k hk.mem (hk.balancerId ▸ h.own b hb (owns_of_inTopology htopology))
  rcases delete_leaves h.sound hrun with ⟨hnone, _⟩ | ⟨_, hframe, hall⟩
  · exact (hnone p hp hisPrimary).elim
  refine ⟨fun _ b hb htopology hlive => ((hall b hb htopology hlive).2 honce).1,
    fun b hb htopology hlive => ?_⟩
  have hbalancers : c'.balancers = c.balancers := by rw [hframe]
  have hfrontends : frontendsOf c' b.id = frontendsOf c b.id := by
    rw [hframe]
    rfl
  rw [hbalancers] at hb
  obtain ⟨hrules, hservers⟩ := hall b hb htopology hlive
  obtain ⟨_, k, hk, hgone⟩ := hservers honce
  refine ⟨fun k' hk' => ?_, fun f hf r hr hname => ?_⟩
  · -- The load balancer has one backend, and the node is gone from it.
    have hself : k' = k := List.mem_singleton.1 (hk ▸ hk')
    rw [hself]
    exact hgone
  · -- It has at most one frontend, and the member's rule is gone from that.
    rw [hfrontends] at hf
    obtain ⟨found, hfound⟩ :=
      eq_toList_of_length_le (h.frontends b.id (h.own b hb (owns_of_inTopology htopology)))
    have hhas : HasFrontend c b.id f := by
      rw [hfound, Option.mem_toList] at hf
      rw [hf] at hfound
      exact hfound
    have hmem : r ∈ (Access.rulesOf c' f.id).filter (·.name = m.ruleName) :=
      List.mem_filter.2 ⟨hr, decide_eq_true hname⟩
    rw [hrules f hhas] at hmem
    cases hmem

end Member

/-! ## After any history -/

namespace Topology

variable {s : Scope} {c0 c : Cloud}

/-- A cloud with nothing of the cluster has no place taken twice. -/
theorem Unique.of_vacant (h : Vacant s c) : Unique s c := by
  have hnone : ∀ b ∈ c.balancers, ¬(hasTags b.tags (primaryTags s) = true ∨
      hasTags b.tags (Secondary.tags s) = true) := by
    intro b hb htags
    refine Bool.false_ne_true ((h.unowned b hb).symm.trans ?_)
    exact htags.elim owns_of_primaryTags owns_of_secondaryTags
  refine ⟨h.sound, .of_nodup ?_ ?_⟩
  · rw [List.filter_eq_nil_iff.2 fun b hb htags => hnone b hb (.inl htags)]
    exact List.nodup_nil
  · rw [List.filter_eq_nil_iff.2 fun b hb htags => hnone b hb (.inr htags)]
    exact List.nodup_nil

/-- Where the zone of the primary is one of the region, at most one primary is at its place. -/
theorem Unique.onePrimary (h : Unique s c) (husable : ZoneUsable s) : Member.OnePrimary s c := by
  intro b hb hprimary b' hb' hprimary'
  obtain ⟨zone, hzone, hok⟩ := husable
  -- All primaries are in the one zone that is declared, and in it the invariant counts them.
  have hmem : ∀ x ∈ c.balancers, IsPrimary s x → x ∈ c.balancers.filter (isPrimaryIn s zone) := by
    intro x hx hx'
    have heq : x.zone = zone := Except.ok.inj (hx'.1.symm.trans hok)
    refine List.mem_filter.2 ⟨hx, ?_⟩
    rw [isPrimaryIn, hx'.2, heq]
    simp
  have hcount := h.places.primary zone hzone
  rw [List.countP_eq_length_filter] at hcount
  obtain ⟨found, hfound⟩ := Member.eq_toList_of_length_le hcount
  have hb1 := hmem b hb hprimary
  have hb2 := hmem b' hb' hprimary'
  rw [hfound, Option.mem_toList] at hb1 hb2
  exact Option.some.inj (hb2.symm.trans hb1)

/-- When members can be removed. From a cloud without load balancers of a cluster, let runs of any
kind come one after the other, and be cut short anywhere but by a failure that is taken for a
finding. Then a removal returns exactly if the zone of the primary is one of the region and, if
there is a primary, every live load balancer has a backend. If there is a primary, the member is
gone then from all of them; if there is none, nothing has changed, and what the secondaries know of
the member is still there. -/
theorem removal_returns_iff (m : Member) (node : String) (hc : Vacant m.scope c0)
    (runs : List (Job × Circumstances)) (gentle : ∀ r ∈ runs, r.2.Gentle)
    {deadline : Option Seconds} {x : Session Cloud}
    (hstore : x.world.store = aftermath m.scope c0 runs) (live : x.Live deadline) :
    let run := (m.delete node).run Cloud.provider deadline x
    (run.1 = .ok () ↔ ZoneUsable m.scope ∧ Member.Backed m.scope x.world.store) ∧
      (run.1 = .ok () → (∃ b ∈ x.world.store.balancers, IsPrimary m.scope b) →
        m.Absent node run.2.world.store) ∧
      (run.1 = .ok () → (¬∃ b ∈ x.world.store.balancers, IsPrimary m.scope b) →
        run.2.world.store = x.world.store) := by
  intro run
  -- After any runs, nothing of the cluster's is there twice.
  have hnone : NoneTwice m.scope c0 x.world.store := by
    rw [hstore]
    exact noneTwice_aftermath (.of_vacant hc) gentle
  have hunique : Unique m.scope x.world.store := by
    rw [hstore]
    exact aftermath_keeps (fun _ h j => job_upholds j h) (.of_vacant hc) gentle
  have hreturns : run.1 = .ok () → (m.delete node).Returns x.world.store () run.2.world.store :=
    fun hok => Member.delete_orderly.returns (Prod.ext hok rfl)
  refine ⟨⟨fun hok => ?_, ?_⟩, fun hok hprimary => ?_, fun hok hprimary => ?_⟩
  · -- A removal that returns has found its way to all backends.
    obtain ⟨_, _, hfind, _⟩ := returns_bind.1 (hreturns hok)
    obtain ⟨husable, _⟩ := (Member.orNone_findBalancers_returns hnone.sound).1 hfind
    exact ⟨husable, fun hprimary =>
      (Member.absent_of_delete hnone hprimary (hreturns hok)).1 hprimary⟩
  · -- With all backends there, nothing can fail.
    rintro ⟨husable, hbacked⟩
    obtain ⟨c', h⟩ := Member.delete_removes node hnone (hunique.onePrimary husable)
      husable hbacked
    obtain ⟨x', hrun, _⟩ := Member.delete_orderly.brittle.run_of_returns live h
    exact congrArg Prod.fst hrun
  · exact (Member.absent_of_delete hnone hprimary (hreturns hok)).2
  · -- Without a primary nothing is done.
    rcases Member.delete_leaves hnone.sound (hreturns hok) with ⟨_, hsame⟩ | ⟨⟨q, hq⟩, _⟩
    · exact hsame
    · exact (hprimary ⟨q, hq.mem, hq.primary⟩).elim

end Topology

namespace Sample

/-- The member that the samples remove. -/
def member : Member := ⟨publicScope, "node"⟩

/-- A failure that is no finding. -/
def mishap : Failure := .ofFault ⟨.general, .noTags⟩

/-- After a complete run a member registers, and then the load balancers are deleted, the primary
but not the secondary. -/
def beheading : List (Job × Circumstances) :=
  [(.reconcile, {}),
   (.register "node" "10.1.0.7" ["198.51.100.7"], {}),
   (.delete, { disturbances := [{ endpoint := "delete_lb", nth := some 2, failure := some mishap }] })]

/-- A run that makes the load balancers and no backend. -/
def hollowing : List (Job × Circumstances) :=
  [(.reconcile, { disturbances := [{ endpoint := "create_backend", failure := some mishap }] })]

/-- A run that one failing request disturbs is gentle. -/
theorem mishap_gentle {endpoint : String} {nth : Option Nat} {deadline : Option Seconds} :
    Circumstances.Gentle
      { deadline, disturbances := [{ endpoint, nth, failure := some mishap }] } := by
  refine List.forall_mem_singleton.2 fun e he => ?_
  rw [← Option.some.inj he]
  decide +kernel

/-- The runs of the example are gentle. -/
theorem beheading_gentle : ∀ r ∈ beheading, r.2.Gentle := by
  have hnone : ∀ d ∈ ([] : List Disturbance), ∀ e, d.failure = some e → e.isNotFound = false :=
    List.forall_mem_nil _
  exact List.forall_mem_cons.2 ⟨hnone, List.forall_mem_cons.2 ⟨hnone,
    List.forall_mem_singleton.2 mishap_gentle⟩⟩

end Sample

namespace Topology

/-- Without the primary, the removal returns and the node stays in the pool of the secondary;
without a backend, it fails. -/
theorem sample_removal_of_node :
    let orphaned := aftermath Sample.publicScope Sample.leasedCloud Sample.beheading
    let hollow := aftermath Sample.publicScope Sample.leasedCloud Sample.hollowing
    let run c := (Sample.member.delete "10.1.0.7").run Cloud.provider none (Sample.session c)
    ((run orphaned).1 = .ok () ∧ (run orphaned).2.world.store = orphaned ∧
        ¬Sample.member.Absent "10.1.0.7" orphaned) ∧
      (run hollow).1 ≠ .ok () := by
  intro orphaned hollow run
  have horphaned : ∀ c, c = orphaned → _ := fun c hstore =>
    removal_returns_iff Sample.member "10.1.0.7" Sample.leasedCloud_vacant Sample.beheading
      Sample.beheading_gentle (x := Sample.session c) hstore
        (rfl : (Sample.session c).Live none)
  have hhollow : ∀ c, c = hollow → _ := fun c hstore =>
    removal_returns_iff Sample.member "10.1.0.7" Sample.leasedCloud_vacant Sample.hollowing
      (List.forall_mem_singleton.2 Sample.mishap_gentle) (x := Sample.session c) hstore
        (rfl : (Sample.session c).Live none)
  obtain ⟨_, _, hsame⟩ := horphaned _ rfl
  obtain ⟨hiff, _, _⟩ := hhollow _ rfl
  -- Without the primary the removal returns, and the secondary keeps the node.
  have hok : (run orphaned).1 = .ok () := by
    decide +kernel
  have hnone : ∀ b ∈ orphaned.balancers, ¬(b.zone = "fr-par-1" ∧
      hasTags b.tags (primaryTags Sample.publicScope) = true) := by decide +kernel
  have hprimary : ∃ b ∈ hollow.balancers, b.zone = "fr-par-1" ∧
      hasTags b.tags (primaryTags Sample.publicScope) = true ∧ b.status ≠ .deleting := by
    decide +kernel
  have hleft : ∃ b ∈ orphaned.balancers, b.status ≠ .deleting ∧
      (b.zone ∈ Sample.publicScope.site.zones ∧
        hasTags b.tags (Secondary.tags Sample.publicScope) = true) ∧
      ∃ k ∈ backendsOf orphaned b.id, "10.1.0.7" ∈ k.pool := by decide +kernel
  refine ⟨⟨hok, hsame hok fun ⟨b, hb, hisPrimary⟩ => hnone b hb ?_, fun habsent => ?_⟩, fun hok => ?_⟩
  · exact ⟨(Except.ok.inj hisPrimary.1).symm, hisPrimary.2⟩
  · obtain ⟨b, hb, hlive, hsecondary, k, hk, hnode⟩ := hleft
    exact (habsent b hb (.inr hsecondary) hlive).1 k hk hnode
  · -- On the other cloud there is a primary without a backend.
    obtain ⟨b, hb, hzone, htags, hlive⟩ := hprimary
    have hisPrimary : IsPrimary Sample.publicScope b := ⟨hzone ▸ rfl, htags⟩
    obtain ⟨k, hk⟩ := (hiff.1 hok).2 ⟨b, hb, hisPrimary⟩ b hb (.inl hisPrimary) hlive
    have hempty : hollow.backends = [] := by decide +kernel
    exact List.not_mem_nil (hempty ▸ hk.mem)

end Topology

end ControlPlane
