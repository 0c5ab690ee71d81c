import ControlPlane.Proofs.Topology.Registration
import ControlPlane.Proofs.Topology.Uniqueness

/-!
# What the jobs of members leave, on any cloud

A member finds all load balancers of its cluster if there is one primary, and a removal finds none
if there is no primary (`orNone_findBalancers_returns`). It goes through those that are not being
deleted. What it does to one of them stays when it goes on (`eachLive_leaves`). So in the end every
live one with a frontend has the rule of the member as it is desired there (`ensureRules_leaves`),
and after a removal the node is in the pool of none (`ensureServers_removes`). Nothing is asked of
the load balancers themselves here: a member may meet one of them twice, and some may be without a
backend or a frontend.
-/

namespace ControlPlane

open Program hiding ofExcept

/-- The zone that is declared for the primary is one of the region. -/
def Topology.ZoneUsable (s : Scope) : Prop :=
  ∃ zone ∈ s.site.zones, s.site.region.resolve s.primary.zone = .ok zone

namespace Member

open ControlPlane.Topology (HasBackend HasFrontend HasPrimary InTopology IsPrimary ZoneUsable)

variable {m : Member} {c c' : Cloud} {bs : List LoadBalancer} {node : String} {deletion : Bool}
  {addresses : List String} {u : Unit}

/-! ## The load balancers of the cluster -/

/-- What follows a look-up and never fails changes nothing about whether something is found. -/
theorem orNone_bind_returns {α β : Type} {p : Program α} {f : α → Program β} {g : α → β}
    (hp : p.ReadOnly) (hf : ∀ a, (f a).Returns c (g a) c) {r : Option β} :
    (p >>= f).orNone.Returns c r c' ↔ ∃ found, p.orNone.Returns c found c' ∧ r = found.map g := by
  unfold Program.Returns at hf ⊢
  rw [exec_orNone, exec_orNone, exec_bind]
  rcases hexec : p.exec c with ⟨e | a, c1⟩
  · dsimp only
    split
    · simp only [Prod.mk.injEq, Except.ok.injEq]
      constructor
      · rintro ⟨rfl, rfl⟩
        exact ⟨none, ⟨rfl, rfl⟩, rfl⟩
      · rintro ⟨_, ⟨rfl, rfl⟩, rfl⟩
        exact ⟨rfl, rfl⟩
    · simp
  · -- Something is found, and what follows always returns.
    have hc1 : c1 = c := hp.returns_eq hexec
    dsimp only
    rw [hc1, hf a]
    simp only [Prod.mk.injEq, Except.ok.injEq]
    constructor
    · rintro ⟨rfl, rfl⟩
      exact ⟨some a, ⟨rfl, rfl⟩, rfl⟩
    · rintro ⟨_, ⟨rfl, rfl⟩, rfl⟩
      exact ⟨rfl, rfl⟩

/-- A zone that cannot be read is an error of its own, which is not ignored. -/
theorem resolve_not_ignored {r : Region} {written : Option String} {e : Failure}
    (h : r.resolve written = .error e) : e.isIgnored [.notFound] = false := by
  unfold Region.resolve at h
  split at h
  · cases h
  · split at h
    · cases h
    · cases h
      rfl

/-- A removal looks for load balancers where the primary's zone is one of the region. It finds those
of the cluster, the primary last, or none if there is no primary. -/
theorem orNone_findBalancers_returns (hc : c.Sound) {found : Option (List LoadBalancer)} :
    m.findBalancers.orNone.Returns c found c' ↔ ZoneUsable m.scope ∧ c' = c ∧
      match found with
      | none => ∀ b ∈ c.balancers, ¬IsPrimary m.scope b
      | some bs => ∃ q, HasPrimary m.scope q c ∧ bs = Secondary.listed m.scope c ++ [q] := by
  cases hresolve : m.scope.site.region.resolve m.scope.primary.zone with
  | error e =>
    unfold Program.Returns findBalancers
    rw [hresolve, exec_orNone]
    show (if e.isIgnored [.notFound] = true then _ else _) = _ ↔ _
    -- A zone that does not resolve fails for good, and is not taken for a missing primary.
    rw [resolve_not_ignored hresolve]
    refine ⟨nofun, ?_⟩
    rintro ⟨⟨zone, _, hok⟩, _⟩
    cases hresolve.symm.trans hok
  | ok zone =>
    have hfind : m.findBalancers = m.scope.site.findBalancer zone (Topology.primaryTags m.scope) >>=
        fun primary => m.scope.site.findBalancers (Secondary.tags m.scope) >>=
          fun secondaries => done (secondaries ++ [primary]) := by
      unfold findBalancers
      rw [hresolve]
      rfl
    -- The secondaries are always listed, so only the look-up of the primary decides.
    have hrest : ∀ primary, (m.scope.site.findBalancers (Secondary.tags m.scope) >>=
        fun secondaries => done (secondaries ++ [primary])).Returns c
          (Secondary.listed m.scope c ++ [primary]) c := fun primary =>
      returns_bind.2 ⟨_, c, (Site.findBalancers_returns (Secondary.tags_ne_nil _)).2 ⟨rfl, rfl⟩,
        returns_done.2 ⟨rfl, rfl⟩⟩
    have husable : ZoneUsable m.scope ↔ zone ∈ m.scope.site.zones := by
      refine ⟨?_, fun hzone => ⟨zone, hzone, hresolve⟩⟩
      rintro ⟨_, hzone, hok⟩
      cases hresolve.symm.trans hok
      exact hzone
    rw [hfind, orNone_bind_returns Site.findBalancer_readOnly hrest, husable]
    simp only [Site.findBalancer_returns (Topology.primaryTags_ne_nil _)]
    constructor
    · rintro ⟨q, ⟨hzone, hfilter, rfl⟩, rfl⟩
      refine ⟨hzone, rfl, ?_⟩
      cases q with
      | none =>
        intro b hb hprimary
        refine List.filter_eq_nil_iff.1 hfilter b hb ?_
        rw [hprimary.2, ← Except.ok.inj (hresolve.symm.trans hprimary.1)]
        simp
      | some q => exact ⟨q, Topology.hasPrimary_of_filter hresolve hfilter, rfl⟩
    · rintro ⟨hzone, rfl, hfound⟩
      cases found with
      | none =>
        refine ⟨none, ⟨hzone, List.filter_eq_nil_iff.2 fun b hb hfilter => ?_, rfl⟩, rfl⟩
        rw [Bool.and_eq_true, decide_eq_true_eq] at hfilter
        exact hfound b hb ⟨hfilter.2 ▸ hresolve, hfilter.1⟩
      | some bs =>
        obtain ⟨q, hq, rfl⟩ := hfound
        have heq : zone = q.zone := Except.ok.inj (hresolve.symm.trans hq.primary.1)
        exact ⟨some q, ⟨hzone, heq ▸ hq.filter hc, rfl⟩, rfl⟩

/-- A member that finds load balancers finds those of the cluster, which are in zones of the
region. -/
theorem findBalancers_spec (hc : c.Sound) (h : m.findBalancers.Returns c bs c') :
    c' = c ∧ (∀ b, b ∈ bs ↔ b ∈ c.balancers ∧ InTopology m.scope b) ∧
      ∀ b ∈ bs, b.zone ∈ m.scope.site.zones := by
  obtain ⟨⟨zone, hzone, hok⟩, rfl, q, hq, rfl⟩ :=
    (orNone_findBalancers_returns hc).1 (returns_orNone_some.2 h)
  refine ⟨rfl, fun b => ?_, fun b hb => ?_⟩
  · have hself : b = q ↔ b ∈ c'.balancers ∧ IsPrimary m.scope b :=
      ⟨fun heq => heq ▸ ⟨hq.mem, hq.primary⟩, fun hb => hq.unique b hb.1 hb.2⟩
    rw [List.mem_append, List.mem_singleton, hself, Secondary.mem_listed, ← and_or_left, or_comm]
    exact Iff.rfl
  · rcases List.mem_append.1 hb with hsec | hb
    · exact (Secondary.mem_listed.1 hsec).2.1
    · rw [List.mem_singleton.1 hb, ← Except.ok.inj (hok.symm.trans hq.primary.1)]
      exact hzone

/-! ## One after the other -/

/-- What acting on a load balancer leaves for it, and what acting on the others keeps, is there in
the end for every one that is not being deleted. -/
theorem eachLive_leaves {act : LoadBalancer → Program Unit} {I : Cloud → Prop}
    {Q : LoadBalancer → Cloud → Prop} (hc : I c)
    (hact : ∀ b ∈ bs, ∀ c c' u, I c → (act b).Returns c u c' →
      I c' ∧ Q b c' ∧ ∀ b', Q b' c → Q b' c')
    (h : (eachLive act bs).Returns c u c') :
    I c' ∧ (∀ b ∈ bs, b.status ≠ .deleting → Q b c') ∧ ∀ b', Q b' c → Q b' c' := by
  induction bs generalizing c with
  | nil =>
    obtain ⟨_, rfl⟩ := returns_done.1 h
    exact ⟨hc, List.forall_mem_nil _, fun _ hQ => hQ⟩
  | cons b rest ih =>
    obtain ⟨hfirst, hothers⟩ := List.forall_mem_cons.1 hact
    by_cases hlive : b.status ≠ .deleting
    · -- What is left for the first one is kept by those after it.
      rw [eachLive_cons_of_live hlive] at h
      obtain ⟨_, c1, hb, hrest⟩ := returns_bind.1 h
      obtain ⟨h1, hQ, hkeep⟩ := hfirst c c1 _ hc hb
      obtain ⟨h', hall, hkeep'⟩ := ih h1 hothers hrest
      exact ⟨h', List.forall_mem_cons.2 ⟨fun _ => hkeep' b hQ, hall⟩,
        fun b' hb' => hkeep' b' (hkeep b' hb')⟩
    · rw [eachLive_cons_of_deleting hlive] at h
      obtain ⟨h', hall, hkeep⟩ := ih hc hothers h
      exact ⟨h', List.forall_mem_cons.2 ⟨fun hself => absurd hself hlive, hall⟩, hkeep⟩

/-! ## Rules -/

/-- In the end the frontend of every live load balancer has the rule of the member as it is desired,
and there are as many load balancers, backends and frontends as before. -/
theorem ensureRules_leaves (hc : c.Sound) (hzones : ∀ b ∈ bs, b.zone ∈ m.scope.site.zones)
    (h : (m.ensureRules bs addresses deletion).Returns c u c') :
    c' = { c with rules := c'.rules, nextId := c'.nextId } ∧
      ∀ b ∈ bs, b.status ≠ .deleting → ∀ f, HasFrontend c b.id f →
        Access.HasRule (Access.rulesOf c' f.id) m.ruleName addresses := by
  let I (v : Cloud) : Prop := v.Sound ∧ v = { c with rules := v.rules, nextId := v.nextId }
  let Q (b : LoadBalancer) (v : Cloud) : Prop := ∀ f, HasFrontend c b.id f →
    Access.HasRule (Access.rulesOf v f.id) m.ruleName addresses
  have hact : ∀ b ∈ bs, ∀ v v' u, I v → (m.ensureRule addresses deletion b).Returns v u v' →
      I v' ∧ Q b v' ∧ ∀ b', Q b' v → Q b' v' := by
    rintro b hb v v' u ⟨hsound, hframe⟩ hreturns
    have hsame : ∀ f, HasFrontend c b.id f → HasFrontend v b.id f := fun f hf =>
      hf.congr (by rw [hframe])
    obtain ⟨found, v1, hfind, hrest⟩ := returns_bind.1 hreturns
    obtain rfl := findFrontend_readOnly.returns_eq hfind
    cases found with
    | none =>
      obtain ⟨_, rfl⟩ := returns_done.1 hrest
      refine ⟨⟨hsound, hframe⟩, fun f hf => ?_, fun _ hQ => hQ⟩
      cases (findFrontend_handled (hzones b hb) (hsame f hf) hfind).1
    | some g =>
      dsimp only at hrest
      have hrules := Access.changes_rules Access.ensureRule_orderly hrest
      obtain ⟨_, hhas, _⟩ := Access.ensureRule_spec hsound hrest
      refine ⟨⟨hsound.returns hrest, ?_⟩, fun f hf => ?_, fun b' hQ f hf => ?_⟩
      · rw [hrules, hframe]
      · obtain ⟨hself, _⟩ := findFrontend_handled (hzones b hb) (hsame f hf) hfind
        cases hself
        exact hhas
      -- The rules of another frontend are left alone.
      · by_cases hid : f.id = g.id
        · rw [hid]
          exact hhas
        · rw [Access.ensureRule_elsewhere hsound hrest hid]
          exact hQ f hf
  obtain ⟨⟨_, hframe⟩, hall, _⟩ := eachLive_leaves (I := I) (Q := Q) ⟨hc, rfl⟩ hact h
  exact ⟨hframe, hall⟩

/-! ## Pools -/

/-- Putting a node into pools or taking it out changes nothing but backends. -/
theorem ensureServers_frame {site : Site} (hc : c.Sound)
    (h : (eachLive (ensureServer site node deletion) bs).Returns c u c') :
    c' = { c with backends := c'.backends } := by
  let I (v : Cloud) : Prop := v.Sound ∧ v = { c with backends := v.backends }
  refine (eachLive_leaves (I := I) (Q := fun _ _ => True) ⟨hc, rfl⟩ ?_ h).1.2
  rintro b hb v v' u ⟨hsound, hframe⟩ hreturns
  obtain ⟨k, _, hv'⟩ := ensureServer_effect hsound hreturns
  refine ⟨⟨hsound.returns hreturns, ?_⟩, trivial, fun _ _ => trivial⟩
  rw [hv', hframe]

/-- A removal finds a backend of every live load balancer and takes the node out of its pool, where
pools hold no server twice. -/
theorem ensureServers_removes {site : Site} (hc : c.Sound)
    (hnodup : ∀ b ∈ bs, ∀ k, HasBackend c b.id k → k.pool.Nodup)
    (h : (eachLive (ensureServer site node true) bs).Returns c u c') :
    ∀ b ∈ bs, b.status ≠ .deleting →
      (∃ k, HasBackend c b.id k) ∧ ∃ k, HasBackend c' b.id k ∧ node ∉ k.pool := by
  -- While the walk goes on, pools have each server once; where it has been, the node is gone.
  let I (v : Cloud) : Prop := v.Sound ∧ ∀ b ∈ bs, ∀ k, HasBackend v b.id k →
    k.pool.Nodup ∧ ∃ k, HasBackend c b.id k
  let Q (b : LoadBalancer) (v : Cloud) : Prop :=
    (∃ k, HasBackend c b.id k) ∧ ∃ k, HasBackend v b.id k ∧ node ∉ k.pool
  refine (eachLive_leaves (I := I) (Q := Q)
    ⟨hc, fun b hb k hk => ⟨hnodup b hb k hk, k, hk⟩⟩ ?_ h).2.1
  rintro b hb v v' u ⟨hsound, hpools⟩ hreturns
  obtain ⟨k, hk, hv'⟩ := ensureServer_effect hsound hreturns
  have hsound' := hsound.returns hreturns
  rw [hv'] at hsound' ⊢
  refine ⟨⟨hsound', fun b' hb' k' hk' => ?_⟩, ?_, ?_⟩
  · -- Pools stay without repetitions.
    obtain ⟨k0, hk0, rfl⟩ := hk'.of_changePool
    obtain ⟨hold, hbefore⟩ := hpools b' hb' k0 hk0
    refine ⟨?_, hbefore⟩
    split
    · exact hold.erase node
    · exact hold
  · -- The node goes from this pool, where it was once at most.
    obtain ⟨hold, hbefore⟩ := hpools b hb k hk
    have hchanged := hk.changePool k.id (enlisted node true)
    rw [if_pos rfl] at hchanged
    exact ⟨hbefore, _, hchanged, hold.not_mem_erase⟩
  · -- It does not come back where it has gone.
    rintro b' ⟨hbefore, k0, hk0, hnot⟩
    refine ⟨hbefore, _, hk0.changePool k.id (enlisted node true), ?_⟩
    split
    · exact fun hmem => hnot (List.mem_of_mem_erase hmem)
    · exact hnot

/-! ## Whole programs -/

/-- A registration leaves the rule of the member on every live load balancer with a frontend. -/
theorem reconcile_leaves (hc : c.Sound) (h : (m.reconcile node addresses).Returns c u c') :
    ∀ b ∈ c'.balancers, InTopology m.scope b → b.status ≠ .deleting →
      ∀ f, HasFrontend c' b.id f → Access.HasRule (Access.rulesOf c' f.id) m.ruleName addresses := by
  obtain ⟨bs, c1, hfind, hrest⟩ := returns_bind.1 h
  obtain ⟨rfl, hbs, hzones⟩ := findBalancers_spec hc hfind
  obtain ⟨_, c2, hservers, hrules⟩ := returns_bind.1 hrest
  have hframe := ensureServers_frame hc hservers
  obtain ⟨hframe', hall⟩ := ensureRules_leaves (hc.returns hservers) hzones hrules
  intro b hb htopology hlive f hf
  have hbalancers : c'.balancers = c1.balancers := by rw [hframe', hframe]
  have hfrontends : c'.frontends = c2.frontends := by rw [hframe']
  exact hall b ((hbs b).2 ⟨hbalancers ▸ hb, htopology⟩) hlive f (hf.congr hfrontends.symm)

/-- No server is twice in the pool of a load balancer of the cluster. -/
def PoolsOnce (s : Scope) (c : Cloud) : Prop :=
  ∀ b ∈ c.balancers, InTopology s b → ∀ k, HasBackend c b.id k → k.pool.Nodup

/-- A removal that returns has found the cloud without a primary and left it as it was, or it leaves
no rule of the member on the frontend of a live load balancer, and the node in the pool of none. -/
theorem delete_leaves (hc : c.Sound) (h : (m.delete node).Returns c u c') :
    ((∀ b ∈ c.balancers, ¬IsPrimary m.scope b) ∧ c' = c) ∨
      (∃ q, HasPrimary m.scope q c) ∧
        c' = { c with backends := c'.backends, rules := c'.rules, nextId := c'.nextId } ∧
        ∀ b ∈ c.balancers, InTopology m.scope b → b.status ≠ .deleting →
          (∀ f, HasFrontend c b.id f → (Access.rulesOf c' f.id).filter (·.name = m.ruleName) = []) ∧
          (PoolsOnce m.scope c →
            (∃ k, HasBackend c b.id k) ∧ ∃ k, HasBackend c' b.id k ∧ node ∉ k.pool) := by
  obtain ⟨found, c1, hfind, hrest⟩ := returns_bind.1 h
  obtain ⟨husable, rfl, hfound⟩ := (orNone_findBalancers_returns hc).1 hfind
  cases found with
  | none =>
    obtain ⟨_, rfl⟩ := returns_done.1 hrest
    exact .inl ⟨hfound, rfl⟩
  | some bs =>
    obtain ⟨_, hbs, hzones⟩ := findBalancers_spec hc (returns_orNone_some.1 hfind)
    obtain ⟨q, hq, _⟩ := hfound
    obtain ⟨_, c2, hrules, hservers⟩ := returns_bind.1 hrest
    obtain ⟨hframe, hall⟩ := ensureRules_leaves hc hzones hrules
    have hc2 := hc.returns hrules
    have hframe' := ensureServers_frame hc2 hservers
    refine .inr ⟨⟨q, hq⟩, by rw [hframe', hframe], fun b hb htopology hlive => ⟨fun f hf => ?_,
      fun honce => ?_⟩⟩
    · -- The rules go first, and the servers leave them as they are.
      have hrules' : c'.rules = c2.rules := by rw [hframe']
      have hhas := hall b ((hbs b).2 ⟨hb, htopology⟩) hlive f hf
      rw [Access.HasRule, if_pos rfl] at hhas
      unfold Access.rulesOf at hhas ⊢
      rwa [hrules']
    · -- The servers go from the backends that there were at the start.
      have hbackends : c2.backends = c1.backends := by rw [hframe]
      obtain ⟨⟨k, hk⟩, hgone⟩ := ensureServers_removes hc2 (fun b' hb' k hk => by
        obtain ⟨hmem, htopology'⟩ := (hbs b').1 hb'
        exact honce b' hmem htopology' k (hk.congr hbackends.symm)) hservers b
        ((hbs b).2 ⟨hb, htopology⟩) hlive
      exact ⟨⟨k, hk.congr hbackends.symm⟩, hgone⟩

end Member

end ControlPlane
