import ControlPlane.Proofs.Topology.Removal

/-!
# Members that come and go

A member writes to the pool of every load balancer of its cluster that is not being deleted, and to
the rules under its name on the frontend of each (`Effect`). It can register exactly where all of
these have a backend and a frontend and no frontend has several rules under the name: what returns
has found that (`reconcile_effect`), and where it is so a registration and a removal return
(`Registrable.returns`). What members write leaves it so (`Effect.registrable_iff`).

From this follow the three properties of `reconcile_registers`. The member is everywhere and nothing
else has changed. A removal takes it away without a trace if it is new. And members that differ in
their names and their nodes may register in either order, since neither looks at what the other has
written.
-/

namespace ControlPlane

open Program hiding ofExcept

namespace Member

open ControlPlane.Topology (HasBackend HasFrontend HasPrimary InTopology IsPrimary ZoneUsable
  backendName)

variable {m : Member} {c c1 c' : Cloud} {b : LoadBalancer} {bs : List LoadBalancer} {site : Site}
  {node : String} {deletion : Bool} {addresses : List String} {u : Unit} {ids : List String}

/-! ## Pools -/

/-- Putting a node into a pool twice is the same as once. -/
theorem enlisted_false_enlisted_false (node : String) (pool : List String) :
    enlisted node false (enlisted node false pool) = enlisted node false pool := by
  unfold enlisted
  simp only [Bool.false_eq_true, if_false]
  by_cases hmem : pool.contains node = true
  · rw [if_pos hmem, if_pos hmem]
  · rw [if_neg hmem, if_pos (by simp)]

/-- Taking a node out of a pool twice is the same as once, where it is in the pool at most once. -/
theorem enlisted_true_enlisted_true {pool : List String} (h : pool.count node ≤ 1) :
    enlisted node true (enlisted node true pool) = enlisted node true pool := by
  unfold enlisted
  simp only [if_true]
  refine List.erase_of_not_mem (List.count_eq_zero.1 ?_)
  rw [List.count_erase_self]
  omega

/-- A node that was in no pool leaves none behind. -/
theorem enlisted_true_enlisted_false {pool : List String} (h : node ∉ pool) :
    enlisted node true (enlisted node false pool) = pool := by
  have hfree : ¬pool.contains node = true := by simpa using h
  unfold enlisted
  rw [if_pos rfl, if_neg Bool.false_ne_true, if_neg hfree, List.erase_append_right _ h,
    List.erase_cons_head, List.append_nil]

/-- After a registration the node is in the pool, and once if no server was there twice. -/
theorem count_enlisted_false {pool : List String} (h : pool.Nodup) :
    (enlisted node false pool).count node = 1 := by
  unfold enlisted
  rw [if_neg Bool.false_ne_true]
  split
  · next hmem => exact List.count_eq_one_of_mem h (by simpa using hmem)
  · next hmem =>
    rw [List.count_append, List.count_eq_zero.2 (by simpa using hmem), List.count_singleton_self]

/-- It makes no difference for what is in a pool which of two nodes comes first. -/
theorem enlisted_comm_perm {node' : String} (hne : node' ≠ node) (pool : List String) :
    (enlisted node' false (enlisted node false pool)).Perm
      (enlisted node false (enlisted node' false pool)) := by
  -- Whether one node is in the pool does not depend on the other.
  have hlater : ∀ {x y : String}, x ≠ y → ((pool ++ [y]).contains x) = pool.contains x := by
    intro x y hxy
    simp [hxy]
  unfold enlisted
  simp only [Bool.false_eq_true, if_false]
  by_cases h : pool.contains node = true
  · by_cases h' : pool.contains node' = true
    · rw [if_pos h, if_pos h', if_pos h]
    · rw [if_pos h, if_neg h', if_pos ((hlater hne.symm).trans h)]
  · by_cases h' : pool.contains node' = true
    · rw [if_neg h, if_pos h', if_pos ((hlater hne).trans h'), if_neg h]
    · rw [if_neg h, if_neg h', if_neg (by rwa [hlater hne]), if_neg (by rwa [hlater hne.symm])]
      rw [List.append_assoc, List.append_assoc]
      exact (List.Perm.swap node' node []).append_left pool

/-- A backend gets a node, or loses it, if it serves one of some load balancers. -/
def enlistAt (node : String) (deletion : Bool) (ids : List String) (k : Backend) : Backend :=
  if k.name = backendName ∧ k.balancerId ∈ ids then { k with pool := enlisted node deletion k.pool }
  else k

/-- A backend keeps its name and its load balancer. -/
theorem enlistAt_head (k : Backend) :
    (enlistAt node deletion ids k).name = k.name ∧
      (enlistAt node deletion ids k).balancerId = k.balancerId := by
  unfold enlistAt
  split <;> exact ⟨rfl, rfl⟩

/-- Only which load balancers are meant counts, and not in which order. -/
theorem enlistAt_congr {ids' : List String} (h : ∀ id, id ∈ ids ↔ id ∈ ids') :
    enlistAt node deletion ids = enlistAt node deletion ids' := by
  funext k
  unfold enlistAt
  simp only [h]

/-- The backends of a load balancer are where they were. -/
theorem filter_enlisted (id : String) :
    (c.backends.map (enlistAt node deletion ids)).filter
        (fun k => decide (k.name = backendName) && decide (k.balancerId = id)) =
      (c.backends.filter fun k => decide (k.name = backendName) && decide (k.balancerId = id)).map
        (enlistAt node deletion ids) := by
  rw [List.filter_map]
  refine congrArg _ (List.filter_congr fun k _ => ?_)
  obtain ⟨hname, hbalancer⟩ := @enlistAt_head node deletion ids k
  rw [Function.comp_apply, hname, hbalancer]

/-- The backend of a load balancer is still its backend with another pool. -/
theorem hasBackend_enlisted {id : String} {k : Backend} (h : HasBackend c id k)
    (hc' : c'.backends = c.backends.map (enlistAt node deletion ids)) :
    HasBackend c' id (enlistAt node deletion ids k) := by
  unfold HasBackend at h ⊢
  rw [hc', filter_enlisted, h, List.map_singleton]

/-- What is its backend then was its backend before. -/
theorem exists_hasBackend_of_enlisted {id : String} {k : Backend} (h : HasBackend c' id k)
    (hc' : c'.backends = c.backends.map (enlistAt node deletion ids)) :
    ∃ k0, HasBackend c id k0 ∧ k = enlistAt node deletion ids k0 := by
  unfold HasBackend at h
  rw [hc', filter_enlisted] at h
  obtain ⟨k0, hk0, heq⟩ := List.map_eq_singleton_iff.1 h
  exact ⟨k0, hk0, heq.symm⟩

/-- The backend that is found is the only one of its name under the load balancer. -/
theorem eq_of_hasBackend {id : String} {k k' : Backend} (h : HasBackend c id k)
    (hk' : k' ∈ c.backends) : k' = k ↔ k'.name = backendName ∧ k'.balancerId = id := by
  have hmem : k' ∈ c.backends.filter (fun k => decide (k.name = backendName) &&
      decide (k.balancerId = id)) ↔ k' = k := by
    rw [show c.backends.filter _ = [k] from h, List.mem_singleton]
  rw [← hmem, List.mem_filter, Bool.and_eq_true, decide_eq_true_eq, decide_eq_true_eq]
  exact and_iff_right hk'

/-- Writing to the backend of one load balancer. -/
theorem ensureServer_enlists (hc : c.Sound)
    (h : (ensureServer site node deletion b).Returns c u c') :
    (∃ k, HasBackend c b.id k) ∧
      c' = { c with backends := c.backends.map (enlistAt node deletion [b.id]) } := by
  obtain ⟨k, hk, hc'⟩ := ensureServer_effect hc h
  refine ⟨⟨k, hk⟩, ?_⟩
  rw [hc']
  refine congrArg (fun backends => { c with backends }) (List.map_congr_left fun k' hk' => ?_)
  have hiff : k'.id = k.id ↔ k'.name = backendName ∧ k'.balancerId ∈ [b.id] := by
    rw [List.mem_singleton, ← eq_of_hasBackend hk hk']
    exact ⟨hc.backends.inj hk' hk.mem, congrArg Backend.id⟩
  unfold enlistAt
  simp only [hiff]

/-- Backends of some load balancers are written to and then those of one more, which may be among
them. -/
theorem enlistAt_cons (id : String) {k : Backend}
    (hagain : k.name = backendName → k.balancerId = id → id ∈ ids →
      enlisted node deletion (enlisted node deletion k.pool) = enlisted node deletion k.pool) :
    enlistAt node deletion ids (enlistAt node deletion [id] k) =
      enlistAt node deletion (id :: ids) k := by
  unfold enlistAt
  simp only [List.mem_cons, List.not_mem_nil, or_false]
  by_cases hname : k.name = backendName
  · by_cases hid : k.balancerId = id
    · simp only [hname, hid, and_true, true_or, if_true, true_and]
      split
      · next hmem => rw [hagain hname hid hmem]
      · rfl
    · simp only [hid, and_false, if_false, false_or]
  · simp only [hname, false_and, if_false]

/-- The ids of load balancers that are not being deleted. -/
def liveIds (bs : List LoadBalancer) : List String :=
  (bs.filter (·.status ≠ .deleting)).map (·.id)

/-- A load balancer that is not being deleted is live. -/
theorem liveIds_cons_of_live (h : b.status ≠ .deleting) : liveIds (b :: bs) = b.id :: liveIds bs := by
  unfold liveIds
  rw [List.filter_cons, if_pos (decide_eq_true h), List.map_cons]

/-- One that is being deleted is not. -/
theorem liveIds_cons_of_deleting (h : ¬b.status ≠ .deleting) : liveIds (b :: bs) = liveIds bs := by
  unfold liveIds
  rw [List.filter_cons, if_neg (mt of_decide_eq_true h)]

/-- Where it makes no difference to write twice, it makes none to write three times. -/
theorem enlisted_enlistAt {k : Backend}
    (hagain : enlisted node deletion (enlisted node deletion k.pool) = enlisted node deletion k.pool) :
    enlisted node deletion (enlisted node deletion (enlistAt node deletion ids k).pool) =
      enlisted node deletion (enlistAt node deletion ids k).pool := by
  unfold enlistAt
  split
  · dsimp only
    rw [hagain, hagain]
  · exact hagain

/-- Writing to the backends of load balancers, where it makes no difference if that is done again.
-/
theorem ensureServers_enlists (hc : c.Sound)
    (hagain : ∀ k ∈ c.backends, k.name = backendName → k.balancerId ∈ liveIds bs →
      enlisted node deletion (enlisted node deletion k.pool) = enlisted node deletion k.pool)
    (h : (eachLive (ensureServer site node deletion) bs).Returns c u c') :
    (∀ b ∈ bs, b.status ≠ .deleting → ∃ k, HasBackend c b.id k) ∧
      c' = { c with backends := c.backends.map (enlistAt node deletion (liveIds bs)) } := by
  induction bs generalizing c with
  | nil =>
    obtain ⟨_, rfl⟩ := returns_done.1 h
    have hself : c'.backends.map (enlistAt node deletion []) = c'.backends := by
      refine (List.map_congr_left fun k _ => ?_).trans (List.map_id _)
      exact if_neg fun hat => List.not_mem_nil hat.2
    exact ⟨List.forall_mem_nil _, by rw [liveIds, List.filter_nil, List.map_nil, hself]⟩
  | cons b rest ih =>
    by_cases hlive : b.status ≠ .deleting
    · rw [eachLive_cons_of_live hlive] at h
      rw [liveIds_cons_of_live hlive] at hagain ⊢
      obtain ⟨_, c1, hb, hrest⟩ := returns_bind.1 h
      obtain ⟨hbackend, hc1⟩ := ensureServer_enlists hc hb
      have hbackends : c1.backends = c.backends.map (enlistAt node deletion [b.id]) := by rw [hc1]
      -- After the first load balancer, doing it again to the others still changes nothing more.
      have hagain1 : ∀ k ∈ c1.backends, k.name = backendName → k.balancerId ∈ liveIds rest →
          enlisted node deletion (enlisted node deletion k.pool) = enlisted node deletion k.pool := by
        intro k hk hname hid
        rw [hbackends] at hk
        obtain ⟨k0, hk0, rfl⟩ := List.mem_map.1 hk
        obtain ⟨hname0, hbalancer0⟩ := @enlistAt_head node deletion [b.id] k0
        rw [hname0] at hname
        rw [hbalancer0] at hid
        exact enlisted_enlistAt (hagain k0 hk0 hname (List.mem_cons_of_mem _ hid))
      obtain ⟨hall, hc'⟩ := ih (hc.returns hb) hagain1 hrest
      refine ⟨List.forall_mem_cons.2 ⟨fun _ => hbackend, fun b' hb' hlive' => ?_⟩, ?_⟩
      · obtain ⟨k, hk⟩ := hall b' hb' hlive'
        obtain ⟨k0, hk0, _⟩ := exists_hasBackend_of_enlisted hk hbackends
        exact ⟨k0, hk0⟩
      · rw [hc', hbackends, hc1]
        -- One more load balancer on the list is one more pass over the backends.
        refine congrArg (fun backends => { c with backends }) ?_
        rw [List.map_map]
        refine List.map_congr_left fun k hk => enlistAt_cons b.id fun hname hid hmem => ?_
        exact hagain k hk hname (hid ▸ List.mem_cons_self)
    · rw [eachLive_cons_of_deleting hlive] at h
      rw [liveIds_cons_of_deleting hlive] at hagain ⊢
      obtain ⟨hall, hc'⟩ := ih hc hagain h
      exact ⟨List.forall_mem_cons.2 ⟨fun hself => absurd hself hlive, hall⟩, hc'⟩

/-! ## Rules -/

/-- The ids of the frontends of load balancers that are not being deleted. -/
def IsFront (c : Cloud) (bs : List LoadBalancer) (id : String) : Prop :=
  ∃ b ∈ bs, b.status ≠ .deleting ∧ ∃ f, HasFrontend c b.id f ∧ f.id = id

/-- Ensuring the member's rule at a load balancer. -/
theorem ensureRule_renews (hc : c.Sound) (hzone : b.zone ∈ m.scope.site.zones)
    (h : (m.ensureRule addresses deletion b).Returns c u c') :
    Access.Renews (m.desiredRule addresses) (fun id => ∃ f, HasFrontend c b.id f ∧ f.id = id) c c' ∧
      (∀ f, HasFrontend c b.id f → f.zone ∈ m.scope.site.zones) ∧
      (deletion = false → ∃ f, HasFrontend c b.id f) := by
  obtain ⟨found, c1, hfind, hrest⟩ := returns_bind.1 h
  obtain rfl := findFrontend_readOnly.returns_eq hfind
  cases found with
  | none =>
    obtain ⟨_, rfl⟩ := returns_done.1 hrest
    have hnone : ∀ f, ¬HasFrontend c' b.id f := by
      intro f hf
      cases (findFrontend_handled hzone hf hfind).1
    refine ⟨(Access.Renews.none _ _).congr fun id => ?_, fun f hf => (hnone f hf).elim, ?_⟩
    · exact iff_false_intro fun ⟨f, hf, _⟩ => hnone f hf
    -- Without a frontend there is nothing to do in a deletion alone.
    · rintro rfl
      unfold Program.Returns at hfind
      rw [exec_handle] at hfind
      split at hfind
      · next hexec =>
        rw [hfind] at hexec
        obtain ⟨_, _, heq⟩ := returns_map.1 hexec
        cases heq
      · cases hfind
  | some f =>
    have hf := hasFrontend_of_handled hfind f rfl
    have hself : ∀ f', HasFrontend c1 b.id f' → f' = f := fun f' hf' => hf'.unique hf
    refine ⟨(Access.ensureRule_renews hc hrest).congr fun id => ?_, fun f' hf' => ?_,
      fun _ => ⟨f, hf⟩⟩
    · constructor
      · rintro ⟨f', hf', rfl⟩
        rw [hself f' hf']
      · rintro rfl
        exact ⟨f, hf, rfl⟩
    · rw [hself f' hf']
      exact (Access.ensureRule_cases hrest).1

/-- Ensuring the member's rule at load balancers, any of which may be met twice. -/
theorem ensureRules_renews (hc : c.Sound) (hzones : ∀ b ∈ bs, b.zone ∈ m.scope.site.zones)
    (h : (m.ensureRules bs addresses deletion).Returns c u c') :
    Access.Renews (m.desiredRule addresses) (IsFront c bs) c c' ∧
      ∀ b ∈ bs, b.status ≠ .deleting →
        (∀ f, HasFrontend c b.id f → f.zone ∈ m.scope.site.zones) ∧
        (deletion = false → ∃ f, HasFrontend c b.id f) := by
  unfold ensureRules at h
  induction bs generalizing c with
  | nil =>
    obtain ⟨_, rfl⟩ := returns_done.1 h
    refine ⟨(Access.Renews.none _ _).congr fun id => iff_false_intro ?_, List.forall_mem_nil _⟩
    rintro ⟨_, hb, _⟩
    cases hb
  | cons b rest ih =>
    obtain ⟨hzone, hothers⟩ := List.forall_mem_cons.1 hzones
    by_cases hlive : b.status ≠ .deleting
    · rw [eachLive_cons_of_live hlive] at h
      obtain ⟨_, c1, hb, hrest⟩ := returns_bind.1 h
      obtain ⟨hrenews, hfronts⟩ := ensureRule_renews hc hzone hb
      obtain ⟨hrenews', hall⟩ := ih (hc.returns hb) hothers hrest
      have hframe := Access.changes_rules ensureRule_isRule hb
      -- Rules are all that changes, so that frontends are found as before.
      have hsame : ∀ id f, HasFrontend c1 id f ↔ HasFrontend c id f := fun id f =>
        ⟨fun hf => hf.congr (by rw [hframe]), fun hf => hf.congr (by rw [hframe])⟩
      refine ⟨(hrenews.comp hrenews').congr fun id => ?_, List.forall_mem_cons.2
        ⟨fun _ => hfronts, fun b' hb' hlive' => ?_⟩⟩
      · unfold IsFront
        simp only [hsame, List.mem_cons, or_and_right, exists_or, exists_eq_left]
        exact or_congr (and_iff_right hlive) Iff.rfl
      · have hb1 := hall b' hb' hlive'
        simp only [hsame] at hb1
        exact hb1
    · rw [eachLive_cons_of_deleting hlive] at h
      obtain ⟨hrenews, hall⟩ := ih hc hothers h
      refine ⟨hrenews.congr fun id => ?_,
        List.forall_mem_cons.2 ⟨fun hself => absurd hself hlive, hall⟩⟩
      unfold IsFront
      simp only [List.mem_cons, or_and_right, exists_or, exists_eq_left]
      exact or_iff_right fun hself => hlive hself.1

/-- The member's rule can be ensured at load balancers with frontends of which none has several
rules under its name. -/
theorem ensureRules_returns (addresses : List String) (deletion : Bool) (hc : c.Sound)
    (hzones : ∀ b ∈ bs, b.zone ∈ m.scope.site.zones)
    (hfronts : ∀ b ∈ bs, b.status ≠ .deleting → ∃ f, HasFrontend c b.id f ∧
      f.zone ∈ m.scope.site.zones ∧ (Access.specsOf c f.id m.ruleName).length ≤ 1) :
    ∃ c', (m.ensureRules bs addresses deletion).Returns c () c' := by
  -- While the walk goes on, every frontend has at most one rule of the name.
  obtain ⟨c', hreturns, _⟩ := eachLive_returns (m.ensureRule addresses deletion)
    (I := fun v => v.Sound ∧ ∀ b ∈ bs, b.status ≠ .deleting → ∃ f, HasFrontend v b.id f ∧
      f.zone ∈ m.scope.site.zones ∧ (Access.specsOf v f.id m.ruleName).length ≤ 1)
    ⟨hc, hfronts⟩ fun b hb hlive v hv => by
      obtain ⟨f, hf, hzone, hsingle⟩ := hv.2 b hb hlive
      obtain ⟨v', hreturns⟩ := ensureRule_returns addresses deletion (hzones b hb) hf hzone hsingle
      have hframe := Access.changes_rules ensureRule_isRule hreturns
      obtain ⟨hrenews, _⟩ := ensureRule_renews hv.1 (hzones b hb) hreturns
      refine ⟨v', hreturns, hv.1.returns hreturns, fun b' hb' hlive' => ?_⟩
      obtain ⟨f', hf', hzone', hsingle'⟩ := hv.2 b' hb' hlive'
      exact ⟨f', hf'.congr (by rw [hframe]), hzone', (hrenews.length_specsOf_le_iff _ _).2 hsingle'⟩
  exact ⟨c', hreturns⟩

/-! ## All load balancers of a cluster -/

/-- A load balancer of the cluster that is not being deleted. -/
def Reached (s : Scope) (c : Cloud) (b : LoadBalancer) : Prop :=
  b ∈ c.balancers ∧ InTopology s b ∧ b.status ≠ .deleting

instance (s : Scope) : DecidablePred (InTopology s) := fun b =>
  inferInstanceAs (Decidable
    ((s.site.region.resolve s.primary.zone = .ok b.zone ∧
        hasTags b.tags (Topology.primaryTags s) = true) ∨
      (b.zone ∈ s.site.zones ∧ hasTags b.tags (Secondary.tags s) = true)))

/-- The ids of the load balancers of a cluster that are not being deleted. -/
def reachedIds (s : Scope) (c : Cloud) : List String :=
  liveIds (c.balancers.filter fun b => InTopology s b)

/-- A frontend of a load balancer of the cluster that is not being deleted. -/
def IsReachedFront (s : Scope) (c : Cloud) (id : String) : Prop :=
  ∃ b, Reached s c b ∧ ∃ f, HasFrontend c b.id f ∧ f.id = id

/-- The live ids are those of the load balancers that are not being deleted. -/
theorem mem_liveIds {id : String} :
    id ∈ liveIds bs ↔ ∃ b ∈ bs, b.status ≠ .deleting ∧ b.id = id := by
  unfold liveIds
  simp only [List.mem_map, List.mem_filter, decide_eq_true_eq, and_assoc]

/-- The reached ids are those of the load balancers that are reached. -/
theorem mem_reachedIds {s : Scope} {id : String} :
    id ∈ reachedIds s c ↔ ∃ b, Reached s c b ∧ b.id = id := by
  unfold reachedIds Reached
  simp only [mem_liveIds, List.mem_filter, decide_eq_true_eq, and_assoc]

/-- What a member has written to a cloud. -/
structure Effect (m : Member) (node : String) (deletion : Bool) (addresses : List String)
    (c c' : Cloud) : Prop where
  frame : c' = { c with
    backends := c.backends.map (enlistAt node deletion (reachedIds m.scope c))
    rules := c'.rules
    nextId := c'.nextId }
  rules : Access.Renews (m.desiredRule addresses) (IsReachedFront m.scope c) c c'

/-- What a registration needs: the zone of the primary is one of the region, there is one primary,
and every load balancer of the cluster that is not being deleted has one backend and one frontend,
and this at most one rule under the member's name. -/
structure Registrable (m : Member) (c : Cloud) : Prop where
  zone : ZoneUsable m.scope
  primary : ∃ q, HasPrimary m.scope q c
  backend : ∀ b, Reached m.scope c b → ∃ k, HasBackend c b.id k
  frontend : ∀ b, Reached m.scope c b → ∃ f, HasFrontend c b.id f ∧
    f.zone ∈ m.scope.site.zones ∧ (Access.specsOf c f.id m.ruleName).length ≤ 1

/-- Pools and rules are written one after the other, in whichever order, and neither looks at what
the other has written. -/
theorem effect_of_writes {c2 : Cloud}
    (hbs : ∀ b, b ∈ bs ↔ b ∈ c.balancers ∧ InTopology m.scope b)
    (hframe : c' = { c with
      backends := c.backends.map (enlistAt node deletion (liveIds bs))
      rules := c'.rules
      nextId := c'.nextId })
    (hrules : Access.Renews (m.desiredRule addresses) (IsFront c bs) c c2)
    (hc2 : c2.rules = c'.rules) : Effect m node deletion addresses c c' := by
  -- The listed ones that are not being deleted are those that a member reaches.
  have hlive : ∀ b, (b ∈ bs ∧ b.status ≠ .deleting) ↔ Reached m.scope c b := by
    intro b
    rw [hbs, and_assoc]
    exact Iff.rfl
  constructor
  case frame =>
    have hids : enlistAt node deletion (reachedIds m.scope c) =
        enlistAt node deletion (liveIds bs) := by
      refine enlistAt_congr fun id => ?_
      simp only [mem_reachedIds, mem_liveIds, ← hlive, and_assoc]
    rw [hids]
    exact hframe
  case rules =>
    refine (hrules.of_rules rfl hc2.symm).congr fun id => ?_
    unfold IsReachedFront IsFront
    simp only [← hlive, and_assoc]

/-- A registration that returns has found what it needs and has written to it. -/
theorem reconcile_effect (hc : c.Sound) (h : (m.reconcile node addresses).Returns c u c') :
    Registrable m c ∧ Effect m node false addresses c c' := by
  obtain ⟨bs, c1, hfind, hrest⟩ := returns_bind.1 h
  obtain ⟨husable, rfl, q, hq, _⟩ :=
    (orNone_findBalancers_returns hc).1 (returns_orNone_some.2 hfind)
  obtain ⟨_, hbs, hzones⟩ := findBalancers_spec hc hfind
  -- Servers come first, and leave frontends and rules as they are.
  obtain ⟨_, c2, hservers, hrules⟩ := returns_bind.1 hrest
  obtain ⟨hbackends, hc2⟩ := ensureServers_enlists hc
    (fun k _ _ _ => enlisted_false_enlisted_false node k.pool) hservers
  obtain ⟨hrenews, hfronts⟩ := ensureRules_renews (hc.returns hservers) hzones hrules
  have hframe := Access.changes_rules (eachLive_orderly fun _ => ensureRule_isRule) hrules
  have hfrontends : ∀ {id f}, HasFrontend c2 id f ↔ HasFrontend c1 id f := fun {id f} =>
    ⟨fun hf => hf.congr (by rw [hc2]), fun hf => hf.congr (by rw [hc2])⟩
  -- So the rules are renewed on the frontends of the start.
  have hrenews1 : Access.Renews (m.desiredRule addresses) (IsFront c1 bs) c1 c' := by
    refine (hrenews.of_rules (by rw [hc2]) rfl).congr fun id => ?_
    unfold IsFront
    simp only [hfrontends]
  refine ⟨⟨husable, ⟨q, hq⟩, fun b hb => ?_, fun b hb => ?_⟩,
    effect_of_writes hbs (by rw [hframe, hc2]) hrenews1 rfl⟩
  · exact hbackends b ((hbs b).2 ⟨hb.1, hb.2.1⟩) hb.2.2
  · have hmem : b ∈ bs := (hbs b).2 ⟨hb.1, hb.2.1⟩
    obtain ⟨hzone, hfront⟩ := hfronts b hmem hb.2.2
    obtain ⟨f, hf2⟩ := hfront rfl
    have hf := hfrontends.1 hf2
    exact ⟨f, hf, hzone f hf2, hrenews1.single f.id ⟨b, hmem, hb.2.2, f, hf, rfl⟩⟩

/-- A removal that returns has written to what a registration needs, if this is there and the node
is in no pool twice. -/
theorem delete_effect (hc : c.Sound) (hprimary : ∃ q, HasPrimary m.scope q c)
    (honce : ∀ k ∈ c.backends, k.name = backendName → k.balancerId ∈ reachedIds m.scope c →
      k.pool.count node ≤ 1)
    (h : (m.delete node).Returns c u c') : Effect m node true [] c c' := by
  obtain ⟨found, c1, hfind, hrest⟩ := returns_bind.1 h
  obtain ⟨_, rfl, hfound⟩ := (orNone_findBalancers_returns hc).1 hfind
  cases found with
  | none =>
    -- There is a primary, and it would have been found.
    obtain ⟨q, hq⟩ := hprimary
    exact (hfound q hq.mem hq.primary).elim
  | some bs =>
    obtain ⟨_, hbs, hzones⟩ := findBalancers_spec hc (returns_orNone_some.1 hfind)
    obtain ⟨_, c2, hrules, hservers⟩ := returns_bind.1 hrest
    obtain ⟨hrenews, _⟩ := ensureRules_renews hc hzones hrules
    have hframe := Access.changes_rules (eachLive_orderly fun _ => ensureRule_isRule) hrules
    have hbackends : c2.backends = c1.backends := by rw [hframe]
    -- A pool has the node once at most, and so removing it again changes nothing.
    have hagain : ∀ k ∈ c2.backends, k.name = backendName → k.balancerId ∈ liveIds bs →
        enlisted node true (enlisted node true k.pool) = enlisted node true k.pool := by
      intro k hk hname hid
      rw [hbackends] at hk
      obtain ⟨b, hb, hlive, hself⟩ := mem_liveIds.1 hid
      obtain ⟨hmem, htopology⟩ := (hbs b).1 hb
      have hreached := mem_reachedIds.2 ⟨b, ⟨hmem, htopology, hlive⟩, hself⟩
      exact enlisted_true_enlisted_true (honce k hk hname hreached)
    obtain ⟨_, hc'⟩ := ensureServers_enlists (hc.returns hrules) hagain hservers
    exact effect_of_writes hbs (by rw [hc', hframe]) hrenews (by rw [hc'])

/-- Nothing more is needed for a registration, nor for a removal. -/
theorem Registrable.returns (h : Registrable m c) (hc : c.Sound) (node : String)
    (addresses : List String) :
    (∃ c', (m.reconcile node addresses).Returns c () c') ∧
      ∃ c', (m.delete node).Returns c () c' := by
  obtain ⟨q, hq⟩ := h.primary
  have hfind : m.findBalancers.orNone.Returns c (some (Secondary.listed m.scope c ++ [q])) c :=
    (orNone_findBalancers_returns hc).2 ⟨h.zone, rfl, q, hq, rfl⟩
  obtain ⟨_, hbs, hzones⟩ := findBalancers_spec hc (returns_orNone_some.1 hfind)
  -- What is found is reached, and has what a registration needs.
  have hbackends : ∀ b ∈ Secondary.listed m.scope c ++ [q], b.status ≠ .deleting →
      ∃ k, HasBackend c b.id k := fun b hb hlive =>
    h.backend b ⟨((hbs b).1 hb).1, ((hbs b).1 hb).2, hlive⟩
  have hfronts : ∀ b ∈ Secondary.listed m.scope c ++ [q], b.status ≠ .deleting →
      ∃ f, HasFrontend c b.id f ∧ f.zone ∈ m.scope.site.zones ∧
        (Access.specsOf c f.id m.ruleName).length ≤ 1 := fun b hb hlive =>
    h.frontend b ⟨((hbs b).1 hb).1, ((hbs b).1 hb).2, hlive⟩
  constructor
  · -- A registration writes servers first, which leaves frontends and rules.
    obtain ⟨c1, hservers⟩ := ensureServers_returns node false hc hzones hbackends
    have hframe := ensureServers_frame hc hservers
    obtain ⟨c', hrules⟩ := ensureRules_returns addresses false (hc.returns hservers) hzones
      fun b hb hlive => by
        obtain ⟨f, hf, hzone, hsingle⟩ := hfronts b hb hlive
        rw [hframe]
        exact ⟨f, hf, hzone, hsingle⟩
    exact ⟨c', returns_bind.2 ⟨_, c, returns_orNone_some.1 hfind,
      returns_bind.2 ⟨(), c1, hservers, hrules⟩⟩⟩
  · -- A removal writes rules first, which leaves backends.
    obtain ⟨c1, hrules⟩ := ensureRules_returns [] true hc hzones hfronts
    have hframe := Access.changes_rules (eachLive_orderly fun _ => ensureRule_isRule) hrules
    obtain ⟨c', hservers⟩ := ensureServers_returns node true (hc.returns hrules) hzones
      fun b hb hlive => by
        obtain ⟨k, hk⟩ := hbackends b hb hlive
        exact ⟨k, hk.congr (by rw [hframe])⟩
    exact ⟨c', returns_bind.2 ⟨_, c, hfind, returns_bind.2 ⟨(), c1, hrules, hservers⟩⟩⟩

namespace Effect

variable {m' : Member} {id : String}

/-- A member writes to no load balancer itself. -/
theorem balancers (h : Effect m node deletion addresses c c') : c'.balancers = c.balancers := by
  rw [h.frame]

/-- A member writes its node to the backends that it reaches, or takes it out of them. -/
theorem backends (h : Effect m node deletion addresses c c') :
    c'.backends = c.backends.map (enlistAt node deletion (reachedIds m.scope c)) := by
  rw [h.frame]

/-- Frontends stay where they are. -/
theorem hasFrontend_iff (h : Effect m node deletion addresses c c') {f : Frontend} :
    HasFrontend c' id f ↔ HasFrontend c id f :=
  ⟨fun hf => hf.congr (by rw [h.frame]), fun hf => hf.congr (by rw [h.frame])⟩

/-- A load balancer has one backend afterwards if it had one before. -/
theorem exists_hasBackend_iff (h : Effect m node deletion addresses c c') :
    (∃ k, HasBackend c' id k) ↔ ∃ k, HasBackend c id k := by
  constructor
  · rintro ⟨k, hk⟩
    obtain ⟨k0, hk0, _⟩ := exists_hasBackend_of_enlisted hk h.backends
    exact ⟨k0, hk0⟩
  · exact fun ⟨k, hk⟩ => ⟨_, hasBackend_enlisted hk h.backends⟩

/-- The same load balancers are reached before and after a member's run. -/
theorem reached_iff (h : Effect m node deletion addresses c c') (s : Scope) :
    Reached s c' b ↔ Reached s c b := by
  unfold Reached
  rw [h.balancers]

/-- The ids of those that are reached are the same before and after a member's run. -/
theorem reachedIds_eq (h : Effect m node deletion addresses c c') (s : Scope) :
    reachedIds s c' = reachedIds s c := by
  unfold reachedIds
  rw [h.balancers]

/-- The frontends of those that are reached are the same before and after a member's run. -/
theorem isReachedFront_iff (h : Effect m node deletion addresses c c') (s : Scope) :
    IsReachedFront s c' id ↔ IsReachedFront s c id := by
  unfold IsReachedFront
  simp only [h.reached_iff s, h.hasFrontend_iff]

/-- What any member needs for a registration is not touched by what members write. -/
theorem registrable_iff (h : Effect m' node deletion addresses c c') :
    Registrable m c' ↔ Registrable m c := by
  -- Load balancers, backends and frontends stay, and the number of rules of a name as well.
  have hprimary : (∃ q, HasPrimary m.scope q c') ↔ ∃ q, HasPrimary m.scope q c := by
    refine exists_congr fun q => ⟨fun hq => ?_, fun hq => ?_⟩
    · exact ⟨h.balancers ▸ hq.mem, hq.primary, h.balancers ▸ hq.unique⟩
    · exact ⟨h.balancers.symm ▸ hq.mem, hq.primary, h.balancers.symm ▸ hq.unique⟩
  constructor <;> rintro ⟨hzone, hq, hbackend, hfrontend⟩
  · refine ⟨hzone, hprimary.1 hq, fun b hb => ?_, fun b hb => ?_⟩
    · exact h.exists_hasBackend_iff.1 (hbackend b ((h.reached_iff m.scope).2 hb))
    · obtain ⟨f, hf, hfzone, hsingle⟩ := hfrontend b ((h.reached_iff m.scope).2 hb)
      exact ⟨f, h.hasFrontend_iff.1 hf, hfzone, (h.rules.length_specsOf_le_iff _ _).1 hsingle⟩
  · refine ⟨hzone, hprimary.2 hq, fun b hb => ?_, fun b hb => ?_⟩
    · exact h.exists_hasBackend_iff.2 (hbackend b ((h.reached_iff m.scope).1 hb))
    · obtain ⟨f, hf, hfzone, hsingle⟩ := hfrontend b ((h.reached_iff m.scope).1 hb)
      exact ⟨f, h.hasFrontend_iff.2 hf, hfzone, (h.rules.length_specsOf_le_iff _ _).2 hsingle⟩

end Effect

/-! ## Everywhere and nothing else -/

/-- The member is registered in `c'` and this is the same as `c` otherwise. The pool of every load
balancer of the cluster that is not being deleted has the node once and its other servers in their
order; of its rules, those under the member's name are replaced by one with the addresses, or by
none if there are no addresses. -/
structure Registered (m : Member) (node : String) (addresses : List String) (c c' : Cloud) :
    Prop where
  pools : ∀ b, Reached m.scope c b → ∃ k, HasBackend c b.id k ∧
    HasBackend c' b.id { k with pool := enlisted node false k.pool } ∧
    (enlisted node false k.pool).count node = 1
  rules : ∀ b, Reached m.scope c b → ∃ f, HasFrontend c b.id f ∧
    Access.HasRule (Access.rulesOf c' f.id) m.ruleName addresses ∧
    (Access.rulesOf c' f.id).filter (·.name ≠ m.ruleName) =
      (Access.rulesOf c f.id).filter (·.name ≠ m.ruleName)
  otherRules : ∀ id, ¬IsReachedFront m.scope c id → Access.rulesOf c' id = Access.rulesOf c id
  frame : c' = { c with
    backends := c.backends.map (enlistAt node false (reachedIds m.scope c))
    rules := c'.rules
    nextId := c'.nextId }

/-- A backend that is found is changed if its load balancer is one of those that are written to. -/
theorem enlistAt_of_hasBackend {id : String} {k : Backend} (h : HasBackend c id k) (hid : id ∈ ids) :
    enlistAt node deletion ids k = { k with pool := enlisted node deletion k.pool } := by
  obtain ⟨hname, hbalancer⟩ := (eq_of_hasBackend h h.mem).1 rfl
  exact if_pos ⟨hname, hbalancer ▸ hid⟩

/-- If everything that a registration needs is there, and pools have each server once, what a member
has written is its registration. -/
theorem Effect.registered (h : Effect m node false addresses c c') (hneeds : Registrable m c)
    (honce : PoolsOnce m.scope c) : Registered m node addresses c c' := by
  constructor
  case pools =>
    intro b hb
    obtain ⟨k, hk⟩ := hneeds.backend b hb
    have hk' := hasBackend_enlisted hk h.backends
    rw [enlistAt_of_hasBackend hk (mem_reachedIds.2 ⟨b, hb, rfl⟩)] at hk'
    exact ⟨k, hk, hk', count_enlisted_false (honce b hb.1 hb.2.1 k hk)⟩
  case rules =>
    intro b hb
    obtain ⟨f, hf, _⟩ := hneeds.frontend b hb
    exact ⟨f, hf, h.rules.hasRule ⟨b, hb, f, hf, rfl⟩, h.rules.others f.id⟩
  case otherRules => exact fun id hid => h.rules.elsewhere id hid
  case frame => exact h.frame

/-! ## Taken away without a trace -/

/-- Of a cloud nothing has changed but the ids that are to be given out; rules are compared frontend
by frontend. -/
structure Restored (c c' : Cloud) : Prop where
  rules : ∀ id, Access.rulesOf c' id = Access.rulesOf c id
  frame : c' = { c with rules := c'.rules, nextId := c'.nextId }

/-- A removal after the registration of a new member leaves what was there before. -/
theorem Effect.restored {c2 : Cloud} (h : Effect m node false addresses c c1)
    (h' : Effect m node true [] c1 c2) (hnew : m.Absent node c) : Restored c c2 := by
  constructor
  case rules =>
    -- The rule goes by its name; there was none of that name before.
    have hname : (m.desiredRule []).name = (m.desiredRule addresses).name := rfl
    refine h.rules.undone hname rfl (fun id hid => ?_)
      (h'.rules.congr fun id => (h.isReachedFront_iff m.scope).symm)
    obtain ⟨b, ⟨hb, htopology, hlive⟩, f, hf, rfl⟩ := hid
    have hmem : f ∈ Topology.frontendsOf c b.id := by
      rw [show Topology.frontendsOf c b.id = [f] from hf]
      exact List.mem_singleton_self f
    refine List.map_eq_nil_iff.2 (List.filter_eq_nil_iff.2 fun r hr hname => ?_)
    exact (hnew b hb htopology hlive).2 f hmem r hr (of_decide_eq_true hname)
  case frame =>
    -- Adding the node and removing it again gives the pools of the start, as none had it.
    have hback : (c.backends.map (enlistAt node false (reachedIds m.scope c))).map
        (enlistAt node true (reachedIds m.scope c)) = c.backends := by
      rw [List.map_map]
      refine (List.map_congr_left fun k hk => ?_).trans (List.map_id _)
      rw [Function.comp_apply]
      unfold enlistAt
      by_cases hat : k.name = backendName ∧ k.balancerId ∈ reachedIds m.scope c
      · obtain ⟨b, ⟨hb, htopology, hlive⟩, hid⟩ := mem_reachedIds.1 hat.2
        have hmem : k ∈ Topology.backendsOf c b.id :=
          List.mem_filter.2 ⟨hk, by simp [hat.1, hid]⟩
        have hfree := (hnew b hb htopology hlive).1 k hmem
        rw [if_pos hat, if_pos hat, enlisted_true_enlisted_false hfree]
        rfl
      · rw [if_neg hat, if_neg hat]
        rfl
    rw [h'.frame, h.reachedIds_eq m.scope, h.frame, hback]

/-- Registered members are in no pool twice. -/
theorem Effect.count_le (h : Effect m node false addresses c c') (hneeds : Registrable m c)
    (honce : PoolsOnce m.scope c) : ∀ k ∈ c'.backends, k.name = backendName →
      k.balancerId ∈ reachedIds m.scope c' → k.pool.count node ≤ 1 := by
  intro k hk hname hid
  rw [h.backends] at hk
  obtain ⟨k0, hk0, rfl⟩ := List.mem_map.1 hk
  obtain ⟨hname0, hbalancer0⟩ := @enlistAt_head node false (reachedIds m.scope c) k0
  rw [hname0] at hname
  rw [hbalancer0, h.reachedIds_eq m.scope] at hid
  obtain ⟨b, hb, hself⟩ := mem_reachedIds.1 hid
  obtain ⟨k1, hk1⟩ := hneeds.backend b hb
  obtain rfl := (eq_of_hasBackend hk1 hk0).2 ⟨hname, hself.symm⟩
  rw [enlistAt_of_hasBackend hk1 (mem_reachedIds.2 ⟨b, hb, rfl⟩)]
  exact (count_enlisted_false (honce b hb.1 hb.2.1 k0 hk1)).le

/-! ## In either order -/

/-- Two clouds are the same but for the order of servers in pools, the order of rules under
different names, and the ids of rules. -/
structure Alike (c c' : Cloud) : Prop where
  pools : List.Forall₂ (fun k k' : Backend => k' = { k with pool := k'.pool } ∧ k'.pool.Perm k.pool)
    c.backends c'.backends
  rules : ∀ id name, Access.specsOf c' id name = Access.specsOf c id name
  frame : c' = { c with backends := c'.backends, rules := c'.rules, nextId := c'.nextId }

/-- Members that differ in their names and their nodes leave the same in either order. -/
theorem Effect.comm {m' : Member} {node' : String} {addresses' : List String} {c2 c1' c2' : Cloud}
    (hscope : m'.scope = m.scope) (hname : m'.ruleName ≠ m.ruleName) (hnode : node' ≠ node)
    (h : Effect m node false addresses c c1) (h' : Effect m' node' false addresses' c1 c2)
    (g' : Effect m' node' false addresses' c c1') (g : Effect m node false addresses c1' c2') :
    Alike c2 c2' := by
  have hids := h.reachedIds_eq m.scope
  have hids' := g'.reachedIds_eq m.scope
  constructor
  case pools =>
    rw [h'.backends, h.backends, g.backends, g'.backends, hscope, hids, hids', List.map_map,
      List.map_map, List.forall₂_map_left_iff, List.forall₂_map_right_iff, List.forall₂_same]
    intro k _
    unfold Function.comp enlistAt
    by_cases hat : k.name = backendName ∧ k.balancerId ∈ reachedIds m.scope c
    · -- Both nodes go to the end of the pool, so that only their order depends on who was first.
      rw [if_pos hat, if_pos hat, if_pos hat, if_pos hat]
      exact ⟨rfl, (enlisted_comm_perm hnode k.pool).symm⟩
    · rw [if_neg hat, if_neg hat, if_neg hat]
      exact ⟨rfl, .refl _⟩
  case rules =>
    refine h.rules.comm hname (h'.rules.congr fun id => ?_) (g'.rules.congr fun id => ?_)
      (g.rules.congr fun id => (g'.isReachedFront_iff m.scope).symm)
    · rw [hscope]
      exact (h.isReachedFront_iff m.scope).symm
    · rw [hscope]
  case frame => rw [g.frame, g'.frame, h'.frame, h.frame]

/-- Members with different names have rules with different names. -/
theorem ruleName_ne {m' : Member} (hscope : m'.scope = m.scope) (hname : m'.name ≠ m.name) :
    m'.ruleName ≠ m.ruleName := by
  intro heq
  have hjoined : m.scope.cluster.name ++ "-" ++ m'.name = m.scope.cluster.name ++ "-" ++ m.name := by
    unfold ruleName at heq
    rw [hscope] at heq
    exact heq
  exact hname ((String.append_right_inj _).1 hjoined)

/-! ## Runs -/

/-- What a registration does. Where no server is in a pool twice, if a registration returns:

* the member is in the pools and the rules of all load balancers of the cluster that are not being
  deleted, and all else is as it was;
* if there was no trace of the member before, its removal returns and restores every pool and every
  frontend's rules;
* another member that registers afterwards, with another name and another node, can also be the first
  of the two, and what they leave is alike. -/
theorem reconcile_registers {deadline : Option Seconds} {x x' : Session Cloud}
    (hc : x.world.store.Sound) (honce : PoolsOnce m.scope x.world.store)
    (h : (m.reconcile node addresses).run Cloud.provider deadline x = (.ok u, x')) :
    Registered m node addresses x.world.store x'.world.store ∧
      (m.Absent node x.world.store → ∀ deadline (y : Session Cloud), y.Live deadline →
        y.world.store = x'.world.store →
        ∃ y', (m.delete node).run Cloud.provider deadline y = (.ok (), y') ∧
          Restored x.world.store y'.world.store) ∧
      ∀ (m' : Member) (node' : String) (addresses' : List String), m'.scope = m.scope →
        m'.name ≠ m.name → node' ≠ node →
        ∀ deadline (y y' : Session Cloud), y.world.store = x'.world.store →
        (m'.reconcile node' addresses').run Cloud.provider deadline y = (.ok u, y') →
        ∀ deadline (z : Session Cloud), z.Live deadline → z.world.store = x.world.store →
        ∃ z', (m'.reconcile node' addresses').run Cloud.provider deadline z = (.ok (), z') ∧
          ∀ deadline (w : Session Cloud), w.Live deadline → w.world.store = z'.world.store →
          ∃ w', (m.reconcile node addresses).run Cloud.provider deadline w = (.ok (), w') ∧
            Alike y'.world.store w'.world.store := by
  have hreturns := reconcile_orderly.returns h
  have hc' := hc.returns hreturns
  obtain ⟨hneeds, heffect⟩ := reconcile_effect hc hreturns
  refine ⟨heffect.registered hneeds honce, fun hnew deadline y live hy => ?_, ?_⟩
  · rw [← hy] at heffect hc'
    have hneeds' : Registrable m y.world.store := heffect.registrable_iff.2 hneeds
    obtain ⟨_, c2, hdelete⟩ := hneeds'.returns hc' node []
    obtain ⟨y', hrun, rfl⟩ := delete_orderly.brittle.run_of_returns live hdelete
    have heffect' := delete_effect hc' hneeds'.primary (heffect.count_le hneeds honce) hdelete
    exact ⟨y', hrun, heffect.restored heffect' hnew⟩
  · intro m' node' addresses' hscope hname hnode _ y y' hy hrun deadline z live hz
    rw [← hy] at heffect hc'
    obtain ⟨hneeds', heffect'⟩ := reconcile_effect hc' (reconcile_orderly.returns hrun)
    -- What the second member has found was there for it at first.
    have hready : Registrable m' x.world.store := heffect.registrable_iff.1 hneeds'
    rw [← hz] at hready hneeds hc heffect
    obtain ⟨⟨c1, hother⟩, _⟩ := hready.returns hc node' addresses'
    obtain ⟨z', hrun', rfl⟩ := reconcile_orderly.brittle.run_of_returns live hother
    have hother' := (reconcile_effect hc hother).2
    have hz' := hc.returns hother
    refine ⟨z', hrun', fun _ w live' hw => ?_⟩
    rw [← hw] at hother' hz'
    obtain ⟨⟨c2, hself⟩, _⟩ := (hother'.registrable_iff.2 hneeds).returns hz' node addresses
    obtain ⟨w', hrun2, rfl⟩ := reconcile_orderly.brittle.run_of_returns live' hself
    exact ⟨w', hrun2, heffect.comm hscope (ruleName_ne hscope hname) hnode heffect' hother'
      (reconcile_effect hz' hself).2⟩

end Member

namespace Sample

/-- A primary, a secondary, and a secondary that is being deleted and still has a server; one member
is registered. -/
def pairCloud : Cloud where
  balancers :=
    [{ id := "main", zone := "fr-par-1", name := "demo", type := "lb-s"
       tags := Topology.primaryTags (scope []) },
     { id := "small", zone := "fr-par-1", name := "demo-0", type := "lb-s"
       tags := Secondary.tags (scope []) },
     { id := "leaving", zone := "fr-par-2", name := "demo-0", type := "lb-s", status := .deleting
       tags := Secondary.tags (scope []) }]
  backends :=
    [{ id := "main-pool", balancerId := "main", zone := "fr-par-1", name := Topology.backendName
       forwardPort := 6443, pool := ["10.1.0.2"] },
     { id := "small-pool", balancerId := "small", zone := "fr-par-1", name := Topology.backendName
       forwardPort := 6443, pool := ["10.1.0.3", "10.1.0.2"] },
     { id := "leaving-pool", balancerId := "leaving", zone := "fr-par-2"
       name := Topology.backendName, forwardPort := 6443, pool := ["10.1.0.2"] }]
  frontends :=
    [{ id := "main-port", balancerId := "main", zone := "fr-par-1", name := Topology.frontendName
       inboundPort := 443, backendId := "main-pool" },
     { id := "small-port", balancerId := "small", zone := "fr-par-1", name := Topology.frontendName
       inboundPort := 443, backendId := "small-pool" }]
  rules :=
    [{ name := "demo-cp-0", index := 1, action := .allow, subnets := ["51.15.3.1"]
       id := "main-rule", frontendId := "main-port" },
     { name := "demo-cp-0", index := 1, action := .allow, subnets := ["51.15.3.1"]
       id := "small-rule", frontendId := "small-port" }]

/-- The cloud of the examples is sound. -/
theorem pairCloud_sound : pairCloud.Sound := by
  refine ⟨?_, ?_, ?_, ?_, ?_, ?_⟩ <;> exact .of_foreign (by decide +kernel) (by decide +kernel)

/-- A member that the sample cloud has no trace of. -/
def newcomer : Member := ⟨scope [], "cp-1"⟩

/-- Another one. -/
def latecomer : Member := ⟨scope [], "cp-2"⟩

/-- Nothing on it is the newcomer's. -/
theorem newcomer_absent : newcomer.Absent "10.1.0.4" pairCloud := by
  have hpools : ∀ k ∈ pairCloud.backends, "10.1.0.4" ∉ k.pool := by decide +kernel
  have hrules : ∀ r ∈ pairCloud.rules, r.name ≠ newcomer.ruleName := by decide +kernel
  exact fun _ _ _ _ => ⟨fun k hk => hpools k (List.mem_of_mem_filter hk),
    fun _ _ r hr => hrules r (List.mem_of_mem_filter hr)⟩

end Sample

namespace Member

/-- A member is registered on the sample cloud and removed again; and it may register before or
after another one. -/
theorem sample_registers : ∃ x' r' y' z' w',
    (Sample.newcomer.reconcile "10.1.0.4" ["51.15.3.4"]).run Cloud.provider none
      (Sample.session Sample.pairCloud) = (.ok (), x') ∧
    Registered Sample.newcomer "10.1.0.4" ["51.15.3.4"] Sample.pairCloud x'.world.store ∧
    (Sample.newcomer.delete "10.1.0.4").run Cloud.provider none (Sample.session x'.world.store) =
      (.ok (), r') ∧
    Restored Sample.pairCloud r'.world.store ∧
    (Sample.latecomer.reconcile "10.1.0.5" []).run Cloud.provider none
      (Sample.session x'.world.store) = (.ok (), y') ∧
    (Sample.latecomer.reconcile "10.1.0.5" []).run Cloud.provider none
      (Sample.session Sample.pairCloud) = (.ok (), z') ∧
    (Sample.newcomer.reconcile "10.1.0.4" ["51.15.3.4"]).run Cloud.provider none
      (Sample.session z'.world.store) = (.ok (), w') ∧
    Alike y'.world.store w'.world.store := by
  let first := (Sample.newcomer.reconcile "10.1.0.4" ["51.15.3.4"]).run Cloud.provider none
    (Sample.session Sample.pairCloud)
  let second := (Sample.latecomer.reconcile "10.1.0.5" []).run Cloud.provider none
    (Sample.session first.2.world.store)
  obtain ⟨_, x', h⟩ := Sample.exists_of_isOk (r := first) (by decide +kernel)
  obtain ⟨_, y', h2⟩ := Sample.exists_of_isOk (r := second) (by decide +kernel)
  have hx' : first.2 = x' := congrArg (·.2) h
  have hsecond : (Sample.latecomer.reconcile "10.1.0.5" []).run Cloud.provider none
      (Sample.session x'.world.store) = (.ok (), y') := by
    rw [← hx']
    exact h2
  -- No pool of the cloud has a server twice.
  have honce : PoolsOnce Sample.newcomer.scope Sample.pairCloud := by
    have hall : ∀ k ∈ Sample.pairCloud.backends, k.pool.Nodup := by decide +kernel
    exact fun _ _ _ k hk => hall k hk.mem
  obtain ⟨hregistered, hundo, hcommute⟩ := reconcile_registers
    (x := Sample.session Sample.pairCloud) Sample.pairCloud_sound honce h
  -- The removal afterwards, and the two registrations in the other order.
  obtain ⟨r', hdelete, hrestored⟩ :=
    hundo Sample.newcomer_absent none (Sample.session x'.world.store) rfl rfl
  obtain ⟨z', hfirst, hlater⟩ := hcommute Sample.latecomer "10.1.0.5" [] rfl (by decide) (by decide)
    none (Sample.session x'.world.store) y' rfl hsecond none (Sample.session Sample.pairCloud) rfl rfl
  obtain ⟨w', hlast, halike⟩ := hlater none (Sample.session z'.world.store) rfl rfl
  exact ⟨x', r', y', z', w', h, hregistered, hdelete, hrestored, hsecond, hfirst, hlast, halike⟩

end Member

end ControlPlane
