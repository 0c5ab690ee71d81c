import ControlPlane.Proofs.Access.Contents
import ControlPlane.Proofs.Topology.Idempotence
import ControlPlane.Proofs.Topology.Jobs

/-!
# Members and copies

A member writes itself to every load balancer, one by one; a run for the cluster writes to the
primary and copies its pool and its rules. The two agree: registering members on a steady cloud and
removing them leaves it steady (`Steady.memberRuns`), since what becomes of a pool or of a rule
depends on what it was alone, so that the same becomes of equal ones. A run for the cluster after
any such sequence finds nothing to do (`members_agree_with_copies`).
-/

namespace ControlPlane

open Program hiding ofExcept
open ControlPlane.Topology (HasBackend HasFrontend)

/-- On some load balancers, pools change by one function and the contents under each name of the
rules by another; the other load balancers keep theirs, and nothing else changes. -/
structure Writes (f : List String → List String)
    (r : String → List Access.Content → List Access.Content) (ids : List String) (c c' : Cloud) :
    Prop where
  frame : c' = { c with backends := c'.backends, rules := c'.rules, nextId := c'.nextId }
  pools : ∀ id k, HasBackend c id k →
    HasBackend c' id (if id ∈ ids then { k with pool := f k.pool } else k)
  rules : ∀ id g, HasFrontend c id g → ∀ name, Access.under c' g.id name =
    if id ∈ ids then r name (Access.under c g.id name) else Access.under c g.id name

namespace Writes

variable {f f' : List String → List String}
  {r r' : String → List Access.Content → List Access.Content} {ids : List String} {id : String}
  {c c1 c' : Cloud}

/-- Frontends stay where pools and rules are written. -/
theorem hasFrontend (h : Writes f r ids c c') {g : Frontend} (hg : HasFrontend c id g) :
    HasFrontend c' id g :=
  hg.congr (by rw [h.frame])

/-- The listed secondaries stay where pools and rules are written. -/
theorem listed_eq (h : Writes f r ids c c') (s : Scope) :
    Secondary.listed s c' = Secondary.listed s c :=
  Secondary.listed_congr (by rw [h.frame])

/-- Writing to one load balancer and then to others. -/
theorem cons (h : Writes f r [id] c c1) (hid : id ∉ ids) (h' : Writes f r ids c1 c') :
    Writes f r (id :: ids) c c' := by
  refine ⟨by rw [h'.frame, h.frame], fun id' k hk => ?_, fun id' g hg name => ?_⟩
  · have hlast := h'.pools id' _ (h.pools id' k hk)
    by_cases heq : id' = id
    · rw [if_neg (heq ▸ hid), if_pos (List.mem_singleton.2 heq)] at hlast
      rwa [if_pos (heq ▸ List.mem_cons_self)]
    · rw [if_neg (mt List.mem_singleton.1 heq)] at hlast
      simp only [List.mem_cons, heq, false_or]
      exact hlast
  · rw [h'.rules id' g (h.hasFrontend hg) name, h.rules id' g hg name]
    by_cases heq : id' = id
    · rw [if_neg (heq ▸ hid), if_pos (List.mem_singleton.2 heq), if_pos (heq ▸ List.mem_cons_self)]
    · rw [if_neg (mt List.mem_singleton.1 heq)]
      simp only [List.mem_cons, heq, false_or]

/-- Writing to load balancers twice. -/
theorem comp (h : Writes f r ids c c1) (h' : Writes f' r' ids c1 c') :
    Writes (fun pool => f' (f pool)) (fun name x => r' name (r name x)) ids c c' := by
  refine ⟨by rw [h'.frame, h.frame], fun id' k hk => ?_, fun id' g hg name => ?_⟩
  · have hlast := h'.pools id' _ (h.pools id' k hk)
    by_cases hmem : id' ∈ ids
    · rw [if_pos hmem, if_pos hmem] at hlast
      rwa [if_pos hmem]
    · rw [if_neg hmem, if_neg hmem] at hlast
      rwa [if_neg hmem]
  · rw [h'.rules id' g (h.hasFrontend hg) name, h.rules id' g hg name]
    by_cases hmem : id' ∈ ids
    · rw [if_pos hmem, if_pos hmem, if_pos hmem]
    · rw [if_neg hmem, if_neg hmem, if_neg hmem]

end Writes

namespace Member

open Secondary (listed)

variable {c c' : Cloud} {b : LoadBalancer} {bs : List LoadBalancer} {site : Site} {m : Member}
  {node : String} {deletion : Bool} {addresses : List String} {u : Unit}

/-! ## Pools -/

/-- What becomes of a pool when a node is put into it, or taken out. -/
def enlisted (node : String) (deletion : Bool) (pool : List String) : List String :=
  if deletion then pool.erase node
  else if pool.contains node then pool else pool ++ [node]

/-- Pools with the same servers become pools with the same servers. -/
theorem enlisted_perm {pool pool' : List String} (h : pool.Perm pool') :
    (enlisted node deletion pool).Perm (enlisted node deletion pool') := by
  unfold enlisted
  rw [h.contains_eq]
  split
  · exact h.erase node
  · split
    · exact h
    · exact h.append_right [node]

/-- The backend of the load balancer, and it alone, gets a node or loses it. -/
theorem ensureServer_effect (hc : c.Sound)
    (h : (ensureServer site node deletion b).Returns c u c') :
    ∃ k, HasBackend c b.id k ∧ c' = { c with backends := c.backends.map fun k' =>
      if k'.id = k.id then { k' with pool := enlisted node deletion k'.pool } else k' } := by
  obtain ⟨step, heq, hstep⟩ := ensureServer_steps site node deletion b
  rw [heq] at h
  obtain ⟨k, c1, hfind, hrest⟩ := returns_bind.1 h
  obtain ⟨_, hfilter, rfl⟩ := Site.findBackend_returns.1 (returns_orNone_some.2 hfind)
  have hk : HasBackend c1 b.id k := hfilter
  refine ⟨k, hk, ?_⟩
  -- It is enough to look at the pool of this backend, as no other one has its id.
  have hmap : ∀ f : List String → List String, f k.pool = enlisted node deletion k.pool →
      (c1.backends.map fun k' => if k'.id = k.id then { k' with pool := f k'.pool } else k') =
        c1.backends.map fun k' =>
          if k'.id = k.id then { k' with pool := enlisted node deletion k'.pool } else k' := by
    intro f hf
    refine List.map_congr_left fun k' hk' => ?_
    split
    · next hid =>
      have hself : k' = k := hc.backends.inj hk' hk.mem hid
      rw [hself, hf]
    · rfl
  cases hstep k with
  | removed hdeletion _ hp =>
    rw [hp] at hrest
    obtain ⟨_, hchange⟩ := Cloud.removeServer_effect (Site.change_returns.1 hrest).2
    rw [(Cloud.changePool_effect hchange).2, ← hmap (·.erase node)]
    rw [enlisted, if_pos hdeletion]
  | added hdeletion hnone hp =>
    rw [hp] at hrest
    obtain ⟨_, hchange⟩ := Cloud.addServer_effect (Site.change_returns.1 hrest).2
    rw [(Cloud.changePool_effect hchange).2, ← hmap (· ++ [node])]
    rw [enlisted, if_neg (by simp [hdeletion]), if_neg (by simpa using hnone)]
  | kept hpool hp =>
    rw [hp] at hrest
    obtain ⟨_, rfl⟩ := returns_done.1 hrest
    have hsame : k.pool = enlisted node deletion k.pool := by
      unfold enlisted
      cases deletion with
      | true =>
        rw [if_pos rfl, List.erase_of_not_mem]
        exact fun hmem => Bool.false_ne_true (hpool.1 hmem).symm
      | false => rw [if_neg Bool.false_ne_true, if_pos (by simpa using hpool.2 rfl)]
    have hself := hmap id hsame
    simp only [id, ite_self, List.map_id'] at hself
    rw [← hself]

/-- Putting a node into the pool of a load balancer, or taking it out. -/
theorem ensureServer_writes (hc : c.Sound)
    (h : (ensureServer site node deletion b).Returns c u c') :
    Writes (enlisted node deletion) (fun _ => id) [b.id] c c' := by
  obtain ⟨k0, hk0, hc'⟩ := ensureServer_effect hc h
  refine ⟨by rw [hc'], fun id k hk => ?_, fun id g _ name => ?_⟩
  · have hchanged := hk.changePool k0.id (enlisted node deletion)
    -- The pool that changes is that of the one load balancer, which has one backend.
    have hiff : k.id = k0.id ↔ id ∈ [b.id] := by
      rw [List.mem_singleton]
      constructor
      · intro heq
        have hself : k = k0 := hc.backends.inj hk.mem hk0.mem heq
        exact hk.balancerId.symm.trans (hself ▸ hk0.balancerId)
      · rintro rfl
        rw [hk.unique hk0]
    rw [hc']
    simp only [← hiff]
    exact hchanged
  · have hrules : Access.under c' g.id name = Access.under c g.id name := by
      rw [hc']
      rfl
    rw [hrules]
    exact (ite_self _).symm

/-! ## Rules -/

/-- A frontend that is there is found, in a deletion as well. -/
theorem findFrontend_handled {f : Frontend} {r : Option Frontend} (hzone : b.zone ∈ site.zones)
    (hf : HasFrontend c b.id f)
    (h : ((some <$> site.findFrontend b.zone b.id Topology.frontendName).handle fun e =>
      if deletion && e.isIgnored [.notFound] then .done none else .fail e).Returns c r c') :
    r = some f ∧ c' = c := by
  have hfind : (site.findFrontend b.zone b.id Topology.frontendName).Returns c f c :=
    returns_orNone_some.1 (Site.findFrontend_returns.2 ⟨hzone, hf, rfl⟩)
  have hmap : (some <$> site.findFrontend b.zone b.id Topology.frontendName).Returns c (some f) c :=
    returns_map.2 ⟨f, hfind, rfl⟩
  unfold Program.Returns at h hmap
  rw [exec_handle, hmap] at h
  cases h
  exact ⟨rfl, rfl⟩

/-- What is found as the frontend of a load balancer, if anything is, is its frontend. -/
theorem hasFrontend_of_handled {r : Option Frontend}
    (h : ((some <$> site.findFrontend b.zone b.id Topology.frontendName).handle fun e =>
      if deletion && e.isIgnored [.notFound] then .done none else .fail e).Returns c r c') :
    ∀ f ∈ r, HasFrontend c b.id f := by
  unfold Program.Returns at h
  rw [exec_handle] at h
  -- Only a deletion goes on without a frontend, and then there is nothing to claim.
  rcases hfind : (some <$> site.findFrontend b.zone b.id Topology.frontendName).exec c with
    ⟨e | v, c1⟩
  · rw [hfind] at h
    dsimp only at h
    split at h
    · cases h
      exact nofun
    · cases h
  · rw [hfind] at h
    cases h
    obtain ⟨f, hf, rfl⟩ := returns_map.1 hfind
    rintro _ ⟨⟩
    exact (Site.findFrontend_returns.1 (returns_orNone_some.2 hf)).2.1

/-- Ensuring a member's rule on the frontend of a load balancer. -/
theorem ensureRule_writes (hc : c.Sound) (hzone : b.zone ∈ m.scope.site.zones) {f : Frontend}
    (hf : HasFrontend c b.id f) (h : (m.ensureRule addresses deletion b).Returns c u c') :
    Writes id (Access.ruled (m.desiredRule addresses)) [b.id] c c' := by
  obtain ⟨r, c1, hfind, hrest⟩ := returns_bind.1 h
  obtain ⟨rfl, rfl⟩ := findFrontend_handled hzone hf hfind
  dsimp only at hrest
  have hframe := Access.changes_rules Access.ensureRule_orderly hrest
  refine ⟨by rw [hframe], fun id k hk => ?_, fun id g hg name => ?_⟩
  · have hself : (if id ∈ [b.id] then k else k) = k := ite_self k
    show HasBackend c' id (if id ∈ [b.id] then k else k)
    rw [hself, hframe]
    exact hk
  · split
    · next hid =>
      rw [List.mem_singleton.1 hid] at hg
      rw [hg.unique hf]
      exact Access.ensureRule_under hc hrest name
    -- Another load balancer has another frontend.
    · next hid =>
      have hother : g.id ≠ f.id := by
        intro heq
        have hself : g = f := hc.frontends.inj hg.mem_filter.1 hf.mem_filter.1 heq
        have hbalancer := hg.mem_filter.2.2
        rw [hself] at hbalancer
        exact hid (List.mem_singleton.2 (hbalancer.symm.trans hf.mem_filter.2.2))
      unfold Access.under
      rw [Access.ensureRule_elsewhere hc hrest hother]

/-! ## Several load balancers -/

/-- Acting on load balancers one after the other writes to all of them, if acting on each writes to
it alone. -/
theorem eachLive_writes {act : LoadBalancer → Program Unit} {f : List String → List String}
    {r : String → List Access.Content → List Access.Content} (hc : c.Sound)
    (hids : (bs.map (·.id)).Nodup) (hready : ∀ b ∈ bs, b.status = .ready)
    (hact : ∀ b ∈ bs, ∀ c1 c2 u, c1.Sound → c1.frontends = c.frontends →
      (act b).Returns c1 u c2 → Writes f r [b.id] c1 c2)
    (h : (eachLive act bs).Returns c u c') : Writes f r (bs.map (·.id)) c c' := by
  induction bs generalizing c with
  | nil =>
    obtain ⟨_, rfl⟩ := returns_done.1 h
    exact ⟨rfl, fun id k hk => hk, fun id g hg name => rfl⟩
  | cons b rest ih =>
    have hlive : b.status ≠ .deleting := by
      rw [hready b List.mem_cons_self]
      exact nofun
    rw [eachLive, if_pos hlive] at h
    obtain ⟨_, c1, hfirst, hrest⟩ := returns_bind.1 h
    -- Each writes under its own load balancer, and no two of them are the same.
    rw [List.map_cons, List.nodup_cons] at hids
    have hwrites := hact b List.mem_cons_self c c1 _ hc rfl hfirst
    have hfrontends : c1.frontends = c.frontends := by rw [hwrites.frame]
    refine hwrites.cons hids.1 (ih (hc.returns hfirst) hids.2
      (fun x hx => hready x (List.mem_cons_of_mem _ hx)) (fun x hx c2 c3 u hc2 hsame hx' => ?_) hrest)
    exact hact x (List.mem_cons_of_mem _ hx) c2 c3 u hc2 (hsame.trans hfrontends) hx'

end Member

/-! ## What stays steady -/

namespace Topology

open Secondary (listed)

variable {s : Scope} {q : LoadBalancer} {main : String} {others : List String} {c c' : Cloud}
  {f : List String → List String} {r : String → List Access.Content → List Access.Content}

/-- The ids of the load balancers of a topology. -/
def listedIds (s : Scope) (q : LoadBalancer) (c : Cloud) : List String :=
  (listed s c ++ [q]).map (·.id)

/-- The primary and the secondaries have listed ids. -/
theorem id_mem_listedIds {b : LoadBalancer} (hb : b = q ∨ b ∈ listed s c) :
    b.id ∈ listedIds s q c := by
  refine List.mem_map_of_mem (List.mem_append.2 ?_)
  exact hb.symm.imp_right List.mem_singleton.2

/-- Each load balancer of a topology is there once. -/
theorem Placed.nodup_listedIds (h : Placed s q c) (hc : c.Sound) : (listedIds s q c).Nodup := by
  rw [listedIds, List.map_append, List.map_singleton, List.nodup_append_comm,
    List.singleton_append, List.nodup_cons]
  refine ⟨fun hmem => ?_, h.ids⟩
  obtain ⟨b, hb, hid⟩ := List.mem_map.1 hmem
  obtain ⟨hbmem, hsec⟩ := Secondary.mem_listed.1 hb
  have hself : b = q := hc.balancers.inj hbmem h.primary.mem hid
  exact h.apart (hself ▸ hsec)

/-- What is written to all load balancers alike keeps pools with the same servers and frontends that
agree, if it leaves the rules alone that a run ensures. -/
theorem Serves.of_writes (h : Serves s q c) (hwrites : Writes f r (listedIds s q c) c c')
    (hf : ∀ pool pool' : List String, pool.Perm pool' → (f pool).Perm (f pool'))
    (hr : ∀ name ∈ Access.ruleNames, r name = id) : Serves s q c' := by
  have hlisted : listed s c' = listed s c := hwrites.listed_eq s
  constructor
  case pools =>
    -- All pools are written with the same function, which keeps permutations.
    have hpools : ∀ b, b = q ∨ b ∈ listed s c → ∀ k, HasBackend c b.id k →
        HasBackend c' b.id { k with pool := f k.pool } := by
      intro b hb k hk
      have hchanged := hwrites.pools b.id k hk
      rwa [if_pos (id_mem_listedIds hb)] at hchanged
    obtain ⟨k, hk, hzone, hall⟩ := h.pools
    refine ⟨_, hpools q (.inl rfl) k hk, hzone, fun b hb => ?_⟩
    rw [hlisted] at hb
    obtain ⟨k', hk', hzone', hperm⟩ := hall b hb
    exact ⟨_, hpools b (.inr hb) k' hk', hzone', hf _ _ hperm⟩
  case rules =>
    -- All rules are written by name with the same functions, those that are desired with none.
    have hrules : ∀ b, b = q ∨ b ∈ listed s c → ∀ g, HasFrontend c b.id g → ∀ name,
        Access.under c' g.id name = r name (Access.under c g.id name) := by
      intro b hb g hg name
      have hchanged := hwrites.rules b.id g hg name
      rwa [if_pos (id_mem_listedIds hb)] at hchanged
    have hdesired : Access.desiredOn s c' = Access.desiredOn s c := by
      rw [hwrites.frame]
      rfl
    obtain ⟨g, hg, hzone, hhas, hall⟩ := h.rules
    refine ⟨g, hwrites.hasFrontend hg, hzone, fun d hd => ?_, fun b hb => ?_⟩
    · rw [hdesired] at hd
      have hname : d.name ∈ Access.ruleNames := by
        rw [← Access.desiredOn_names s c]
        exact List.mem_map_of_mem hd
      refine (hhas d hd).of_under ?_
      rw [hrules q (.inl rfl) g hg, hr d.name hname]
      rfl
    · rw [hlisted] at hb
      obtain ⟨g', hg', hzone', hagree⟩ := hall b hb
      refine ⟨g', hwrites.hasFrontend hg', hzone', Access.agree_iff.2 fun name => ?_⟩
      rw [hrules q (.inl rfl) g hg, hrules b (.inr hb) g' hg', Access.agree_iff.1 hagree]

/-- A cloud stays steady where the same is written to all its load balancers. -/
theorem Steady.of_writes (h : Steady s q main others c) (hsound : c'.Sound)
    (hwrites : Writes f r (listedIds s q c) c c')
    (hf : ∀ pool pool' : List String, pool.Perm pool' → (f pool).Perm (f pool'))
    (hr : ∀ name ∈ Access.ruleNames, r name = id) : Steady s q main others c' := by
  have hbalancers : c'.balancers = c.balancers := by rw [hwrites.frame]
  have hprivate : c'.privateAddresses = c.privateAddresses := by rw [hwrites.frame]
  -- What settles a load balancer is not written to: neither the load balancers nor their addresses.
  have hsecondaries : pinnedSecondaries s c' = pinnedSecondaries s c := by
    unfold pinnedSecondaries
    rw [hwrites.listed_eq]
  constructor
  case sound => exact hsound
  case placed => exact h.placed.congr hbalancers (by rw [hwrites.frame]) hprivate
  case serves => exact h.serves.of_writes hwrites hf hr
  case main =>
    rw [Placed.settled_congr hprivate]
    exact h.main
  case others =>
    rw [Placed.settled_congr hprivate, hsecondaries]
    exact h.others

end Topology

/-! ## The programs of a member -/

namespace Member

open ControlPlane.Topology (Steady listedIds)
open Secondary (listed)

variable {m : Member} {q : LoadBalancer} {main : String} {others : List String} {c c' : Cloud}
  {node : String} {deletion : Bool} {addresses : List String} {u : Unit}

/-- A member finds the declared secondaries and the primary. -/
theorem findBalancers_returns (hc : c.Sound) (h : Topology.Placed m.scope q c) :
    m.findBalancers.Returns c (listed m.scope c ++ [q]) c := by
  have hprimary : (m.scope.site.findBalancer q.zone (Topology.primaryTags m.scope)).Returns c q c :=
    returns_orNone_some.1 ((Site.findBalancer_returns (Topology.primaryTags_ne_nil m.scope)).2
      ⟨h.zone, h.primary.filter hc, rfl⟩)
  have hsecondaries : (m.scope.site.findBalancers (Secondary.tags m.scope)).Returns c
      (listed m.scope c) c :=
    (Site.findBalancers_returns (Secondary.tags_ne_nil m.scope)).2 ⟨rfl, rfl⟩
  refine returns_bind.2 ⟨q.zone, c, returns_ofExcept.2 ⟨h.primary.primary.1, rfl⟩, ?_⟩
  refine returns_bind.2 ⟨q, c, hprimary, returns_bind.2 ⟨_, c, hsecondaries, ?_⟩⟩
  exact returns_done.2 ⟨rfl, rfl⟩

/-- On a steady cloud, putting a node into pools or taking it out writes the pools of the whole
topology. -/
theorem ensureServers_writes (h : Steady m.scope q main others c)
    (hrun : (m.ensureServers (listed m.scope c ++ [q]) node deletion).Returns c u c') :
    Writes (enlisted node deletion) (fun _ => id) (listedIds m.scope q c) c c' :=
  eachLive_writes h.sound (h.placed.nodup_listedIds h.sound) h.placed.ready
    (fun _ _ _ _ _ hc1 _ hact => ensureServer_writes hc1 hact) hrun

/-- On a steady cloud, ensuring a member's rule writes the rules of the whole topology. -/
theorem ensureRules_writes (h : Steady m.scope q main others c)
    (hrun : (m.ensureRules (listed m.scope c ++ [q]) addresses deletion).Returns c u c') :
    Writes id (Access.ruled (m.desiredRule addresses)) (listedIds m.scope q c) c c' := by
  refine eachLive_writes h.sound (h.placed.nodup_listedIds h.sound) h.placed.ready
    (fun b hb c1 c2 u hc1 hsame hact => ?_) hrun
  have hfrontend : ∃ f, HasFrontend c b.id f := by
    obtain ⟨f, hf, _, _, hcopies⟩ := h.serves.rules
    rcases List.mem_append.1 hb with hb | hb
    · obtain ⟨g, hg, _⟩ := hcopies b hb
      exact ⟨g, hg⟩
    · rw [List.mem_singleton.1 hb]
      exact ⟨f, hf⟩
  obtain ⟨f, hf⟩ := hfrontend
  exact ensureRule_writes hc1 (h.placed.zones b hb) (hf.congr hsame) hact

end Member

/-! ## Runs of members -/

namespace Job

/-- What becomes of a pool in a member's job. -/
def pool : Job → List String → List String
  | .register _ node _ => Member.enlisted node false
  | .remove _ node => Member.enlisted node true
  | .reconcile | .delete => id

/-- What becomes of the contents under a name in a member's job. -/
def contents (s : Scope) : Job → String → List Access.Content → List Access.Content
  | .register member _ addresses => Access.ruled ((⟨s, member⟩ : Member).desiredRule addresses)
  | .remove member _ => Access.ruled ((⟨s, member⟩ : Member).desiredRule [])
  | .reconcile | .delete => fun _ => id

/-- The job is a member's, and the member's rule is none of those that a run for the cluster
ensures. -/
def IsMembers (s : Scope) : Job → Prop
  | .register member _ _ | .remove member _ => (⟨s, member⟩ : Member).ruleName ∉ Access.ruleNames
  | .reconcile | .delete => False

variable {s : Scope} {j : Job} {q : LoadBalancer} {main : String} {others : List String}
  {c c' : Cloud}

/-- What a job makes of a pool does not depend on the order of its servers. -/
theorem pool_perm {pool pool' : List String} (h : pool.Perm pool') :
    (j.pool pool).Perm (j.pool pool') := by
  cases j with
  | register | remove => exact Member.enlisted_perm h
  | reconcile | delete => exact h

/-- What a sequence of jobs makes of a pool does not depend on the order of its servers. -/
theorem foldl_pool_perm (js : List Job) {pool pool' : List String} (h : pool.Perm pool') :
    (js.foldl (fun pool j => j.pool pool) pool).Perm
      (js.foldl (fun pool j => j.pool pool) pool') := by
  induction js generalizing pool pool' with
  | nil => exact h
  | cons j js ih => exact ih (pool_perm h)

/-- The job of a member leaves the rules that a run for the cluster ensures. -/
theorem contents_eq_id (hj : j.IsMembers s) {name : String} (hname : name ∈ Access.ruleNames) :
    j.contents s name = id := by
  have hruled : ∀ (m : Member) addresses, m.ruleName ∉ Access.ruleNames →
      Access.ruled (m.desiredRule addresses) name = id := by
    intro m addresses hm
    funext x
    refine if_neg fun heq : name = m.ruleName => hm ?_
    rw [← heq]
    exact hname
  cases j with
  | register => exact hruled _ _ hj
  | remove => exact hruled _ _ hj
  | reconcile | delete => exact hj.elim

/-- A member's job writes the same to all load balancers of a steady cloud. -/
theorem writes {u : Unit} (hj : j.IsMembers s) (h : Topology.Steady s q main others c)
    (hrun : (j.program s).Returns c u c') :
    Writes j.pool (j.contents s) (Topology.listedIds s q c) c c' := by
  cases j with
  | register member node addresses =>
    obtain ⟨bs, c1, hfind, hrest⟩ := returns_bind.1 hrun
    obtain ⟨rfl, rfl⟩ :=
      hfind.unique (Member.findBalancers_returns (m := ⟨s, member⟩) h.sound h.placed)
    obtain ⟨_, c2, hservers, hrules⟩ := returns_bind.1 hrest
    have hfirst := Member.ensureServers_writes (m := ⟨s, member⟩) h hservers
    -- After the servers the cloud is steady, so that the rules are written to the same load
    -- balancers.
    have hsteady := h.of_writes (h.sound.returns hservers) hfirst
      (fun _ _ => Member.enlisted_perm) fun _ _ => rfl
    have hlisted := hfirst.listed_eq s
    rw [← hlisted] at hrules
    have hsecond := Member.ensureRules_writes (m := ⟨s, member⟩) hsteady hrules
    unfold Topology.listedIds at hsecond
    rw [hlisted] at hsecond
    exact hfirst.comp hsecond
  | remove member node =>
    obtain ⟨found, c1, hfind, hrest⟩ := returns_bind.1 hrun
    obtain ⟨rfl, rfl⟩ := hfind.unique
      (returns_orNone_some.2 (Member.findBalancers_returns (m := ⟨s, member⟩) h.sound h.placed))
    obtain ⟨_, c2, hrules, hservers⟩ := returns_bind.1 hrest
    have hfirst := Member.ensureRules_writes (m := ⟨s, member⟩) h hrules
    -- Here the rules come first, and then the servers.
    have hsteady := h.of_writes (h.sound.returns hrules) hfirst (fun _ _ hperm => hperm)
      fun _ => contents_eq_id hj (j := .remove member node)
    have hlisted := hfirst.listed_eq s
    have hservers' : ((⟨s, member⟩ : Member).ensureServers (Secondary.listed s c2 ++ [q]) node
        true).Returns c2 u c' := by
      rw [hlisted]
      exact hservers
    have hsecond := Member.ensureServers_writes (m := ⟨s, member⟩) hsteady hservers'
    unfold Topology.listedIds at hsecond
    rw [hlisted] at hsecond
    exact hfirst.comp hsecond
  | reconcile | delete => exact hj.elim

end Job

/-- Jobs of members are run one after the other, and every one of these runs returns. -/
inductive MemberRuns (s : Scope) : List Job → Cloud → Cloud → Prop
  | none (c : Cloud) : MemberRuns s [] c c
  | more {j : Job} {js : List Job} {deadline : Option Seconds} {x x' : Session Cloud} {c : Cloud}
      (members : j.IsMembers s)
      (first : (j.program s).run Cloud.provider deadline x = (.ok (), x'))
      (rest : MemberRuns s js x'.world.store c) : MemberRuns s (j :: js) x.world.store c

/-- Every load balancer of the topology in the end has what the jobs of members, one after the
other, make of the pool and of the rules that the primary had at first. -/
structure Mirrors (s : Scope) (js : List Job) (c c' : Cloud) : Prop where
  primary : ∃ p, Topology.HasPrimary s p c'
  pools : ∀ p ∈ c'.balancers, Topology.IsPrimary s p → ∃ k, HasBackend c p.id k ∧
    ∀ b ∈ c'.balancers, Topology.InTopology s b → ∃ k', HasBackend c' b.id k' ∧
      k'.pool.Perm (js.foldl (fun pool j => j.pool pool) k.pool)
  rules : ∀ p ∈ c'.balancers, Topology.IsPrimary s p → ∃ f, HasFrontend c p.id f ∧
    ∀ b ∈ c'.balancers, Topology.InTopology s b → ∃ g, HasFrontend c' b.id g ∧
      ∀ name, Access.under c' g.id name =
        js.foldl (fun x j => j.contents s name x) (Access.under c f.id name)

namespace Topology

open Secondary (listed)

variable {s : Scope} {q : LoadBalancer} {main : String} {others : List String} {c c' : Cloud}
  {js : List Job}

/-- Runs of members write the same to all load balancers of a steady cloud, and leave it steady. -/
theorem Steady.memberRuns (h : Steady s q main others c) (hruns : MemberRuns s js c c') :
    Steady s q main others c' ∧ Writes (fun pool => js.foldl (fun pool j => j.pool pool) pool)
      (fun name x => js.foldl (fun x j => j.contents s name x) x) (listedIds s q c) c c' := by
  induction hruns with
  | none c =>
    refine ⟨h, rfl, fun id k hk => ?_, fun id g _ name => (ite_self _).symm⟩
    show HasBackend c id (if id ∈ listedIds s q c then k else k)
    rwa [ite_self]
  | @more j js deadline x x' c members first rest ih =>
    -- Only jobs of members run, and each leaves the topology steady for the next one.
    have hrun : (j.program s).Returns x.world.store () x'.world.store := by
      cases j with
      | register => exact Member.reconcile_orderly.returns first
      | remove => exact Member.delete_orderly.returns first
      | reconcile | delete => exact members.elim
    have hfirst := Job.writes members h hrun
    have hsteady := h.of_writes (h.sound.returns hrun) hfirst (fun _ _ => Job.pool_perm)
      fun _ => Job.contents_eq_id members
    obtain ⟨hlast, hwrites⟩ := ih hsteady
    unfold listedIds at hwrites
    rw [hfirst.listed_eq s] at hwrites
    exact ⟨hlast, hfirst.comp hwrites⟩

/-- On a steady cloud, member runs leave every load balancer of the topology as the primary. -/
theorem Steady.mirrors (h : Steady s q main others c) (hruns : MemberRuns s js c c') :
    Mirrors s js c c' := by
  obtain ⟨hlast, hwrites⟩ := h.memberRuns hruns
  have hbalancers : c'.balancers = c.balancers := by rw [hwrites.frame]
  -- The topology at the end is that of the start.
  have hlisted : ∀ b ∈ c'.balancers, InTopology s b → b = q ∨ b ∈ listed s c := by
    intro b hb htop
    rcases htop with hprimary | hsec
    · exact .inl (hlast.placed.primary.unique b hb hprimary)
    · exact .inr (Secondary.mem_listed.2 ⟨hbalancers ▸ hb, hsec⟩)
  constructor
  case primary => exact ⟨q, hlast.placed.primary⟩
  case pools =>
    obtain ⟨k, hk, _, hall⟩ := h.serves.pools
    intro p hp hprimary
    refine ⟨k, hlast.placed.primary.unique p hp hprimary ▸ hk, fun b hb htop => ?_⟩
    -- At the start every pool was the primary's up to order, and the same has become of it.
    have hhas : ∃ k', HasBackend c b.id k' ∧ k'.pool.Perm k.pool := by
      rcases hlisted b hb htop with rfl | hb'
      · exact ⟨k, hk, List.Perm.refl _⟩
      · obtain ⟨k', hk', _, hperm⟩ := hall b hb'
        exact ⟨k', hk', hperm⟩
    obtain ⟨k', hk', hperm⟩ := hhas
    have hchanged := hwrites.pools b.id k' hk'
    rw [if_pos (id_mem_listedIds (hlisted b hb htop))] at hchanged
    exact ⟨_, hchanged, Job.foldl_pool_perm js hperm⟩
  case rules =>
    obtain ⟨f, hf, _, _, hall⟩ := h.serves.rules
    intro p hp hprimary
    refine ⟨f, hlast.placed.primary.unique p hp hprimary ▸ hf, fun b hb htop => ?_⟩
    -- The same holds of the rules, name by name.
    have hhas : ∃ g, HasFrontend c b.id g ∧ Access.Agree (Access.rulesOf c f.id) c g.id := by
      rcases hlisted b hb htop with rfl | hb'
      · exact ⟨f, hf, RuleSpec.sameRules_refl _⟩
      · obtain ⟨g, hg, _, hagree⟩ := hall b hb'
        exact ⟨g, hg, hagree⟩
    obtain ⟨g, hg, hagree⟩ := hhas
    refine ⟨g, hwrites.hasFrontend hg, fun name => ?_⟩
    have hchanged := hwrites.rules b.id g hg name
    rw [if_pos (id_mem_listedIds (hlisted b hb htop))] at hchanged
    rw [hchanged, Access.agree_iff.1 hagree name]

/-- Writing members to every load balancer is writing them to the primary and copying its pool and
its rules: after a run for a cluster and any sequence of runs of members, every load balancer has
what the members have made of the primary's pool and rules, and a run for the cluster returns and
sends look-ups only. -/
theorem members_agree_with_copies {deadline deadline' : Option Seconds} {x x' y : Session Cloud}
    {u : Unit} (hc : x.world.store.Sound) (hrun : Repeatable s x.world.store)
    (h : (reconcile s).run Cloud.provider deadline x = (.ok u, x'))
    (hmembers : MemberRuns s js x'.world.store y.world.store) (hlive : y.Live deadline') :
    Mirrors s js x'.world.store y.world.store ∧
      ∃ y', (reconcile s).run Cloud.provider deadline' y = (.ok (), y') ∧
        y'.world.store = y.world.store ∧
        ∃ calls, y'.calls = y.calls ++ calls ∧ ∀ k ∈ calls, k.request.isMutation = false := by
  obtain ⟨q, main, _, hsteady⟩ := reconcile_steady hc hrun h
  obtain ⟨hlast, _⟩ := hsteady.memberRuns hmembers
  obtain ⟨y', hrun', hsame, hcalls, _⟩ := hlast.run hlive
  exact ⟨hsteady.mirrors hmembers, y', hrun', hsame, hcalls⟩

/-- On the sample cloud one member is registered and another one removed. -/
theorem sample_members_agree : ∃ x' c y', (reconcile (Sample.scope ["10.0.0.0/8"])).run
      Cloud.provider none (Sample.session Sample.cloud) = (.ok (), x') ∧
    MemberRuns (Sample.scope ["10.0.0.0/8"])
      [.register "cp-1" "10.1.0.9" ["51.15.3.4/32"], .remove "cp-0" "10.1.0.2"] x'.world.store c ∧
    Mirrors (Sample.scope ["10.0.0.0/8"])
      [.register "cp-1" "10.1.0.9" ["51.15.3.4/32"], .remove "cp-0" "10.1.0.2"] x'.world.store c ∧
    (reconcile (Sample.scope ["10.0.0.0/8"])).run Cloud.provider none (Sample.session c) =
      (.ok (), y') ∧ ∀ k ∈ y'.calls, k.request.isMutation = false := by
  let s := Sample.scope ["10.0.0.0/8"]
  let register : Job := .register "cp-1" "10.1.0.9" ["51.15.3.4/32"]
  let remove : Job := .remove "cp-0" "10.1.0.2"
  let first := (reconcile s).run Cloud.provider none (Sample.session Sample.cloud)
  let second := (register.program s).run Cloud.provider none (Sample.session first.2.world.store)
  let third := (remove.program s).run Cloud.provider none (Sample.session second.2.world.store)
  obtain ⟨_, x', h⟩ := Sample.exists_of_isOk (r := first) (by decide +kernel)
  obtain ⟨_, x2, h2⟩ := Sample.exists_of_isOk (r := second) (by decide +kernel)
  obtain ⟨_, x3, h3⟩ := Sample.exists_of_isOk (r := third) (by decide +kernel)
  have hx' : first.2 = x' := congrArg (·.2) h
  have hx2 : second.2 = x2 := congrArg (·.2) h2
  -- What the general theorem asks for: a cloud to repeat runs on, and members' jobs that return.
  have hrepeatable : Repeatable s Sample.cloud :=
    ⟨by decide +kernel, by decide +kernel, by decide +kernel, fun _ _ => nofun⟩
  have hregister : register.IsMembers s := by
    show _ ∉ Access.ruleNames
    decide +kernel
  have hremove : remove.IsMembers s := by
    show _ ∉ Access.ruleNames
    decide +kernel
  have hlast : MemberRuns s [remove] (Sample.session x2.world.store).world.store
      x3.world.store := by
    rw [← hx2]
    exact .more hremove h3 (.none _)
  have hruns : MemberRuns s [register, remove] (Sample.session x'.world.store).world.store
      x3.world.store := by
    rw [← hx']
    exact .more hregister h2 hlast
  have hlive : (Sample.session x3.world.store).Live none := rfl
  obtain ⟨hmirrors, y', hrun, _, calls, hcalls, hlookups⟩ :=
    members_agree_with_copies (y := Sample.session x3.world.store) Sample.cloud_sound hrepeatable h
      hruns hlive
  refine ⟨x', x3.world.store, y', h, hruns, hmirrors, hrun, fun k hk => hlookups k ?_⟩
  rw [hcalls] at hk
  exact hk

/-- Where a load balancer has two roles, a run for the cluster after that of a member migrates it
twice. -/
theorem members_disagree_with_two_roles :
    ¬∀ (s : Scope) (js : List Job) (x x' y : Session Cloud), x.world.store.Sound →
      s.site.zones.Nodup → (∀ d ∈ s.secondaries, d.type ≠ some "") →
      (∀ n, x.world.store.nextId ≤ n → ∀ a ∈ x.world.store.privateAddresses,
        a.holder ≠ some (Cloud.numbered "lb" n)) →
      (reconcile s).run Cloud.provider none x = (.ok (), x') →
      MemberRuns s js x'.world.store y.world.store → y.Live none →
      ∃ y', (reconcile s).run Cloud.provider none y = (.ok (), y') ∧
        ∃ calls, y'.calls = y.calls ++ calls ∧ ∀ k ∈ calls, k.request.isMutation = false := by
  intro hclaim
  let s := Sample.scope []
  let register : Job := .register "cp-0" "10.1.0.9" ["51.15.3.4"]
  let first := (reconcile s).run Cloud.provider none (Sample.session Sample.ambiguous)
  let second := (register.program s).run Cloud.provider none (Sample.session first.2.world.store)
  let third := (reconcile s).run Cloud.provider none (Sample.session second.2.world.store)
  obtain ⟨_, x', h⟩ := Sample.exists_of_isOk (r := first) (by decide +kernel)
  obtain ⟨_, x2, h2⟩ := Sample.exists_of_isOk (r := second) (by decide +kernel)
  -- The run after the registration changes something, though the cloud meets all that is asked.
  have hmutates : third.2.calls.any (·.request.isMutation) = true := by decide +kernel
  have hx' : first.2 = x' := congrArg (·.2) h
  have hx2 : second.2 = x2 := congrArg (·.2) h2
  have hregister : register.IsMembers s := by
    show _ ∉ Access.ruleNames
    decide +kernel
  have hruns : MemberRuns s [register] (Sample.session x'.world.store).world.store
      x2.world.store := by
    rw [← hx']
    exact .more hregister h2 (.none _)
  obtain ⟨y', hrun, calls, hcalls, hlookups⟩ := hclaim s [register]
    (Sample.session Sample.ambiguous) x' (Sample.session x2.world.store) Sample.ambiguous_sound
    (by decide +kernel) (by decide +kernel) (fun _ _ => nofun) h hruns rfl
  have hy' : third.2 = y' := by
    show ((reconcile s).run Cloud.provider none (Sample.session second.2.world.store)).2 = y'
    rw [hx2, hrun]
  rw [hy', hcalls, List.any_eq_true] at hmutates
  obtain ⟨k, hk, hmutation⟩ := hmutates
  exact Bool.false_ne_true ((hlookups k hk).symm.trans hmutation)

end Topology

end ControlPlane
