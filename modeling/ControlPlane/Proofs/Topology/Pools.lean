import ControlPlane.Proofs.Cloud.Effects
import ControlPlane.Proofs.Provider.Operations
import ControlPlane.Proofs.Topology.Steps

/-!
# What ensuring backends leaves

`HasBackend` says that a load balancer has exactly one backend under the name of the API server, and
which. Going through the load balancers preserves that, as a backend is only changed if its pool
differs from the primary's: what one step establishes for its load balancer holds at the end, also
where a load balancer is met twice.
-/

namespace ControlPlane

open Program hiding ofExcept
open Cloud (numbered)

/-- A request to look something up, or to make a backend or replace its pool. -/
def Request.IsPool : Request → Prop
  | .createBackend .. | .setServers .. => True
  | r => r.isMutation = false

namespace Topology

variable {s : Site} {c c' : Cloud} {b : LoadBalancer} {servers : List String}

/-! ## Backends -/

/-- The load balancer has one backend under the name of the API server. -/
def HasBackend (c : Cloud) (balancerId : String) (k : Backend) : Prop :=
  (c.backends.filter fun b =>
    decide (b.name = backendName) && decide (b.balancerId = balancerId)) = [k]

/-- The backend of a load balancer is of that load balancer. -/
theorem HasBackend.balancerId {balancerId : String} {k : Backend}
    (h : HasBackend c balancerId k) : k.balancerId = balancerId := by
  have hk := List.mem_singleton_self k
  rw [← h, List.mem_filter, Bool.and_eq_true, decide_eq_true_eq, decide_eq_true_eq] at hk
  exact hk.2.2

/-- The backend of a load balancer is one of the cloud's. -/
theorem HasBackend.mem {balancerId : String} {k : Backend} (h : HasBackend c balancerId k) :
    k ∈ c.backends := by
  have hk := List.mem_singleton_self k
  rw [← h] at hk
  exact List.mem_of_mem_filter hk

/-- A load balancer has at most one such backend. -/
theorem HasBackend.unique {balancerId : String} {k k' : Backend} (h : HasBackend c balancerId k)
    (h' : HasBackend c balancerId k') : k = k' :=
  List.singleton_inj.1 (h.symm.trans h')

/-- A new backend is the only one of a load balancer that had none. -/
theorem hasBackend_of_append {balancerId : String} {k : Backend} {next : Nat}
    (hnone : (c.backends.filter fun b =>
      decide (b.name = backendName) && decide (b.balancerId = balancerId)) = [])
    (hname : k.name = backendName) (hid : k.balancerId = balancerId) :
    HasBackend { c with backends := c.backends ++ [k], nextId := next } balancerId k := by
  show (c.backends ++ [k]).filter _ = _
  rw [List.filter_append, hnone]
  simp [hname, hid]

/-- A new backend changes nothing for the load balancers that it is not under. -/
theorem HasBackend.append {balancerId : String} {k new : Backend} {next : Nat}
    (h : HasBackend c balancerId k) (hnew : new.balancerId ≠ balancerId) :
    HasBackend { c with backends := c.backends ++ [new], nextId := next } balancerId k := by
  show (c.backends ++ [new]).filter _ = _
  rw [List.filter_append, h]
  simp [hnew]

/-- Changing a pool, the backends of a load balancer are found where they were. -/
theorem filter_changePool (c : Cloud) (balancerId id : String)
    (f : List String → List String) :
    (c.backends.map fun b => if b.id = id then { b with pool := f b.pool } else b).filter
        (fun b => decide (b.name = backendName) && decide (b.balancerId = balancerId)) =
      (c.backends.filter fun b =>
        decide (b.name = backendName) && decide (b.balancerId = balancerId)).map
          fun b => if b.id = id then { b with pool := f b.pool } else b := by
  have hkeys : ∀ b : Backend,
      (if b.id = id then { b with pool := f b.pool } else b).name = b.name ∧
      (if b.id = id then { b with pool := f b.pool } else b).balancerId = b.balancerId := by
    intro b
    split <;> exact ⟨rfl, rfl⟩
  rw [List.filter_map]
  refine congrArg _ (List.filter_congr fun b _ => ?_)
  show (_ && _) = _
  rw [(hkeys b).1, (hkeys b).2]

/-- The pool of the backend with an id changes, and of it alone. -/
theorem HasBackend.changePool {balancerId : String} {k : Backend} (h : HasBackend c balancerId k)
    (id : String) (f : List String → List String) :
    HasBackend { c with backends := c.backends.map fun b =>
        if b.id = id then { b with pool := f b.pool } else b } balancerId
      (if k.id = id then { k with pool := f k.pool } else k) := by
  refine (filter_changePool c balancerId id f).trans ?_
  rw [h, List.map_singleton]

/-- A backend after that is one from before, but for its pool. -/
theorem HasBackend.of_changePool {balancerId id : String} {k : Backend}
    {f : List String → List String}
    (h : HasBackend { c with backends := c.backends.map fun b =>
      if b.id = id then { b with pool := f b.pool } else b } balancerId k) :
    ∃ k0, HasBackend c balancerId k0 ∧
      k = if k0.id = id then { k0 with pool := f k0.pool } else k0 := by
  obtain ⟨k0, hk0, heq⟩ :=
    List.map_eq_singleton_iff.1 ((filter_changePool c balancerId id f).symm.trans h)
  exact ⟨k0, hk0, heq.symm⟩

/-- A look-up is a request of the pool phase. -/
theorem isPool_of_lookup (r : Request) (h : r.isMutation = false) : r.IsPool := by
  cases r <;> first
    | exact trivial
    | exact h

/-- Ensuring a backend changes backends only. -/
theorem ensureBackend_orderly {update : Bool} :
    (ensureBackend s b servers update).Orderly Request.IsPool := by
  obtain ⟨step, heq, hstep⟩ := ensureBackend_steps s b servers update
  rw [heq]
  refine (Site.findBackend_readOnly.orNone.mono isPool_of_lookup).bind fun found => ?_
  cases hstep found with
  | created hp | updated _ _ _ hp => exact hp ▸ Site.orderly_in_zone (orderly_request trivial)
  | kept _ _ hp => exact hp ▸ trivial

/-- Ensuring a backend: a load balancer without one gets one, one that has one keeps it, and its
pool is brought to the servers if that is asked for. -/
theorem ensureBackend_cases {update : Bool} {k : Backend} (hc : c.Sound)
    (h : (ensureBackend s b servers update).Returns c k c') :
    b.zone ∈ s.zones ∧
    (((c.backends.filter fun b' =>
        decide (b'.name = backendName) && decide (b'.balancerId = b.id)) = [] ∧
      k = ⟨numbered "backend" c.nextId, b.id, b.zone, backendName, serverPort,
        sortTexts servers⟩ ∧
      c' = { c with backends := c.backends ++ [k], nextId := c.nextId + 1 }) ∨
    (HasBackend c b.id k ∧ (update = true → k.pool.Perm servers) ∧ c' = c) ∨
    ∃ k0, HasBackend c b.id k0 ∧ update = true ∧ ¬k0.pool.Perm servers ∧
      k = { k0 with pool := sortTexts servers } ∧
      c' = { c with backends := c.backends.map fun b' =>
        if b'.id = k0.id then { b' with pool := sortTexts servers } else b' }) := by
  obtain ⟨step, heq, hstep⟩ := ensureBackend_steps s b servers update
  rw [heq] at h
  obtain ⟨found, c1, hfind, hrest⟩ := returns_bind.1 h
  obtain ⟨hzone, hfilter, rfl⟩ := Site.findBackend_returns.1 hfind
  refine ⟨hzone, ?_⟩
  cases hstep found with
  | created hp =>
    rw [hp] at hrest
    obtain ⟨_, hanswer⟩ := Site.change_returns.1 hrest
    obtain ⟨_, rfl, rfl⟩ := Cloud.createBackend_effect hanswer
    exact .inl ⟨hfilter, rfl, rfl⟩
  | updated k0 hupdate hdiffer hp =>
    have hk0 : HasBackend c1 b.id k0 := hfilter
    rw [hp] at hrest
    obtain ⟨_, hanswer⟩ := Site.setServers_returns.1 hrest
    obtain ⟨⟨old, hold, rfl⟩, hc'⟩ := Cloud.changePool_effect hanswer
    -- The pool is changed by the id, which is that of the backend that was found.
    have hself : old = k0 := hc.backends.eq_of_find? hk0.mem hold
    subst hself
    exact .inr (.inr ⟨old, hk0, hupdate, hdiffer, rfl, hc'⟩)
  | kept k0 hpool hp =>
    rw [hp] at hrest
    obtain ⟨rfl, rfl⟩ := returns_done.1 hrest
    exact .inr (.inl ⟨hfilter, hpool, rfl⟩)

/-- Where ensuring a backend succeeds, a backend that there was is the only one. -/
theorem hasBackend_of_mem {update : Bool} {k k0 : Backend} (hc : c.Sound)
    (h : (ensureBackend s b servers update).Returns c k c') (hk0 : k0 ∈ c.backends)
    (hname : k0.name = backendName) (hid : k0.balancerId = b.id) : HasBackend c b.id k0 := by
  have hmem : k0 ∈ c.backends.filter fun b' =>
      decide (b'.name = backendName) && decide (b'.balancerId = b.id) :=
    List.mem_filter.2 ⟨hk0, by simp [hname, hid]⟩
  have hself : ∀ k1, HasBackend c b.id k1 → HasBackend c b.id k0 := by
    intro k1 hk1
    have heq : k0 = k1 := by
      rw [HasBackend] at hk1
      rwa [hk1, List.mem_singleton] at hmem
    rwa [heq]
  obtain ⟨_, ⟨hnone, _⟩ | ⟨hk, _⟩ | ⟨k1, hk, _⟩⟩ := ensureBackend_cases hc h
  · rw [hnone] at hmem
    cases hmem
  · exact hself k hk
  · exact hself k1 hk

/-- Ensuring a backend leaves one, with the servers if that is asked for; and every other load
balancer keeps its own, as does this one if there is nothing to change. -/
theorem ensureBackend_spec {update : Bool} {k : Backend} (hc : c.Sound)
    (h : (ensureBackend s b servers update).Returns c k c') :
    b.zone ∈ s.zones ∧ HasBackend c' b.id k ∧ (update = true → k.pool.Perm servers) ∧
      ∀ id k0, HasBackend c id k0 → (id = b.id → update = true → k0.pool.Perm servers) →
        HasBackend c' id k0 := by
  obtain ⟨hzone, hcases⟩ := ensureBackend_cases hc h
  refine ⟨hzone, ?_⟩
  rcases hcases with ⟨hnone, rfl, hc'⟩ | ⟨hk, hpool, rfl⟩ | ⟨k0, hk0, hupdate, hne, rfl, hc'⟩
  -- A backend has been made.
  · rw [hc']
    refine ⟨hasBackend_of_append hnone rfl rfl, fun _ => sortTexts_perm servers, ?_⟩
    intro id k0 hk0 _
    refine hk0.append fun hid => ?_
    dsimp only at hid
    rw [HasBackend, ← hid, hnone] at hk0
    cases hk0
  -- There was nothing to do.
  · exact ⟨hk, hpool, fun id k0 hk0 _ => hk0⟩
  -- A pool has been changed.
  · have hset : ∀ id k1, HasBackend c id k1 →
        HasBackend c' id (if k1.id = k0.id then { k1 with pool := sortTexts servers } else k1) := by
      intro id k1 hk1
      rw [hc']
      exact hk1.changePool k0.id fun _ => sortTexts servers
    have hself := hset _ _ hk0
    rw [if_pos rfl] at hself
    refine ⟨hself, fun _ => sortTexts_perm servers, fun id k1 hk1 hpool => ?_⟩
    -- The backend that changes is under this load balancer, where there was something to change.
    have hother : k1.id ≠ k0.id := by
      intro hid
      have hsame : k1 = k0 := hc.backends.inj hk1.mem hk0.mem hid
      subst hsame
      exact hne (hpool (hk1.balancerId.symm.trans hk0.balancerId) hupdate)
    have hk1' := hset _ _ hk1
    rwa [if_neg hother] at hk1'

/-- Copying a pool to load balancers sends look-ups and changes of pools. -/
theorem copyPool_orderly {bs : List LoadBalancer} :
    (copyPool s servers bs).Orderly Request.IsPool := by
  rw [copyPool_eq]
  exact (orderly_closed Request.IsPool).mapM' fun b _ => ensureBackend_orderly

/-- Copying a pool gives it to every load balancer, and changes no backend that has it. -/
theorem copyPool_spec {bs : List LoadBalancer} {ks : List Backend} (hc : c.Sound)
    (h : (copyPool s servers bs).Returns c ks c') :
    (∀ b ∈ bs, b.zone ∈ s.zones ∧ ∃ k ∈ ks, HasBackend c' b.id k ∧ k.pool.Perm servers) ∧
      (∀ k ∈ ks, ∃ b ∈ bs, HasBackend c' b.id k) ∧
      ∀ id k, HasBackend c id k → k.pool.Perm servers → HasBackend c' id k := by
  rw [copyPool_eq] at h
  induction bs generalizing c ks with
  | nil =>
    obtain ⟨rfl, rfl⟩ := returns_done.1 h
    exact ⟨nofun, nofun, fun _ _ hk _ => hk⟩
  | cons b rest ih =>
    obtain ⟨k, c1, hk, hrest⟩ := returns_bind.1 h
    obtain ⟨more, c2, hmore, hdone⟩ := returns_bind.1 hrest
    obtain ⟨rfl, rfl⟩ := returns_done.1 hdone
    obtain ⟨hzone, hhas, hpool, hkeep⟩ := ensureBackend_spec hc hk
    obtain ⟨hbs, hks, hkeep'⟩ := ih (hc.returns hk) hmore
    -- The backend of the first one has the pool now, so that the rest leaves it alone.
    have hhas' : HasBackend c' b.id k := hkeep' _ _ hhas (hpool rfl)
    refine ⟨?_, ?_, fun id k0 hk0 hperm => hkeep' _ _ (hkeep _ _ hk0 fun _ _ => hperm) hperm⟩
    · rintro x (_ | ⟨_, hx⟩)
      · exact ⟨hzone, k, List.mem_cons_self, hhas', hpool rfl⟩
      · obtain ⟨hxzone, k', hk', hhask'⟩ := hbs x hx
        exact ⟨hxzone, k', List.mem_cons_of_mem _ hk', hhask'⟩
    · rintro x (_ | ⟨_, hx⟩)
      · exact ⟨b, List.mem_cons_self, hhas'⟩
      · obtain ⟨b', hb', hhasb'⟩ := hks x hx
        exact ⟨b', List.mem_cons_of_mem _ hb', hhasb'⟩

/-- The backend phase sends look-ups and changes of pools. -/
theorem ensureBackends_orderly {bs : List LoadBalancer} :
    (ensureBackends s b bs).Orderly Request.IsPool := by
  unfold ensureBackends
  exact ensureBackend_orderly.bind fun _ => copyPool_orderly.bind fun _ => trivial

/-- Ensuring the backends of a primary and its secondaries: the primary's comes first. If there was
one, it is as it was. The others have the same servers. -/
theorem ensureBackends_spec {bs : List LoadBalancer} {ks : List Backend} (hc : c.Sound)
    (h : (ensureBackends s b bs).Returns c ks c') :
    ∃ k more, ks = k :: more ∧ HasBackend c' b.id k ∧
      (∀ k0 ∈ c.backends, k0.name = backendName → k0.balancerId = b.id → k0 = k) ∧
      (∀ x ∈ b :: bs, x.zone ∈ s.zones ∧
        ∃ k' ∈ ks, HasBackend c' x.id k' ∧ k'.pool.Perm k.pool) ∧
      ∀ k' ∈ ks, ∃ x ∈ b :: bs, HasBackend c' x.id k' := by
  unfold ensureBackends at h
  obtain ⟨k, c1, hk, hrest⟩ := returns_bind.1 h
  obtain ⟨more, c2, hmore, hdone⟩ := returns_bind.1 hrest
  obtain ⟨rfl, rfl⟩ := returns_done.1 hdone
  obtain ⟨hzone, hhas, _, hkeep⟩ := ensureBackend_spec hc hk
  obtain ⟨hbs, hks, hkeep'⟩ := copyPool_spec (hc.returns hk) hmore
  -- The primary's own pool has its order already, and so copying it leaves it alone.
  have hhas' : HasBackend c' b.id k := hkeep' _ _ hhas (List.Perm.refl _)
  have hkept : ∀ k0 ∈ c.backends, k0.name = backendName → k0.balancerId = b.id → k0 = k := by
    intro k0 hk0 hname hid
    have hfirst : HasBackend c b.id k0 := hasBackend_of_mem hc hk hk0 hname hid
    exact (hkeep _ _ hfirst nofun).unique hhas
  refine ⟨k, more, rfl, hhas', hkept, ?_, ?_⟩
  · rintro x (_ | ⟨_, hx⟩)
    · exact ⟨hzone, k, List.mem_cons_self, hhas', List.Perm.refl _⟩
    · obtain ⟨hxzone, k', hk', hhask'⟩ := hbs x hx
      exact ⟨hxzone, k', List.mem_cons_of_mem _ hk', hhask'⟩
  · rintro x (_ | ⟨_, hx⟩)
    · exact ⟨b, List.mem_cons_self, hhas'⟩
    · obtain ⟨b', hb', hhasb'⟩ := hks x hx
      exact ⟨b', List.mem_cons_of_mem _ hb', hhasb'⟩

/-- Ensuring backends changes nothing but backends. -/
theorem changes_backends {α : Type} {p : Program α} {a : α} (hp : p.Orderly Request.IsPool)
    (h : p.Returns c a c') : c' = { c with backends := c'.backends, nextId := c'.nextId } := by
  refine hp.changes (R := fun c c' =>
    c' = { c with backends := c'.backends, nextId := c'.nextId }) h (fun _ => rfl) ?_ ?_
  · intro c c1 c2 h1 h2
    rw [h2, h1]
  · intro r c v c' hr hv
    cases r with
    | createBackend =>
      obtain ⟨_, rfl, rfl⟩ := Cloud.createBackend_effect hv
      rfl
    | setServers zone backendId servers =>
      have hv' : c.changePool backendId (fun _ => servers) = (.ok v, c') := hv
      rw [(Cloud.changePool_effect hv').2]
    | listBalancers | listAddresses | listBackends | listFrontends | listRules | listAttachments
    | listPrivateAddresses | listGateways => cases hv; rfl
    | createBalancer | migrateBalancer | deleteBalancer | addServer | removeServer | createFrontend
    | createRule | updateRule | deleteRule | setRules | attach => cases hr

end Topology

end ControlPlane
