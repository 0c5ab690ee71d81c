import ControlPlane.Proofs.Access.Comparison
import ControlPlane.Proofs.Provider.Walks
import ControlPlane.Member

/-!
# The steps of ensuring a topology

Each part of a topology is looked for, and what is done then depends on what is found.
`PrimaryStep`, `AttachStep`, `BackendStep`, `FrontendStep` and `ServerStep` say what follows each
finding, and when, and the theorems after them that nothing else does. How a secondary is created or
updated depends on what is declared for it (`CreateStep`, `UpdateStep`). What is done to all load
balancers is a walk through a list (`attachAll_eq`, `copyPool_eq`, `ensureFrontends_eq`,
`eachLive_eq`). Whatever is proved of these functions is proved along their steps.
-/

namespace ControlPlane

open Program hiding ofExcept

namespace Topology

/-! ## Attachments -/

/-- The programs that attaching a load balancer goes on with, by the attachment that was found. -/
inductive AttachStep (s : Site) (networkId : String) (known : Option (List PrivateAddress))
    (b : LoadBalancer) (p : Program (Option (List PrivateAddress))) :
    (found : Option Attachment) → Prop
  | attached (a : Attachment) (hp : p = done known) : AttachStep s networkId known b p (some a)
  | missing (hp : p = pinnedAddressId networkId b known >>= fun r =>
      s.attach b.zone b.id networkId r.1 >>= fun _ => done r.2) :
    AttachStep s networkId known b p none

/-- Attaching a load balancer looks for its attachment and then takes one step. -/
theorem attachOne_steps (s : Site) (networkId : String) (known : Option (List PrivateAddress))
    (b : LoadBalancer) :
    ∃ step : Option Attachment → Program (Option (List PrivateAddress)),
      attachOne s networkId known b = (s.findAttachment b.zone b.id networkId).orNone >>= step ∧
        ∀ found, AttachStep s networkId known b (step found) found := by
  refine ⟨_, rfl, fun found => ?_⟩
  cases found with
  | some a => exact .attached a rfl
  | none => exact .missing rfl

/-- Load balancers are attached one after the other, and what is known is handed on. -/
theorem attachAll_eq (s : Site) (networkId : String) (known : Option (List PrivateAddress))
    (bs : List LoadBalancer) :
    attachAll s networkId known bs = discard (bs.foldlM (attachOne s networkId) known) := by
  induction bs generalizing known with
  | nil => rfl
  | cons b rest ih =>
    calc attachAll s networkId known (b :: rest)
        = attachOne s networkId known b >>= fun known => attachAll s networkId known rest := rfl
      _ = attachOne s networkId known b >>= fun known =>
            discard (rest.foldlM (attachOne s networkId) known) := by simp only [ih]
      _ = discard ((b :: rest).foldlM (attachOne s networkId) known) := by
        rw [List.foldlM_cons]
        exact (bind_assoc _ _ _).symm

/-! ## Private addresses -/

/-- The programs that finding out the private addresses is, by the load balancers without one. -/
inductive ResolveStep (networkId : String) (bs : List LoadBalancer)
    (p : Program (List LoadBalancer)) : Prop
  | resolved (hnone : unresolved bs = []) (hp : p = done bs)
  | listed (hsome : unresolved bs ≠ [])
    (hp : p = Site.heldAddresses networkId (unresolved bs) >>= fun held =>
      .ofExcept (resolveAll held bs))

/-- Finding out the private addresses takes one step. -/
theorem resolveHeld_steps (networkId : String) (bs : List LoadBalancer) :
    ResolveStep networkId bs (resolveHeld networkId bs) := by
  unfold resolveHeld
  split
  · next hnone => exact .resolved hnone rfl
  · next hsome => exact .listed hsome rfl

/-- Without a private network there is nothing to ensure. -/
theorem ensurePrivateNetwork_of_none {s : Scope} (h : s.privateNetworkId = none)
    (bs : List LoadBalancer) : ensurePrivateNetwork s bs = done bs := by
  unfold ensurePrivateNetwork
  rw [h]
  rfl

/-- All load balancers are attached to a private network before their addresses are found out. -/
theorem ensurePrivateNetwork_of_some {s : Scope} {networkId : String}
    (h : s.privateNetworkId = some networkId) (bs : List LoadBalancer) :
    ensurePrivateNetwork s bs =
      attachAll s.site networkId none bs >>= fun _ => resolveHeld networkId bs := by
  unfold ensurePrivateNetwork
  rw [h]

/-! ## Backends -/

/-- The programs that ensuring a backend goes on with, by the backend that was found. -/
inductive BackendStep (s : Site) (b : LoadBalancer) (servers : List String) (update : Bool)
    (p : Program Backend) : (found : Option Backend) → Prop
  | created (hp : p = s.createBackend b.zone b.id backendName (sortTexts servers) serverPort) :
    BackendStep s b servers update p none
  | updated (k : Backend) (hupdate : update = true) (hdiffer : ¬k.pool.Perm servers)
    (hp : p = s.setServers b.zone k.id (sortTexts servers)) :
    BackendStep s b servers update p (some k)
  | kept (k : Backend) (hpool : update = true → k.pool.Perm servers) (hp : p = done k) :
    BackendStep s b servers update p (some k)

/-- Ensuring a backend looks for it and then takes one step. -/
theorem ensureBackend_steps (s : Site) (b : LoadBalancer) (servers : List String) (update : Bool) :
    ∃ step : Option Backend → Program Backend,
      ensureBackend s b servers update =
          (s.findBackend b.zone b.id backendName).orNone >>= step ∧
        ∀ found, BackendStep s b servers update (step found) found := by
  refine ⟨_, rfl, fun found => ?_⟩
  cases found with
  | none => exact .created rfl
  | some k =>
    dsimp only
    split
    · -- Pools are compared sorted, so they differ only where one is no rearrangement of the other.
      next hupdate =>
      rw [Bool.and_eq_true, decide_eq_true_eq] at hupdate
      obtain ⟨htrue, hdiffer⟩ := hupdate
      exact .updated k htrue (fun hperm => hdiffer (sortTexts_eq_of_perm hperm.symm)) rfl
    · next hupdate =>
      refine .kept k (fun htrue => ?_) rfl
      rw [htrue, Bool.true_and, decide_eq_true_eq, not_not] at hupdate
      exact (sortTexts_eq_iff.1 hupdate).symm

/-- A pool is copied to load balancers one after the other. -/
theorem copyPool_eq (s : Site) (servers : List String) (bs : List LoadBalancer) :
    copyPool s servers bs = bs.mapM' fun b => ensureBackend s b servers true := by
  induction bs with
  | nil => rfl
  | cons b rest ih =>
    unfold copyPool
    rw [ih]
    rfl

/-! ## Frontends -/

/-- The programs that ensuring a frontend goes on with, by the frontend that was found. -/
inductive FrontendStep (s : Scope) (k : Backend) (p : Program Frontend) :
    (found : Option Frontend) → Prop
  | created
    (hp : p = s.site.createFrontend k.zone k.balancerId frontendName k.id s.apiServerPort) :
    FrontendStep s k p none
  | kept (f : Frontend) (hp : p = checkPort f s.apiServerPort >>= fun _ => done f) :
    FrontendStep s k p (some f)

/-- Ensuring a frontend looks for it and then takes one step. -/
theorem ensureFrontend_steps (s : Scope) (k : Backend) :
    ∃ step : Option Frontend → Program Frontend,
      ensureFrontend s k = (s.site.findFrontend k.zone k.balancerId frontendName).orNone >>= step ∧
        ∀ found, FrontendStep s k (step found) found := by
  refine ⟨_, rfl, fun found => ?_⟩
  cases found with
  | none => exact .created rfl
  | some f => exact .kept f rfl

/-- Frontends are ensured one after the other, and the map of them is handed on. -/
theorem ensureFrontends_eq (s : Scope) (known : FrontendMap) (ks : List Backend) :
    ensureFrontends s known ks =
      ks.foldlM (fun m k => (fun f => m.put k.balancerId f) <$> ensureFrontend s k) known := by
  induction ks generalizing known with
  | nil => rfl
  | cons k rest ih =>
    rw [List.foldlM_cons, map_eq_bind, bind_assoc]
    exact congrArg (ensureFrontend s k >>= ·) (funext fun f => ih _)

/-! ## The primary -/

/-- The programs that ensuring the primary goes on with, by the load balancer that was found. -/
inductive PrimaryStep (s : Scope) (zone type : String) (p : Program LoadBalancer) :
    (found : Option LoadBalancer) → Prop
  | pinned (address : String) (haddress : s.primary.address = some address)
    (hp : p = findAddressId s.site zone address >>= fun addressId =>
      s.site.createBalancer zone (s.resourceName []) type (some addressId) (primaryTags s)
        s.balancersPrivate >>= fun b =>
      done { b with privateAddress := s.primary.privateAddress }) :
    PrimaryStep s zone type p none
  | created (haddress : s.primary.address = none)
    (hp : p = s.site.createBalancer zone (s.resourceName []) type none (primaryTags s)
        s.balancersPrivate >>= fun b =>
      done { b with privateAddress := s.primary.privateAddress }) :
    PrimaryStep s zone type p none
  | kept (b : LoadBalancer) (htype : sameType b.type type = true)
    (hp : p = done { b with privateAddress := s.primary.privateAddress }) :
    PrimaryStep s zone type p (some b)
  | migrated (b : LoadBalancer) (htype : ¬sameType b.type type = true)
    (hp : p = s.site.migrateBalancer zone b.id type >>= fun b =>
      done { b with privateAddress := s.primary.privateAddress }) :
    PrimaryStep s zone type p (some b)

/-- Ensuring the primary looks for it in the declared zone and then takes one step. -/
theorem ensurePrimary_steps (s : Scope) :
    ∃ step : String × String → Option LoadBalancer → Program LoadBalancer,
      (ensurePrimary s = .ofExcept (s.primary.resolve s.site.region) >>= fun zt =>
        (s.site.findBalancer zt.1 (primaryTags s)).orNone >>= step zt) ∧
      ∀ zt found, PrimaryStep s zt.1 zt.2 (step zt found) found := by
  refine ⟨_, rfl, fun zt found => ?_⟩
  cases found with
  | none =>
    dsimp only
    split
    · next address haddress =>
      refine .pinned address haddress ?_
      rw [map_eq_bind, bind_assoc]
      rfl
    · next haddress => exact .created haddress rfl
  | some b =>
    dsimp only
    split
    · next htype => exact .kept b htype rfl
    · next htype => exact .migrated b htype rfl

/-- The programs that deleting the primary goes on with, by the load balancer that was found. -/
inductive DeletePrimaryStep (s : Scope) (zone : String) (p : Program Unit) :
    (found : Option LoadBalancer) → Prop
  | gone (hp : p = done ()) : DeletePrimaryStep s zone p none
  | deleted (b : LoadBalancer) (hp : p = s.site.deleteBalancer zone b.id (s.primary.address = none)) :
    DeletePrimaryStep s zone p (some b)

/-- Deleting the primary does nothing where its declaration does not resolve to a zone. -/
theorem deletePrimary_of_error {s : Scope} {e : Failure}
    (h : s.primary.resolve s.site.region = .error e) : deletePrimary s = done () := by
  unfold deletePrimary
  rw [h]
  rfl

/-- Deleting the primary looks for it in the declared zone and then takes one step. -/
theorem deletePrimary_steps {s : Scope} {zt : String × String}
    (h : s.primary.resolve s.site.region = .ok zt) :
    ∃ step : Option LoadBalancer → Program Unit,
      deletePrimary s = (s.site.findBalancer zt.1 (primaryTags s)).orNone >>= step ∧
        ∀ found, DeletePrimaryStep s zt.1 (step found) found := by
  unfold deletePrimary
  rw [h]
  refine ⟨_, rfl, fun found => ?_⟩
  cases found with
  | none => exact .gone rfl
  | some b => exact .deleted b rfl

end Topology

/-! ## Secondaries -/

namespace Secondary

/-- The programs that creating a secondary goes on with, by the address that is declared for it. -/
inductive CreateStep (s : Scope) (zone name type : String) (d : BalancerSpec)
    (p : Program LoadBalancer) : Prop
  | pinned (address : String) (haddress : d.address = some address)
    (hp : p = findAddressId s.site zone address >>= fun addressId =>
      s.site.createBalancer zone name type (some addressId) (tags s) s.balancersPrivate >>= fun b =>
        done { b with privateAddress := d.privateAddress })
  | managed (haddress : d.address = none)
    (hp : p = s.site.createBalancer zone name type none (tags s ++ [Tag.managedAddress])
        s.balancersPrivate >>= fun b =>
      done { b with privateAddress := d.privateAddress })

/-- Creating a secondary resolves its type and then takes one step. -/
theorem create_steps (s : Scope) (zone name : String) (d : BalancerSpec) :
    ∃ step : String × String → Program LoadBalancer,
      create s zone name d = .ofExcept (d.resolve s.site.region) >>= step ∧
        ∀ zt, CreateStep s zone name zt.2 d (step zt) := by
  refine ⟨_, rfl, fun zt => ?_⟩
  dsimp only
  split
  · next address haddress => exact .pinned address haddress rfl
  · next haddress => exact .managed haddress rfl

/-- The programs that updating a secondary is, by the type that is declared for it. -/
inductive UpdateStep (s : Scope) (b : LoadBalancer) (d : BalancerSpec) (p : Program LoadBalancer) :
    Prop
  | kept (htype : ∀ t, d.type = some t → sameType t b.type = true)
    (hp : p = done { b with privateAddress := d.privateAddress })
  | migrated (t : String) (htype : d.type = some t) (hdiffer : ¬sameType t b.type = true)
    (hp : p = s.site.migrateBalancer b.zone b.id t >>= fun b =>
      done { b with privateAddress := d.privateAddress })

/-- Updating a secondary takes one step. -/
theorem update_steps (s : Scope) (b : LoadBalancer) (d : BalancerSpec) :
    UpdateStep s b d (update s b d) := by
  unfold update
  cases htype : d.type with
  | none => exact .kept (fun t ht => nomatch htype.symm.trans ht) rfl
  | some t =>
    dsimp only
    split
    · next hsame => exact .kept (fun t' ht' => Option.some.inj (htype.symm.trans ht') ▸ hsame) rfl
    · next hdiffer => exact .migrated t htype hdiffer rfl

end Secondary

/-! ## Members -/

namespace Member

/-- The programs that ensuring a server goes on with, by the backend that was found. -/
inductive ServerStep (s : Site) (node : String) (deletion : Bool) (b : LoadBalancer) (k : Backend)
    (p : Program Unit) : Prop
  | removed (hdeletion : deletion = true) (hmem : node ∈ k.pool)
    (hp : p = s.removeServer b.zone k.id node)
  | added (hdeletion : deletion = false) (hnone : node ∉ k.pool)
    (hp : p = s.addServer b.zone k.id node)
  | kept (hpool : node ∈ k.pool ↔ deletion = false) (hp : p = done ())

/-- Ensuring a server looks for the backend and then takes one step. -/
theorem ensureServer_steps (s : Site) (node : String) (deletion : Bool) (b : LoadBalancer) :
    ∃ step : Backend → Program Unit,
      ensureServer s node deletion b =
          s.findBackend b.zone b.id Topology.backendName >>= step ∧
        ∀ k, ServerStep s node deletion b k (step k) := by
  refine ⟨_, rfl, fun k => ?_⟩
  by_cases hmem : node ∈ k.pool
  · cases deletion with
    | true => exact .removed rfl hmem (if_pos (by simpa using hmem))
    | false =>
      exact .kept (iff_of_true hmem rfl) (by simp [hmem])
  · cases deletion with
    | true =>
      exact .kept (iff_of_false hmem nofun) (by simp [hmem])
    | false => exact .added rfl hmem (by simp [hmem])

section

variable {act : LoadBalancer → Program Unit} {b : LoadBalancer} {bs : List LoadBalancer}

/-- A load balancer that is not being deleted is acted on before the others. -/
theorem eachLive_cons_of_live (h : b.status ≠ .deleting) :
    eachLive act (b :: bs) = act b >>= fun _ => eachLive act bs :=
  if_pos h

/-- A load balancer that is being deleted is passed by. -/
theorem eachLive_cons_of_deleting (h : ¬b.status ≠ .deleting) :
    eachLive act (b :: bs) = eachLive act bs :=
  if_neg h

end

/-- Load balancers are acted on one after the other, but for those that are being deleted. -/
theorem eachLive_eq (act : LoadBalancer → Program Unit) (bs : List LoadBalancer) :
    eachLive act bs = (bs.filter (·.status ≠ .deleting)).forM act := by
  induction bs with
  | nil => rfl
  | cons b rest ih =>
    by_cases h : b.status ≠ .deleting
    · rw [eachLive_cons_of_live h, ih, List.filter_cons_of_pos (by simpa using h)]
      rfl
    · rw [eachLive_cons_of_deleting h, ih, List.filter_cons_of_neg (by simpa using h)]

end Member

end ControlPlane
