import ControlPlane.Proofs.Provider.Care
import ControlPlane.Proofs.Text.ZoneNames
import ControlPlane.Proofs.Topology.Interruption

/-!
# Everything that is run for a cluster asks with care

The operations of a site are careful, and so are the reconcilers that are put together from them, up
to the four jobs of a cluster and the turns of its control loop (`Job.program_careful`,
`Job.turn_careful`). Two statements about runs against any provider follow. Requests stay in the
region (`Job.stays_in_region`). And it makes no difference how much a provider lists beyond what it
was asked for (`Job.extras_make_no_difference`).
-/

namespace ControlPlane

open Program hiding ofExcept

variable {σ : Type} {network : Option String}

/-! ## Secondaries -/

/-- Finding the id of an address is careful. -/
theorem findAddressId_careful {s : Site} {zone address : String} :
    (findAddressId s zone address).Careful s network := by
  refine (Site.findAddress_careful.handle fun e => ?_).map _
  split <;> trivial

namespace Secondary

variable {s : Scope} {b : LoadBalancer} {d : BalancerSpec}

/-- Deciding whether a load balancer is kept is careful. -/
theorem keeps_careful : (keeps s b d).Careful s.site network := by
  unfold keeps privateAddressFits
  split
  · split
    · exact Site.heldAddresses_careful.bind fun _ => trivial
    · trivial
  · trivial

/-- Creating a secondary is careful. -/
theorem create_careful {zone name : String} : (create s zone name d).Careful s.site network := by
  obtain ⟨step, heq, hstep⟩ := create_steps s zone name d
  rw [heq]
  refine (careful_ofExcept _).bind fun zt => ?_
  cases hstep zt with
  | pinned address _ hp =>
    rw [hp]
    refine findAddressId_careful.bind fun _ => ?_
    exact (Site.careful_change rfl rfl fun _ => rfl).bind fun _ => trivial
  | managed _ hp => exact hp ▸ (Site.careful_change rfl rfl fun _ => rfl).bind fun _ => trivial

/-- Updating one is careful. -/
theorem update_careful : (update s b d).Careful s.site network := by
  cases update_steps s b d with
  | kept _ hp => exact hp ▸ trivial
  | migrated t _ _ hp => exact hp ▸ (Site.careful_change rfl rfl fun _ => rfl).bind fun _ => trivial

/-- Deleting one is careful. -/
theorem delete_careful : (delete s b).Careful s.site network :=
  Site.careful_change rfl rfl fun _ => rfl

/-- Deciding about all secondaries that are listed is careful. -/
theorem retain_careful {wanted : List (String × List BalancerSpec)} {taken : List (String × String)}
    {live : List LoadBalancer} :
    ((reconciler s).retain wanted taken live).Careful s.site network := by
  induction live generalizing taken with
  | nil => trivial
  | cons b rest ih =>
    rw [retain_cons]
    split
    · exact delete_careful.bind fun _ => ih
    · refine keeps_careful.bind fun kept => ?_
      split
      · exact update_careful.bind fun _ => ih.bind fun _ => trivial
      · exact delete_careful.bind fun _ => ih

/-- Creating the secondaries that are missing is careful. -/
theorem createMissing_careful {taken : List (String × String)}
    {targets : List (String × String × BalancerSpec)} :
    ((reconciler s).createMissing taken targets).Careful s.site network := by
  rw [Reconciler.createMissing_eq]
  exact (careful_closed s.site network).mapM' fun _ _ => create_careful

/-- Ensuring the secondaries is careful. -/
theorem ensure_careful {desired : List BalancerSpec} : (ensure s desired).Careful s.site network := by
  rw [ensure_eq]
  split
  · trivial
  · refine Site.findBalancers_careful.bind fun _ => ?_
    exact retain_careful.bind fun _ => createMissing_careful.bind fun _ => trivial

end Secondary

/-! ## Rules -/

namespace Access

variable {s : Site} {f : Frontend}

/-- Ensuring a rule is careful. -/
theorem ensureRule_careful {d : DesiredRule} : (ensureRule s f d).Careful s network := by
  obtain ⟨step, heq, hstep⟩ := ensureRule_steps s f d
  rw [heq]
  refine Site.findRule_careful.orNone.bind fun existing => ?_
  cases hstep existing with
  | removed r _ hp => exact hp ▸ Site.careful_change rfl rfl fun _ => rfl
  | absent _ hp | kept _ _ _ hp => exact hp ▸ trivial
  | created _ hp => exact hp ▸ Site.createRule_careful.discard
  | replaced r _ _ hp => exact hp ▸ Site.updateRule_careful.discard

/-- Finding out which rules are desired is careful, wherever the gateways are. -/
theorem desiredRules_careful {s : Scope} : (desiredRules s).Careful s.site network := by
  unfold desiredRules gatewayAddresses
  refine Careful.bind ?_ fun _ => trivial
  split
  · exact Site.findGateways_careful.bind fun _ => trivial
  · trivial

/-- Ensuring several rules is careful. -/
theorem ensureRules_careful {ds : List DesiredRule} : (ensureRules s f ds).Careful s network := by
  rw [ensureRules_eq]
  exact (careful_closed s network).forM fun _ _ => ensureRule_careful

/-- Copying rules to a frontend is careful. -/
theorem copyTo_careful {rules : List Rule} : (copyTo s rules f).Careful s network := by
  obtain ⟨step, heq, hstep⟩ := copyTo_steps s rules f
  rw [heq]
  refine Site.listRules_careful.bind fun others => ?_
  cases hstep others with
  | agreed _ hp => exact hp ▸ trivial
  | copied _ hp => exact hp ▸ (Site.careful_change rfl rfl fun _ => rfl).discard

/-- Copying rules to all frontends but the primary's is careful. -/
theorem copyRules_careful {primaryId : String} {rules : List Rule} {m : FrontendMap} :
    (copyRules s primaryId rules m).Careful s network := by
  rw [copyRules_eq]
  exact (careful_closed s network).forM fun _ _ => copyTo_careful

/-- Spreading the rules of the primary is careful. -/
theorem spread_careful {primaryId : String} {m : FrontendMap} :
    (spread s primaryId f m).Careful s network := by
  cases spread_steps s primaryId f m with
  | alone _ hp => exact hp ▸ trivial
  | copied _ hp => exact hp ▸ Site.listRules_careful.bind fun _ => copyRules_careful

/-- The rules phase is careful. -/
theorem sync_careful {s : Scope} {primaryId : String} {m : FrontendMap} :
    (sync s primaryId m).Careful s.site network := by
  cases hf : m.lookup primaryId with
  | none => exact sync_of_none hf ▸ trivial
  | some f =>
    rw [sync_of_some hf]
    exact desiredRules_careful.bind fun _ => ensureRules_careful.bind fun _ => spread_careful

end Access

/-! ## The topology -/

namespace Topology

variable {s : Scope} {b : LoadBalancer} {bs : List LoadBalancer}

/-- Ensuring the primary is careful. -/
theorem ensurePrimary_careful : (ensurePrimary s).Careful s.site network := by
  obtain ⟨step, heq, hstep⟩ := ensurePrimary_steps s
  rw [heq]
  refine (careful_ofExcept _).bind fun zt => Site.findBalancer_careful.orNone.bind fun found => ?_
  cases hstep zt found with
  | pinned address _ hp =>
    rw [hp]
    refine findAddressId_careful.bind fun _ => ?_
    exact (Site.careful_change rfl rfl fun _ => rfl).bind fun _ => trivial
  | created _ hp => exact hp ▸ (Site.careful_change rfl rfl fun _ => rfl).bind fun _ => trivial
  | kept b _ hp => exact hp ▸ trivial
  | migrated b _ hp => exact hp ▸ (Site.careful_change rfl rfl fun _ => rfl).bind fun _ => trivial

/-- Looking up a pinned private address is careful. -/
theorem pinnedAddressId_careful {site : Site} {networkId : String}
    {known : Option (List PrivateAddress)} :
    (pinnedAddressId networkId b known).Careful site network := by
  unfold pinnedAddressId
  split
  · trivial
  · refine Careful.bind ?_ fun available => ?_
    · unfold availableOnce
      split
      · trivial
      · exact Site.availableAddresses_careful
    · split <;> trivial

/-- Attaching a load balancer is careful, with attachments to that network asked for. -/
theorem attachOne_careful {site : Site} {networkId : String}
    {known : Option (List PrivateAddress)} :
    (attachOne site networkId known b).Careful site (some networkId) := by
  obtain ⟨step, heq, hstep⟩ := attachOne_steps site networkId known b
  rw [heq]
  refine Site.findAttachment_careful.orNone.bind fun found => ?_
  cases hstep found with
  | attached a hp => exact hp ▸ trivial
  | missing hp =>
    rw [hp]
    refine pinnedAddressId_careful.bind fun r => ?_
    exact (Site.careful_change rfl rfl fun _ => rfl).bind fun _ => trivial

/-- Attaching several load balancers is careful, with attachments to that network asked for. -/
theorem attachAll_careful {site : Site} {networkId : String}
    {known : Option (List PrivateAddress)} :
    (attachAll site networkId known bs).Careful site (some networkId) := by
  rw [attachAll_eq]
  exact ((careful_closed site _).foldlM (fun _ _ _ => attachOne_careful) known).discard

/-- Attachments are looked for that lead to the cluster's private network. -/
theorem ensurePrivateNetwork_careful :
    (ensurePrivateNetwork s bs).Careful s.site s.privateNetworkId := by
  cases hnetwork : s.privateNetworkId with
  | none => exact ensurePrivateNetwork_of_none hnetwork bs ▸ trivial
  | some networkId =>
    rw [ensurePrivateNetwork_of_some hnetwork]
    refine attachAll_careful.bind fun _ => ?_
    cases resolveHeld_steps networkId bs with
    | resolved _ hp => exact hp ▸ trivial
    | listed _ hp => exact hp ▸ Site.heldAddresses_careful.bind fun _ => careful_ofExcept _

/-- Ensuring a backend is careful. -/
theorem ensureBackend_careful {site : Site} {servers : List String} {update : Bool} :
    (ensureBackend site b servers update).Careful site network := by
  obtain ⟨step, heq, hstep⟩ := ensureBackend_steps site b servers update
  rw [heq]
  refine Site.findBackend_careful.orNone.bind fun found => ?_
  cases hstep found with
  | created hp => exact hp ▸ Site.careful_change rfl rfl fun _ => rfl
  | updated k _ _ hp => exact hp ▸ Site.careful_change rfl rfl fun _ => rfl
  | kept k _ hp => exact hp ▸ trivial

/-- Copying a pool is careful. -/
theorem copyPool_careful {site : Site} {servers : List String} :
    (copyPool site servers bs).Careful site network := by
  rw [copyPool_eq]
  exact (careful_closed site network).mapM' fun _ _ => ensureBackend_careful

/-- The backend phase is careful. -/
theorem ensureBackends_careful {site : Site} : (ensureBackends site b bs).Careful site network :=
  ensureBackend_careful.bind fun _ => copyPool_careful.bind fun _ => trivial

/-- Ensuring a frontend is careful. -/
theorem ensureFrontend_careful {k : Backend} : (ensureFrontend s k).Careful s.site network := by
  obtain ⟨step, heq, hstep⟩ := ensureFrontend_steps s k
  rw [heq]
  refine Site.findFrontend_careful.orNone.bind fun found => ?_
  cases hstep found with
  | created hp => exact hp ▸ Site.careful_change rfl rfl fun _ => rfl
  | kept f hp =>
    rw [hp]
    refine Careful.bind ?_ fun _ => trivial
    unfold checkPort
    split <;> trivial

/-- The frontend phase is careful. -/
theorem ensureFrontends_careful {known : FrontendMap} {ks : List Backend} :
    (ensureFrontends s known ks).Careful s.site network := by
  rw [ensureFrontends_eq]
  exact (careful_closed s.site network).foldlM (fun _ _ _ => ensureFrontend_careful.map _) known

/-- Publishing sends nothing. -/
theorem publish_careful : (publish s b bs).Careful s.site network :=
  (careful_ofExcept _).bind fun _ => Careful.bind (p := emit _) trivial fun _ =>
    (careful_ofExcept _).bind fun _ => trivial

/-- A run for a cluster is careful, with attachments to its private network asked for. -/
theorem reconcile_careful : (reconcile s).Careful s.site s.privateNetworkId := by
  refine ensurePrimary_careful.bind fun _ => Secondary.ensure_careful.bind fun _ => ?_
  refine (careful_ofExcept _).bind fun _ => ensurePrivateNetwork_careful.bind fun _ => ?_
  refine ensureBackends_careful.bind fun _ => ensureFrontends_careful.bind fun _ => ?_
  exact Access.sync_careful.bind fun _ => publish_careful

/-- Its deletion is careful. -/
theorem delete_careful : (delete s).Careful s.site network := by
  refine Careful.bind ?_ fun _ => Secondary.ensure_careful.discard
  cases hresolve : s.primary.resolve s.site.region with
  | error e => exact deletePrimary_of_error hresolve ▸ trivial
  | ok zt =>
    obtain ⟨step, heq, hstep⟩ := deletePrimary_steps hresolve
    rw [heq]
    refine Site.findBalancer_careful.orNone.bind fun found => ?_
    cases hstep found with
    | gone hp => exact hp ▸ trivial
    | deleted b hp => exact hp ▸ Site.careful_change rfl rfl fun _ => rfl

end Topology

/-! ## Members -/

namespace Member

variable {m : Member} {bs : List LoadBalancer}

/-- Finding the load balancers of a cluster for a member is careful. -/
theorem findBalancers_careful : m.findBalancers.Careful m.scope.site network :=
  (careful_ofExcept _).bind fun _ => Site.findBalancer_careful.bind fun _ =>
    Site.findBalancers_careful.bind fun _ => trivial

/-- Acting on live load balancers is careful if the single actions are. -/
theorem eachLive_careful {site : Site} {act : LoadBalancer → Program Unit}
    (hact : ∀ b, (act b).Careful site network) : (eachLive act bs).Careful site network := by
  rw [eachLive_eq]
  exact (careful_closed site network).forM fun b _ => hact b

/-- Registering a node with a pool is careful. -/
theorem ensureServer_careful {site : Site} {node : String} {deletion : Bool} {b : LoadBalancer} :
    (ensureServer site node deletion b).Careful site network := by
  obtain ⟨step, heq, hstep⟩ := ensureServer_steps site node deletion b
  rw [heq]
  refine Site.findBackend_careful.bind fun k => ?_
  cases hstep k with
  | removed _ _ hp | added _ _ hp => exact hp ▸ Site.careful_change rfl rfl fun _ => rfl
  | kept _ hp => exact hp ▸ trivial

/-- Ensuring the rule of a member is careful. -/
theorem ensureRule_careful {addresses : List String} {deletion : Bool} {b : LoadBalancer} :
    (m.ensureRule addresses deletion b).Careful m.scope.site network := by
  refine ((Site.findFrontend_careful.map some).handle fun e => ?_).bind ?_
  · split <;> trivial
  · rintro (_ | f)
    · trivial
    · exact Access.ensureRule_careful

/-- A run that registers a member is careful. -/
theorem reconcile_careful {node : String} {addresses : List String} :
    (m.reconcile node addresses).Careful m.scope.site network :=
  findBalancers_careful.bind fun _ => (eachLive_careful fun _ => ensureServer_careful).bind fun _ =>
    eachLive_careful fun _ => ensureRule_careful

/-- A run that removes a member is careful. -/
theorem delete_careful {node : String} : (m.delete node).Careful m.scope.site network :=
  findBalancers_careful.orNone.bind fun _ => (eachLive_careful fun _ => ensureRule_careful).bind
    fun _ => eachLive_careful fun _ => ensureServer_careful

end Member

/-! ## Jobs and turns -/

/-- Every job is careful. -/
theorem Job.program_careful (s : Scope) (j : Job) :
    (j.program s).Careful s.site s.privateNetworkId := by
  cases j with
  | reconcile => exact Topology.reconcile_careful
  | delete => exact Topology.delete_careful
  | register name => exact Member.reconcile_careful (m := ⟨s, name⟩)
  | remove name => exact Member.delete_careful (m := ⟨s, name⟩)

/-- A turn is as careful as what its services do in it. -/
theorem Tick.runServices_careful {s : Site} {action : Action} {services : List Service}
    (h : ∀ service ∈ services, (service.act action).Careful s network) :
    (Tick.runServices action services).Careful s network := by
  induction services with
  | nil => trivial
  | cons service rest ih =>
    obtain ⟨hservice, hrest⟩ := List.forall_mem_cons.1 h
    refine hservice.attempt.bind ?_
    rintro (e | _)
    · dsimp only
      unfold Tick.conclude
      split <;> trivial
    · exact ih hrest

/-- The turn in which a job is run is careful. -/
theorem Job.turn_careful (s : Scope) (j : Job) : (j.turn s).Careful s.site s.privateNetworkId := by
  cases j with
  | reconcile =>
    exact (Tick.runServices_careful (List.forall_mem_singleton.2 Topology.reconcile_careful)).discard
  | delete =>
    exact (Tick.runServices_careful (List.forall_mem_singleton.2 Topology.delete_careful)).discard
  | register name => exact Member.reconcile_careful (m := ⟨s, name⟩)
  | remove name => exact Member.delete_careful (m := ⟨s, name⟩)

/-- Requests stay in the region. Whatever is run for a cluster, a turn of its control loop or a
change of a member, and whatever any provider answers: each request that goes to a zone goes to one
of those of the region in which the provider offers load balancers, or gateways if it lists these,
and up to the last dash the name of that zone is the region's. -/
theorem Job.stays_in_region (s : Scope) (j : Job) (p : Provider σ) (deadline : Option Seconds)
    (x : Session σ) :
    ∃ calls, ((j.turn s).run p deadline x).2.calls = x.calls ++ calls ∧
      ∀ k ∈ calls, ∀ zone, k.request.zone? = some zone →
        zone ∈ k.request.offered s.site ∧ s.site.region.Includes zone := by
  refine ⟨_, run_calls p deadline (j.turn s) x, fun k hk zone hzone => ?_⟩
  obtain ⟨exchange, hexchange, rfl⟩ := List.mem_map.1 hk
  have hmem : zone ∈ exchange.request.offered s.site :=
    (Job.turn_careful s j).exchanges_stay p deadline x exchange hexchange zone hzone
  refine ⟨hmem, ?_⟩
  unfold Request.offered at hmem
  split at hmem <;> exact Region.includes_of_mem_productZones hmem

/-- Gateways are only to be had in another region. -/
def Sample.gatewaysElsewhere : Scope :=
  { pinnedScope with site := { pinnedScope.site with gatewayZones := ["nl-ams-1"] } }

/-- A cluster whose gateways are all in another region: the turn sends 29 requests, and every zone
among them is one of the region's with load balancers. -/
theorem sample_stays_in_region :
    ∃ calls, ((Job.reconcile.turn Sample.gatewaysElsewhere).run Cloud.provider none
        (Sample.session Sample.vacantCloud)).2.calls = calls ∧ calls.length = 29 ∧
      ∀ k ∈ calls, ∀ zone, k.request.zone? = some zone →
        zone ∈ ["fr-par-1", "fr-par-2"] ∧ Sample.gatewaysElsewhere.site.region.Includes zone := by
  obtain ⟨calls, hcalls, hzones⟩ := Job.stays_in_region Sample.gatewaysElsewhere .reconcile
    Cloud.provider none (Sample.session Sample.vacantCloud)
  refine ⟨calls, hcalls, ?_, fun k hk zone hzone => ?_⟩
  · have hlength : ((Job.reconcile.turn Sample.gatewaysElsewhere).run Cloud.provider none
        (Sample.session Sample.vacantCloud)).2.calls.length = 29 := by decide +kernel
    rwa [hcalls] at hlength
  · -- What a request may be about is offered in these two zones at most.
    have hoffered : ∀ r : Request,
        r.offered Sample.gatewaysElsewhere.site ⊆ ["fr-par-1", "fr-par-2"] := by
      intro r
      unfold Request.offered
      split <;> decide +kernel
    obtain ⟨hmem, hregion⟩ := hzones k hk zone hzone
    exact ⟨hoffered _ hmem, hregion⟩

/-- It makes no difference how much a provider lists beyond what it was asked for. If two providers
act alike, and one lists for each look-up what the other lists and, anywhere in between, more that
was not asked for, then every job of a cluster makes the same calls to both, leaves the same world,
and publishes and returns the same, or fails the same. -/
theorem Job.extras_make_no_difference (s : Scope) (j : Job) {p p' : Provider σ}
    (h : p.Agrees s.privateNetworkId p') (deadline : Option Seconds) (x : Session σ) :
    (j.program s).run p deadline x = (j.program s).run p' deadline x :=
  (Job.program_careful s j).run_eq h deadline x

/-- A cloud that lists all load balancers of a zone, and one that lists those with the tags. -/
theorem sample_extras_make_no_difference :
    let s := Sample.scope ["10.0.0.0/8"]
    let narrow := Cloud.provider.narrowed s.privateNetworkId
    let x := Sample.session Sample.cloud
    (Job.reconcile.program s).run narrow none x =
        (Job.reconcile.program s).run Cloud.provider none x ∧
      ((Job.reconcile.program s).run narrow none x).1.isOk ∧
      (narrow.answer (.listBalancers "fr-par-1" (Topology.primaryTags s)) none x.world).1.map
        List.length = .ok 1 ∧
      (Cloud.provider.answer (.listBalancers "fr-par-1" (Topology.primaryTags s)) none
        x.world).1.map List.length = .ok 3 :=
  ⟨Job.extras_make_no_difference _ .reconcile (Provider.narrowed_agrees _ _) _ _,
    by decide +kernel, rfl, rfl⟩

end ControlPlane
