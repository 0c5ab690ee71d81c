import ControlPlane.ControlLoop
import ControlPlane.Proofs.Provider.Endings
import ControlPlane.Proofs.Status.Turns
import ControlPlane.Proofs.Topology.Resumption

/-!
# Turns that are canceled

A cancellation comes back as an interruption, which is to be tried again, but on its way through the
operations it passes handlers: they ask whether the failure comes from a look-up that found nothing,
and the whole chain of an interruption may say so. The lemmas here go through all operations and say
what may become of a failed request before the next one is due. Nearly everywhere the next request
comes at once, in a zone that has been checked, and stops a run that is canceled (`Program.Stops`).
Where it does not, a run may end well, with a failure that is not for good, or because an address to
pin seems to be missing; `Failure.Begets` is what these have in common.

From that, `Scope.canceled_turn` says when a turn of the control loop that was canceled, or ran out
of time, is terminal.
-/

namespace ControlPlane

open Program hiding ofExcept

/-! ## Failures that may come of another one -/

/-- Only what is raised as terminal is. -/
theorem Kind.disposition?_eq_terminal {k : Kind} : k.disposition? = some .terminal ↔ k = .terminal := by
  cases k <;> first
    | exact iff_of_true rfl rfl
    | exact iff_of_false nofun nofun

namespace Failure

variable {fault : Fault} {e f : Failure}

/-- What is to be done about a failure, if its chain says so. -/
def disposition? (f : Failure) : Option Disposition := f.resolution?.map Prod.snd

/-- A chain begins with the fault that was raised. -/
theorem chain_eq_cons (f : Failure) : ∃ rest, f.chain = f.fault :: rest := by
  have hhead : f.links[f.head]? = some f.top := List.getElem?_eq_getElem f.head_lt
  obtain ⟨n, hn⟩ := Nat.exists_eq_succ_of_ne_zero (Nat.ne_zero_of_lt f.head_lt)
  unfold chain places
  rw [hn, walk_of_not_mem List.not_mem_nil, List.filterMap_cons, hhead]
  exact ⟨_, rfl⟩

/-- The fault that was raised decides, if it has a disposition. -/
theorem disposition?_of_fault {d : Disposition} (h : f.fault.kind.disposition? = some d) :
    f.disposition? = some d := by
  obtain ⟨rest, hchain⟩ := f.chain_eq_cons
  unfold disposition? resolution?
  rw [hchain, List.findSome?_cons, h]
  rfl

/-- A fault without any behind it decides by itself. -/
theorem disposition?_ofFault (fault : Fault) :
    (ofFault fault).disposition? = fault.kind.disposition? := by
  show (List.findSome? _ [fault]).map Prod.snd = _
  rw [List.findSome?_cons]
  cases fault.kind.disposition? <;> rfl

/-- A failure that its cause was raised for decides if its own fault does not. -/
theorem disposition?_classify {method : String} {canceled : Bool} {left : Option Seconds}
    (h : e.fault.kind = .timedOut ∨ canceled = true ∨ left = some 0) :
    (classify method canceled left e).disposition? =
      some (e.fault.kind.disposition?.getD (.retry 1)) := by
  unfold classify
  cases hkind : e.fault.kind.disposition? with
  | some d => exact disposition?_of_fault hkind
  | none =>
    rw [Option.isSome_none, if_neg Bool.false_ne_true, if_pos h]
    refine disposition?_of_fault ?_
    rw [fault_causedBy]
    rfl

/-- A failed call of a run that is late is terminal only if it is made so by the provider. -/
theorem disposition?_classify_eq_terminal {method : String} {canceled : Bool} {left : Option Seconds}
    (h : e.fault.kind = .timedOut ∨ canceled = true ∨ left = some 0) :
    (classify method canceled left e).disposition? = some .terminal ↔ e.fault.kind = .terminal := by
  rw [disposition?_classify h, ← Kind.disposition?_eq_terminal]
  cases e.fault.kind.disposition? with
  | none => exact iff_of_false nofun nofun
  | some d => rfl

/-- The failure says that an address to pin is missing. -/
def PinMissing (f : Failure) : Prop :=
  (∃ address reason, f.fault = .terminal (.pinnedAddressMissing address reason)) ∨
    ∃ address, f.fault = .terminal (.pinnedPrivateAddressMissing address)

/-- What may come of a failure: the failure itself, that an address to pin is missing, or one that
is not for good. -/
def Begets (e f : Failure) : Prop := f = e ∨ f.PinMissing ∨ f.disposition? ≠ some .terminal

/-- A failure may come of itself. -/
theorem begets_self (e : Failure) : e.Begets e := .inl rfl

/-- A single fault that is not for good may come of any failure. -/
theorem begets_ofFault (h : fault.kind.disposition? ≠ some .terminal) : e.Begets (ofFault fault) :=
  .inr (.inr (by rwa [disposition?_ofFault]))

end Failure

open Failure (Begets begets_self begets_ofFault fault_causedBy)

/-! ## Operations -/

/-- A request ends with its own failure. -/
theorem request_stops (r : Request) : (request r).Stops Begets := guarded_request begets_self r

namespace Site

variable {s : Site} {zone : String}

/-- A request, and what is made of its answer. -/
theorem lookup_stops {α : Type} {r : Request} {next : r.Reply → Except Failure α} :
    (request r >>= fun a => .ofExcept (next a)).Stops Begets :=
  (request_stops r).bind fun _ => guarded_ofExcept _

/-- The check of a zone comes before the request. -/
theorem stops_in_zone {α : Type} {p : Program α} (hp : p.Stops Begets) :
    (s.checkZone zone >>= fun _ => p).Stops Begets :=
  guarded_in_zone fun _ => hp

/-- Where a load balancer is looked for, a failed request may mean that there is none, in a zone of
the region. -/
theorem findBalancer_guarded {tags : List String} :
    (s.findBalancer zone tags).orNone.Guarded Begets fun found => found = none ∧ zone ∈ s.zones :=
  guarded_orNone_in_zone (guarded_ofExcept_bind fun _ _ => lookup_stops)

/-- Listing zone by zone stops if listing in a zone does. -/
theorem inZones_stops {α : Type} {zones : List String} {list : String → Program (List α)}
    {p : α → Bool} (hlist : ∀ zone, (list zone).Stops Begets) : (inZones zones list p).Stops Begets := by
  induction zones with
  | nil => trivial
  | cons zone rest ih => exact (hlist zone).bind fun _ => ih.bind fun _ => trivial

/-- Finding load balancers stops at a failed request. -/
theorem findBalancers_stops {tags : List String} : (s.findBalancers tags).Stops Begets :=
  guarded_ofExcept_bind fun _ _ => inZones_stops fun _ => request_stops _

/-- Finding gateways stops at a failed request. -/
theorem findGateways_stops {tags : List String} : (s.findGateways tags).Stops Begets :=
  guarded_ofExcept_bind fun _ _ => inZones_stops fun _ => request_stops _

/-- Listing held addresses stops at a failed request. -/
theorem heldAddresses_stops {networkId : String} {balancerIds : List String} :
    (heldAddresses networkId balancerIds).Stops Begets :=
  (request_stops _).bind fun _ => trivial

end Site

/-- A missing address is the only thing that looking for it makes of a failure. -/
theorem findAddressId_stops {s : Site} {zone address : String} :
    (findAddressId s zone address).Stops Begets := by
  have hfind : (s.findAddress zone address).Stops Begets :=
    Site.guarded_in_zone fun _ => Site.lookup_stops
  refine Stops.map _ (Guarded.handle hfind (fun e e' he => ?_) fun e => ?_)
  · split
    · exact .inr (.inl (.inl ⟨_, _, fault_causedBy ..⟩))
    · exact he
  · split <;> trivial

/-- In a zone of the region, looking for an address begins with a request. -/
theorem findAddressId_settles {F : Failure → Prop} {V : String → Prop} {s : Site}
    {zone address : String} (hzone : zone ∈ s.zones) : (findAddressId s zone address).Settles F V := by
  have hfind : (s.findAddress zone address).Settles (fun _ => False) fun _ => False :=
    Site.settles_in_zone hzone trivial
  exact Settles.bind_of_sends (hfind.handle fun _ h => h.elim)

namespace Secondary

variable {s : Scope} {b : LoadBalancer} {d : BalancerSpec} {wanted : List (String × List BalancerSpec)}
  {taken : List (String × String)}

/-- Deciding whether a secondary is kept stops at a failed request. -/
theorem keeps_stops : (keeps s b d).Stops Begets := by
  unfold keeps privateAddressFits
  split
  · split
    · exact Site.heldAddresses_stops.bind fun _ => trivial
    · trivial
  · trivial

/-- Updating a secondary stops at a failed request. -/
theorem update_stops : (update s b d).Stops Begets := by
  cases update_steps s b d with
  | kept _ hp => exact hp ▸ trivial
  | migrated t _ _ hp => exact hp ▸ (Site.stops_in_zone (request_stops _)).bind fun _ => trivial

/-- Creating a secondary stops at a failed request. -/
theorem create_stops {zone name : String} : (create s zone name d).Stops Begets := by
  obtain ⟨step, heq, hstep⟩ := create_steps s zone name d
  rw [heq]
  refine guarded_ofExcept_bind fun zt _ => ?_
  cases hstep zt with
  | pinned address _ hp =>
    rw [hp]
    refine findAddressId_stops.bind fun _ => ?_
    exact (Site.stops_in_zone (request_stops _)).bind fun _ => trivial
  | managed _ hp => exact hp ▸ (Site.stops_in_zone (request_stops _)).bind fun _ => trivial

/-- Deciding about all secondaries that are listed stops at a failed request. -/
theorem retain_stops {live : List LoadBalancer} :
    ((reconciler s).retain wanted taken live).Stops Begets := by
  induction live generalizing taken with
  | nil => trivial
  | cons b rest ih =>
    rw [retain_cons]
    split
    · exact (Site.stops_in_zone (request_stops _)).bind fun _ => ih
    · refine keeps_stops.bind fun kept => ?_
      split
      · exact update_stops.bind fun _ => ih.bind fun _ => trivial
      · exact (Site.stops_in_zone (request_stops _)).bind fun _ => ih

/-- Creating the secondaries that are missing stops at a failed request. -/
theorem createMissing_stops {targets : List (String × String × BalancerSpec)} :
    ((reconciler s).createMissing taken targets).Stops Begets := by
  rw [Reconciler.createMissing_eq]
  exact (stops_closed Begets).mapM' fun _ _ => create_stops

/-- Ensuring the secondaries stops at a failed request. -/
theorem ensure_stops {desired : List BalancerSpec} : (ensure s desired).Stops Begets := by
  rw [ensure_eq]
  split
  · trivial
  · refine Stops.bind Site.findBalancers_stops fun _ => ?_
    exact retain_stops.bind fun _ => createMissing_stops.bind fun _ => trivial

/-- Before anything can be sent, the deletion of all secondaries does not end for good. -/
theorem ensure_nil_settles (e : Failure) :
    (ensure s []).Settles e.Begets fun _ => True := by
  have hlist : (list s).Settles e.Begets (· = []) := by
    unfold list Site.findBalancers
    rw [checkTags_eq_ok.2 (tags_ne_nil s)]
    show (Site.inZones s.site.zones _ _).Settles _ _
    cases s.site.zones with
    | nil => exact rfl
    | cons zone rest => trivial
  rw [ensure_eq]
  refine hlist.bind fun live hlive => ?_
  rw [hlive]
  trivial

end Secondary

namespace Topology

variable {s : Scope} {b : LoadBalancer} {bs : List LoadBalancer}

/-! ## Load balancers -/

/-- If the primary could not be looked for, the next request is due in the same zone. -/
theorem ensurePrimary_stops : (ensurePrimary s).Stops Begets := by
  obtain ⟨step, heq, hstep⟩ := ensurePrimary_steps s
  rw [heq]
  refine guarded_ofExcept_bind fun zt _ => Guarded.bind Site.findBalancer_guarded ?_ fun found => ?_
  · rintro e _ ⟨rfl, hzone⟩
    -- The look-up may seem to have found nothing; creating a load balancer sends a request then.
    have hcreate : ∀ addressId, (s.site.createBalancer zt.1 (s.resourceName []) zt.2 addressId
        (primaryTags s) s.balancersPrivate).Settles e.Begets fun _ => False := fun _ =>
      Site.settles_in_zone hzone trivial
    cases hstep zt none with
    | pinned address _ hp => exact hp ▸ Settles.bind_of_sends (findAddressId_settles hzone)
    | created _ hp => exact hp ▸ Settles.bind_of_sends (hcreate none)
  · cases hstep zt found with
    | pinned address _ hp =>
      rw [hp]
      refine findAddressId_stops.bind fun _ => ?_
      exact (Site.stops_in_zone (request_stops _)).bind fun _ => trivial
    | created _ hp => exact hp ▸ (Site.stops_in_zone (request_stops _)).bind fun _ => trivial
    | kept b _ hp => exact hp ▸ trivial
    | migrated b _ hp => exact hp ▸ (Site.stops_in_zone (request_stops _)).bind fun _ => trivial

/-- The primary, if it could not be looked for, is taken for deleted. -/
theorem deletePrimary_guarded : (deletePrimary s).Guarded Begets fun _ => True := by
  cases hresolve : s.primary.resolve s.site.region with
  | error e => exact deletePrimary_of_error hresolve ▸ trivial
  | ok zt =>
    obtain ⟨step, heq, hstep⟩ := deletePrimary_steps hresolve
    rw [heq]
    refine Guarded.bind Site.findBalancer_guarded ?_ fun found => ?_
    · rintro e _ ⟨rfl, _⟩
      cases hstep none with
      | gone hp => exact hp ▸ trivial
    · cases hstep found with
      | gone hp => exact hp ▸ trivial
      | deleted b hp =>
        exact hp ▸ Guarded.mono (Site.stops_in_zone (request_stops _)) fun _ _ => trivial

/-! ## The parts of a topology -/

section

variable {networkId : String} {known : Option (List PrivateAddress)} {site : Site}

/-- Looking up a pinned private address stops at a failed request. -/
theorem pinnedAddressId_stops : (pinnedAddressId networkId b known).Stops Begets := by
  unfold pinnedAddressId
  split
  · trivial
  · refine Stops.bind ?_ fun available => ?_
    · unfold availableOnce
      split
      · trivial
      · exact Stops.bind (request_stops _) fun _ => trivial
    · split <;> trivial

/-- Before anything can be sent, it may turn out that an address to pin is missing. -/
theorem pinnedAddressId_settles (e : Failure) :
    (pinnedAddressId networkId b known).Settles e.Begets fun _ => True := by
  unfold pinnedAddressId
  split
  · trivial
  · have havailable : (availableOnce networkId known).Settles e.Begets fun _ => True := by
      unfold availableOnce
      split <;> trivial
    refine havailable.bind fun available _ => ?_
    split
    · exact .inr (.inl (.inr ⟨_, rfl⟩))
    · trivial

/-- Attaching a load balancer stops at a failed request. -/
theorem attachOne_stops : (attachOne site networkId known b).Stops Begets := by
  obtain ⟨step, heq, hstep⟩ := attachOne_steps site networkId known b
  rw [heq]
  refine Guarded.bind (Site.guarded_orNone_in_zone Site.lookup_stops) ?_ fun found => ?_
  · rintro e _ ⟨rfl, hzone⟩
    cases hstep none with
    | missing hp =>
      rw [hp]
      -- The look-up may seem to have found nothing; attaching sends a request then.
      exact (pinnedAddressId_settles e).bind fun _ _ =>
        Settles.bind_of_sends (Site.settles_in_zone hzone trivial)
  · cases hstep found with
    | attached a hp => exact hp ▸ trivial
    | missing hp =>
      rw [hp]
      refine pinnedAddressId_stops.bind fun _ => ?_
      exact (Site.stops_in_zone (request_stops _)).bind fun _ => trivial

/-- Attaching several load balancers stops at a failed request. -/
theorem attachAll_stops : (attachAll site networkId known bs).Stops Begets := by
  rw [attachAll_eq]
  exact ((stops_closed Begets).foldlM (fun _ _ _ => attachOne_stops) known).discard

/-- The network phase stops at a failed request. -/
theorem ensurePrivateNetwork_stops : (ensurePrivateNetwork s bs).Stops Begets := by
  cases hnetwork : s.privateNetworkId with
  | none => exact ensurePrivateNetwork_of_none hnetwork bs ▸ trivial
  | some networkId =>
    rw [ensurePrivateNetwork_of_some hnetwork]
    refine attachAll_stops.bind fun _ => ?_
    cases resolveHeld_steps networkId bs with
    | resolved _ hp => exact hp ▸ trivial
    | listed _ hp => exact hp ▸ Site.heldAddresses_stops.bind fun _ => guarded_ofExcept _

/-- Ensuring a backend stops at a failed request. -/
theorem ensureBackend_stops {servers : List String} {update : Bool} :
    (ensureBackend site b servers update).Stops Begets := by
  obtain ⟨step, heq, hstep⟩ := ensureBackend_steps site b servers update
  rw [heq]
  refine Guarded.bind (Site.guarded_orNone_in_zone Site.lookup_stops) ?_ fun found => ?_
  · rintro e _ ⟨rfl, hzone⟩
    cases hstep none with
    | created hp => exact hp ▸ Site.settles_in_zone hzone trivial
  · cases hstep found with
    | created hp => exact hp ▸ Site.stops_in_zone (request_stops _)
    | updated k _ _ hp => exact hp ▸ Site.stops_in_zone (request_stops _)
    | kept k _ hp => exact hp ▸ trivial

/-- Copying a pool stops at a failed request. -/
theorem copyPool_stops {servers : List String} : (copyPool site servers bs).Stops Begets := by
  rw [copyPool_eq]
  exact (stops_closed Begets).mapM' fun _ _ => ensureBackend_stops

/-- The backend phase stops at a failed request. -/
theorem ensureBackends_stops : (ensureBackends site b bs).Stops Begets := by
  unfold ensureBackends
  exact ensureBackend_stops.bind fun _ => copyPool_stops.bind fun _ => trivial

end

/-- Ensuring a frontend stops at a failed request. -/
theorem ensureFrontend_stops {k : Backend} : (ensureFrontend s k).Stops Begets := by
  obtain ⟨step, heq, hstep⟩ := ensureFrontend_steps s k
  rw [heq]
  refine Guarded.bind (Site.guarded_orNone_in_zone Site.lookup_stops) ?_ fun found => ?_
  · rintro e _ ⟨rfl, hzone⟩
    cases hstep none with
    | created hp => exact hp ▸ Site.settles_in_zone hzone trivial
  · cases hstep found with
    | created hp => exact hp ▸ Site.stops_in_zone (request_stops _)
    | kept f hp =>
      rw [hp]
      unfold checkPort
      split <;> trivial

/-- The frontend phase stops at a failed request. -/
theorem ensureFrontends_stops {known : FrontendMap} {ks : List Backend} :
    (ensureFrontends s known ks).Stops Begets := by
  rw [ensureFrontends_eq]
  exact (stops_closed Begets).foldlM (fun _ _ _ => Stops.map _ ensureFrontend_stops) known

end Topology

/-! ## Rules -/

namespace Access

variable {s : Site} {f : Frontend} {d : DesiredRule} {ds : List DesiredRule}

/-- A malformed rule is not sent, and that is not for good. -/
theorem specified_settles {α : Type} {zone : String} {e : Failure} {V : α → Prop}
    {spec : Schema.Checked RuleSpec} {p : RuleSpec → Program α} (hzone : zone ∈ s.zones)
    (hp : ∀ spec, (p spec).Settles e.Begets V) :
    (s.checkZone zone >>= fun _ => .ofExcept (Site.specified spec) >>= p).Settles e.Begets V := by
  refine Site.settles_in_zone hzone ?_
  cases spec with
  | valid spec => exact hp spec
  | invalid issues => exact begets_ofFault nofun

/-- A rule is checked before it is sent. -/
theorem specified_stops {zone : String} {spec : Schema.Checked RuleSpec}
    {p : RuleSpec → Program Rule} (hp : ∀ spec, (p spec).Stops Begets) :
    (s.checkZone zone >>= fun _ => .ofExcept (Site.specified spec) >>= p).Stops Begets :=
  Site.stops_in_zone (guarded_ofExcept_bind fun spec _ => hp spec)

/-- A rule may come to its end after a failed request, where none is desired. -/
theorem ensureRule_guarded : (ensureRule s f d).Guarded Begets fun _ => f.zone ∈ s.zones := by
  obtain ⟨step, heq, hstep⟩ := ensureRule_steps s f d
  rw [heq]
  refine Guarded.bind (Site.guarded_orNone_in_zone Site.lookup_stops) ?_ fun found => ?_
  · rintro e _ ⟨rfl, hzone⟩
    cases hstep none with
    -- With no rule desired, a failed look-up is the end, as if all were well.
    | absent _ hp => exact hp ▸ hzone
    | created _ hp =>
      have hcreate : (s.createRule f.zone f.id d.name d.index d.action d.subnets).Settles
          e.Begets fun _ => False := specified_settles hzone fun _ => trivial
      exact hp ▸ hcreate.bind_of_sends
  · refine Guarded.mono (V := fun _ => False) ?_ fun _ h => h.elim
    cases hstep found with
    | removed r _ hp => exact hp ▸ Site.stops_in_zone (request_stops _)
    | absent _ hp | kept _ _ _ hp => exact hp ▸ trivial
    | created _ hp | replaced _ _ _ hp =>
      exact hp ▸ Stops.discard (specified_stops fun _ => request_stops _)

/-- In a zone of the region, a rule begins with a request. -/
theorem ensureRule_settles {F : Failure → Prop} (hzone : f.zone ∈ s.zones) :
    (ensureRule s f d).Settles F fun _ => False := by
  obtain ⟨step, heq, -⟩ := ensureRule_steps s f d
  have hsends : (s.findRule f.zone f.id d.name).Settles (fun _ => False) fun _ => False :=
    Site.settles_in_zone hzone trivial
  have hfind : (s.findRule f.zone f.id d.name).orNone.Settles F fun _ => False :=
    Settles.handle (Settles.bind_of_sends hsends) fun _ h => h.elim
  rw [heq]
  exact Settles.bind_of_sends hfind

/-- Where a rule was looked for, the other rules begin with a request, if there are any. -/
theorem ensureRules_guarded : (ensureRules s f ds).Guarded Begets fun _ => f.zone ∈ s.zones := by
  induction ds with
  | nil => trivial
  | cons d rest ih =>
    refine ensureRule_guarded.bind (fun e _ hzone => ?_) fun _ => ih
    cases rest with
    | nil => exact hzone
    | cons d' rest => exact Settles.bind_of_sends (ensureRule_settles hzone)

/-- Listing rules stops at a failed request. -/
theorem listRules_stops {zone frontendId : String} : (s.listRules zone frontendId).Stops Begets :=
  Site.stops_in_zone (request_stops _)

/-- Copying rules to a frontend stops at a failed request. -/
theorem copyTo_stops {rules : List Rule} : (copyTo s rules f).Stops Begets := by
  obtain ⟨step, heq, hstep⟩ := copyTo_steps s rules f
  rw [heq]
  refine listRules_stops.bind fun others => ?_
  cases hstep others with
  | agreed _ hp => exact hp ▸ trivial
  | copied _ hp => exact hp ▸ Stops.discard (Site.stops_in_zone (request_stops _))

/-- Copying rules to all frontends but the primary's stops at a failed request. -/
theorem copyRules_stops {primaryId : String} {rules : List Rule} {m : FrontendMap} :
    (copyRules s primaryId rules m).Stops Begets := by
  rw [copyRules_eq]
  exact (stops_closed Begets).forM fun _ _ => copyTo_stops

/-- Finding out which rules are desired stops at a failed request. -/
theorem desiredRules_stops {s : Scope} : (desiredRules s).Stops Begets := by
  unfold desiredRules gatewayAddresses
  refine Stops.bind ?_ fun _ => trivial
  split
  · exact Site.findGateways_stops.bind fun _ => trivial
  · trivial

/-- The rules may come to their end after a failed request, where none is desired. -/
theorem sync_guarded {s : Scope} {primaryId : String} {m : FrontendMap} :
    (sync s primaryId m).Guarded Begets fun _ => True := by
  cases hf : m.lookup primaryId with
  | none => exact sync_of_none hf ▸ trivial
  | some f =>
    rw [sync_of_some hf]
    refine desiredRules_stops.bind fun _ => ?_
    refine ensureRules_guarded.bind (fun e _ hzone => ?_) fun _ => ?_
    · -- The last look-up for a rule may have failed; copying begins with a request.
      have hlist : (s.site.listRules f.zone f.id).Settles e.Begets fun _ => False :=
        Site.settles_in_zone hzone trivial
      cases spread_steps s.site primaryId f m with
      | alone _ hp => exact hp ▸ trivial
      | copied _ hp => exact hp ▸ hlist.bind_of_sends
    · cases spread_steps s.site primaryId f m with
      | alone _ hp => exact hp ▸ trivial
      | copied _ hp =>
        exact hp ▸ (listRules_stops.bind fun _ => copyRules_stops).mono fun _ _ => trivial

end Access

/-! ## The service -/

namespace Topology

variable {s : Scope} {b : LoadBalancer} {bs : List LoadBalancer}

/-- A load balancer without an address is nothing for good. -/
theorem publishedAddress_begets {e f : Failure} (h : publishedAddress s b = .error f) :
    e.Begets f := by
  unfold publishedAddress at h
  split at h
  · -- A missing address is a fault that is not for good, whichever address it is.
    unfold privateAddress at h
    split at h
    · cases h
      exact begets_ofFault nofun
    · cases h
  · unfold publicAddress at h
    split at h
    · cases h
      exact begets_ofFault nofun
    · cases h
      exact begets_ofFault nofun
    · cases h

/-- Publishing sends nothing, and fails with what may come of any failure. -/
theorem publish_settles (e : Failure) : (publish s b bs).Settles e.Begets fun _ => True := by
  refine (settles_ofExcept (V := fun _ => True) (fun _ _ => trivial)
    fun _ h => publishedAddress_begets h).bind fun main _ => ?_
  refine (settles_ofExcept (V := fun _ => True) (fun _ _ => trivial) fun _ h => ?_).bind
    fun _ _ => trivial
  obtain ⟨_, _, _, _, _, hfails⟩ := mapM_eq_error.1 h
  exact publishedAddress_begets hfails

/-- Publishing sends nothing, and has no failed request to answer for. -/
theorem publish_guarded : (publish s b bs).Guarded Begets fun _ => True := by
  refine guarded_ofExcept_bind fun main _ => ?_
  exact guarded_ofExcept_bind (W := fun _ => True) fun _ _ => trivial

/-- After a failed request, a run for a cluster ends with what may come of the failure. -/
theorem reconcile_guarded : (reconcile s).Guarded Begets fun _ => True := by
  unfold reconcile
  refine ensurePrimary_stops.bind fun _ => Secondary.ensure_stops.bind fun _ => ?_
  refine guarded_ofExcept_bind fun _ _ => ensurePrivateNetwork_stops.bind fun _ => ?_
  refine ensureBackends_stops.bind fun _ => ensureFrontends_stops.bind fun _ => ?_
  exact Access.sync_guarded.bind (fun e _ _ => publish_settles e) fun _ => publish_guarded

/-- After a failed request, the deletion of a cluster ends with what may come of the failure. -/
theorem delete_guarded : (delete s).Guarded Begets fun _ => True := by
  unfold delete
  refine deletePrimary_guarded.bind (fun e _ _ => ?_) fun _ => ?_
  · exact (Secondary.ensure_nil_settles e).bind fun _ _ => trivial
  · exact Secondary.ensure_stops.discard.mono fun _ _ => trivial

/-- After a failed request, the service ends with what may come of the failure, whatever it is to
do. -/
theorem service_guarded (action : Action) :
    ((service s).act action).Guarded Begets fun _ => True := by
  cases action with
  | reconcile => exact reconcile_guarded
  | delete => exact delete_guarded

/-- The service is brittle. -/
theorem service_brittle (action : Action) : ((service s).act action).Brittle := by
  cases action with
  | reconcile => exact reconcile_brittle
  | delete => exact delete_orderly.brittle

end Topology

/-! ## Turns -/

variable {σ : Type} {p : Provider σ} {deadline : Option Seconds} {x : Session σ}

namespace Tick

/-- How a turn ends in which a service fails. -/
def judged (e : Failure) : Except Failure Outcome :=
  match e.disposition? with
  | none => .error e
  | some .terminal => .ok .terminal
  | some (.retry after) => .ok (.requeue after)

/-- A turn is terminal if the failure is for good. -/
theorem judged_eq_terminal {e : Failure} :
    judged e = .ok .terminal ↔ e.disposition? = some .terminal := by
  unfold judged
  rcases e.disposition? with _ | _ | after
  · exact iff_of_false nofun nofun
  · exact iff_of_true rfl rfl
  · exact iff_of_false nofun nofun

/-- A turn is put back in the queue if the failure asks for it. -/
theorem judged_of_retry {e : Failure} {after : Seconds} (h : e.disposition? = some (.retry after)) :
    judged e = .ok (.requeue after) := by
  unfold judged
  rw [h]

/-- The end of a turn with a failure is how it is judged. -/
theorem conclude_run (action : Action) (service : String) (e : Failure) :
    ((conclude action service e).run p deadline x).1 = judged e := by
  unfold conclude judged Failure.disposition?
  rcases e.resolution? with _ | ⟨f, _ | after⟩ <;> rfl

/-- The end of a turn sends nothing. -/
theorem conclude_exchanges (action : Action) (service : String) (e : Failure) :
    (conclude action service e).exchanges p deadline x = [] := by
  unfold conclude
  rcases e.resolution? with _ | ⟨f, _ | after⟩ <;> rfl

end Tick

namespace Scope

variable {s : Scope} {action : Action}

/-- A turn of the cluster runs its one service. -/
theorem turn_eq (s : Scope) (action : Action) :
    s.turn action = Tick.runServices action [Topology.service s] := by
  cases action <;> rfl

/-- A turn comes to what its one service comes to. -/
theorem turn_run : ((s.turn action).run p deadline x).1 =
    match (((Topology.service s).act action).run p deadline x).1 with
    | .ok _ => .ok .succeeded
    | .error f => Tick.judged f := by
  rw [turn_eq, Tick.runServices_cons]
  rcases ((Topology.service s).act action).run p deadline x with ⟨f | _, y⟩
  · exact Tick.conclude_run ..
  · rfl

/-- All that is sent in a turn, the service sends. -/
theorem turn_exchanges : (s.turn action).exchanges p deadline x =
    ((Topology.service s).act action).exchanges p deadline x := by
  rw [turn_eq]
  show (((Topology.service s).act action).attempt >>= _).exchanges p deadline x = _
  rw [exchanges_bind, exchanges_attempt, run_attempt]
  rcases ((Topology.service s).act action).run p deadline x with ⟨e | _, y⟩
  · exact (congrArg (_ ++ ·) (Tick.conclude_exchanges ..)).trans (List.append_nil _)
  · exact List.append_nil _

/-- A canceled turn is not terminal, unless the provider says so. If a request fails because the
provider ran out of time, or fails when the run is canceled or out of time, then a turn is terminal
exactly if the failure itself is, and if the failure has no disposition the turn comes again after a
second. If the request is a look-up and the failure comes from one that found nothing, that is
different: what is canceled may be taken for a finding. Then a turn that is canceled or out of time
is terminal only if the failure itself is, or because an address to pin seems to be missing. -/
theorem canceled_turn (s : Scope) (action : Action) (p : Provider σ) (deadline : Option Seconds)
    (x : Session σ) {n : Nat} {k : Exchange σ} {e : Failure}
    (hk : ((s.turn action).exchanges p deadline x)[n]? = some k) (he : k.answer = .error e) :
    let result := ((s.turn action).run p deadline x).1
    (e.fault.kind = .timedOut ∨ World.Late deadline k.after →
      k.request.isMutation = true ∨ e.isNotFound = false →
        (result = .ok .terminal ↔ e.fault.kind = .terminal) ∧
          (e.fault.kind.disposition? = none → result = .ok (.requeue 1))) ∧
    (World.Late deadline k.after → result = .ok .terminal →
      e.fault.kind = .terminal ∨ (k.request.isMutation = false ∧ e.isNotFound = true) ∧
        ∃ f, (((Topology.service s).act action).run p deadline x).1 = .error f ∧ f.PinMissing) := by
  intro result
  rw [turn_exchanges] at hk
  have hresult : result = _ := turn_run
  -- A session that is late is canceled or has no time left, which is what classification asks.
  have hzero : e.fault.kind = .timedOut ∨ World.Late deadline k.after → e.fault.kind = .timedOut ∨
      k.after.canceled = true ∨ remaining deadline k.after.now = some 0 :=
    Or.imp_right (Or.imp_right remaining_eq_zero.2)
  -- A failure that is no finding ends the run as classified, and the turn judges that by its kind.
  have hends : e.fault.kind = .timedOut ∨ World.Late deadline k.after →
      k.request.isMutation = true ∨ e.isNotFound = false →
        (result = .ok .terminal ↔ e.fault.kind = .terminal) ∧
          (e.fault.kind.disposition? = none → result = .ok (.requeue 1)) := by
    intro hlate hfound
    obtain ⟨_, hrun⟩ := (Topology.service_brittle action).ends_at hk he hfound
    rw [hrun] at hresult
    refine ⟨?_, fun hnone => hresult.trans (Tick.judged_of_retry ?_)⟩
    · rw [hresult, Tick.judged_eq_terminal]
      exact Failure.disposition?_classify_eq_terminal (hzero hlate)
    · rw [Failure.disposition?_classify (hzero hlate), hnone]
      rfl
  refine ⟨hends, fun hlate hterminal => ?_⟩
  -- A late look-up that found nothing: the run ends before the next request, with what may come of
  -- it.
  by_cases hfound : k.request.isMutation = true ∨ e.isNotFound = false
  · exact .inl ((hends (.inr hlate) hfound).1.1 hterminal)
  · rcases (Topology.service_guarded action).run_cut_short (Topology.service_brittle action) hk he
      hlate with ⟨_, hok, _⟩ | ⟨f, herror, hf⟩
    · rw [hok] at hresult
      cases hresult.symm.trans hterminal
    · rw [herror] at hresult
      have hd : f.disposition? = some .terminal :=
        Tick.judged_eq_terminal.1 (hresult.symm.trans hterminal)
      -- Of these failures only the look-up's own and a missing pin are terminal.
      rcases hf with (rfl | hpin | hgood) | rfl | rfl
      · exact .inl ((Failure.disposition?_classify_eq_terminal (hzero (.inr hlate))).1 hd)
      · rw [not_or, Bool.not_eq_true, Bool.not_eq_false] at hfound
        exact .inr ⟨hfound, f, herror, hpin⟩
      · exact absurd hd hgood
      · rw [Failure.disposition?_ofFault] at hd
        cases hd
      · rw [Failure.disposition?_ofFault] at hd
        cases hd

end Scope

namespace Sample

/-- The run is canceled and the connection lost while a backend is made. -/
def lostConnection : Circumstances where
  disturbances := [{ endpoint := "create_backend", cancels := true
                     failure := some (.ofFault ⟨.crashed, .reported "connection reset"⟩) }]

/-- The run is canceled while the provider finds that no load balancers may be listed, for good. -/
def exhausted : Circumstances where
  disturbances := [{ endpoint := "list_lbs", cancels := true
                     failure := some (.ofFault (.terminal (.reported "quota exceeded"))) }]

end Sample

namespace Scope

/-- A run that loses its connection when it is canceled comes again after a second. -/
theorem sample_canceled_turn :
    let turn := Sample.pinnedScope.turn .reconcile
    let x := Sample.lostConnection.session Sample.vacantCloud
    ∃ k, (turn.exchanges Trial.provider none x)[12]? = some k ∧ k.after.canceled = true ∧
      (turn.run Trial.provider none x).1 = .ok (.requeue 1) := by
  intro turn x
  have hfailed : ((turn.exchanges Trial.provider none x)[12]?.bind fun k =>
      match k.answer with
      | .ok _ => none
      | .error e => some (e, k.after.canceled)) =
        some (.ofFault ⟨.crashed, .reported "connection reset"⟩, true) := by
    decide +kernel
  obtain ⟨k, hk, hanswer⟩ := Option.bind_eq_some_iff.1 hfailed
  -- The request fails while the connection is lost, and the session is canceled.
  rcases ha : k.answer with e | a
  · rw [ha] at hanswer
    obtain ⟨rfl, hcanceled⟩ := Prod.mk.inj (Option.some.inj hanswer)
    obtain ⟨hends, _⟩ := canceled_turn Sample.pinnedScope .reconcile Trial.provider none x hk ha
    exact ⟨k, hk, hcanceled, (hends (.inr (.inl hcanceled)) (.inr (by decide +kernel))).2 rfl⟩
  · rw [ha] at hanswer
    cases hanswer

/-- A turn can be terminal though its run was canceled when a request failed: the provider may say
so. -/
theorem sample_terminal_though_canceled :
    let turn := Sample.pinnedScope.turn .reconcile
    let x := Sample.exhausted.session Sample.vacantCloud
    (turn.exchanges Trial.provider none x).map (fun k => (k.answer.isOk, k.after.canceled)) =
        [(false, true)] ∧
      (turn.run Trial.provider none x).1 = .ok .terminal := by
  decide +kernel

end Scope

end ControlPlane
