import ControlPlane.Proofs.Provider.Execution
import ControlPlane.Provider.Lookup
import Mathlib.Data.List.Forall2

/-!
# The operations on a cloud

What each operation of a site returns on a cloud, as an `iff`: the zone has to be one of the
region's, and the answer is the cloud's, filtered. A look-up for a single resource finds it exactly
if the filtered list holds it alone, and finds none exactly if the list is empty; with several the
program fails. That case is `Site.orNone_returns`, once for all look-ups.
-/

namespace ControlPlane

open Program hiding ofExcept

variable {α β : Type}

/-! ## Checks -/

/-- A single fault is ignored if its kind is one of the program's own, and among those that are to
be ignored. -/
theorem Failure.isIgnored_ofFault (f : Fault) (conditions : List Kind) :
    (Failure.ofFault f).isIgnored conditions =
      (f.kind.isOwn && conditions.any fun kind => f.kind = kind) := by
  have hchain : (Failure.ofFault f).chain = [f] := rfl
  unfold Failure.isIgnored Failure.has
  rw [hchain]
  simp only [List.any_cons, List.any_nil, Bool.or_false]
  rfl

/-- The fault of a failure with a cause is the outer one. -/
theorem Failure.fault_causedBy (fault : Fault) (cause : Failure) :
    (Failure.causedBy fault cause).fault = fault := by
  unfold Failure.fault Failure.top Failure.causedBy
  simp

/-- Two checks in turn pass if both do. -/
theorem bind_eq_ok {ε : Type} {x : Except ε α} {f : α → Except ε β} {b : β} :
    x >>= f = .ok b ↔ ∃ a, x = .ok a ∧ f a = .ok b := by
  cases x with
  | error e =>
    constructor
    · intro h
      cases h
    · rintro ⟨a, ha, h⟩
      cases ha
  | ok a =>
    constructor
    · intro h
      exact ⟨a, rfl, h⟩
    · rintro ⟨a', ha, h⟩
      cases ha
      exact h

/-- A list can be mapped if each of its elements can. -/
theorem exists_mapM_iff {ε : Type} {f : α → Except ε β} {xs : List α} :
    (∃ ys, xs.mapM f = .ok ys) ↔ ∀ x ∈ xs, ∃ y, f x = .ok y := by
  induction xs with
  | nil => exact iff_of_true ⟨[], rfl⟩ nofun
  | cons x rest ih =>
    rw [List.forall_mem_cons, ← ih, List.mapM_cons]
    constructor
    · rintro ⟨ys, hys⟩
      obtain ⟨y, hy, hrest⟩ := bind_eq_ok.1 hys
      obtain ⟨more, hmore, _⟩ := bind_eq_ok.1 hrest
      exact ⟨⟨y, hy⟩, more, hmore⟩
    · rintro ⟨⟨y, hy⟩, more, hmore⟩
      exact ⟨y :: more, bind_eq_ok.2 ⟨y, hy, bind_eq_ok.2 ⟨more, hmore, rfl⟩⟩⟩

/-- What holds of every element and what it is mapped to, holds all along the lists. -/
theorem forall₂_of_mapM {ε : Type} {g : α → Except ε β} {R : α → β → Prop} {xs : List α}
    {ys : List β} (h : xs.mapM g = .ok ys) (hR : ∀ x ∈ xs, ∀ y, g x = .ok y → R x y) :
    List.Forall₂ R xs ys := by
  induction xs generalizing ys with
  | nil =>
    cases h
    exact .nil
  | cons x rest ih =>
    obtain ⟨hx, hrest⟩ := List.forall_mem_cons.1 hR
    rw [List.mapM_cons] at h
    obtain ⟨y, hy, hmore⟩ := bind_eq_ok.1 h
    obtain ⟨more, hys, hdone⟩ := bind_eq_ok.1 hmore
    cases hdone
    exact .cons (hx y hy) (ih hys hrest)

/-- Where a traversal fails, it has succeeded with all that came before. -/
theorem mapM_eq_error {ε : Type} {g : α → Except ε β} {items : List α} {e : ε} :
    items.mapM g = .error e ↔ ∃ before a after, items = before ++ a :: after ∧
      (∀ b ∈ before, ∃ v, g b = .ok v) ∧ g a = .error e := by
  induction items with
  | nil =>
    refine iff_of_false nofun ?_
    rintro ⟨before, a, after, h, _⟩
    exact List.append_ne_nil_of_right_ne_nil before (List.cons_ne_nil a after) h.symm
  | cons item rest ih =>
    rw [List.mapM_cons]
    cases hitem : g item with
    | error e' =>
      constructor
      · intro h
        cases h
        exact ⟨[], item, rest, rfl, nofun, hitem⟩
      · rintro ⟨_ | ⟨b, before⟩, a, after, h, hbefore, ha⟩
        · cases h
          cases hitem.symm.trans ha
          rfl
        · cases h
          obtain ⟨v, hv⟩ := hbefore item List.mem_cons_self
          cases hitem.symm.trans hv
    | ok v =>
      -- After a success the rest decides.
      have hrest : ((Except.ok v : Except ε β) >>= fun w =>
          rest.mapM g >>= fun more => pure (w :: more)) = .error e ↔ rest.mapM g = .error e := by
        cases rest.mapM g with
        | error e' => exact Iff.rfl
        | ok more => exact iff_of_false nofun nofun
      rw [hrest, ih]
      constructor
      · rintro ⟨before, a, after, rfl, hbefore, ha⟩
        exact ⟨item :: before, a, after, rfl, List.forall_mem_cons.2 ⟨⟨v, hitem⟩, hbefore⟩, ha⟩
      · rintro ⟨_ | ⟨b, before⟩, a, after, h, hbefore, ha⟩
        · cases h
          cases hitem.symm.trans ha
        · cases h
          exact ⟨before, a, after, rfl, (List.forall_mem_cons.1 hbefore).2, ha⟩

/-- The check of a zone passes for those in which the region offers the product. -/
theorem Region.checkZone_eq_ok {r : Region} {supported : List String} {zone : String} :
    r.checkZone supported zone = .ok () ↔ zone ∈ r.productZones supported := by
  unfold Region.checkZone
  dsimp only
  split <;> simp [*, raise]

/-- The check of tags passes unless there are none. -/
theorem checkTags_eq_ok {wanted : List String} : checkTags wanted = .ok () ↔ wanted ≠ [] := by
  unfold checkTags
  split <;> simp [*, raise]

/-- A list with an element and no other has that element as its single one. -/
theorem single_eq_ok {items : List α} {description : String} {a : α} :
    single items description = .ok a ↔ items = [a] := by
  match items with
  | [] => simp [single, raise]
  | [b] => simp [single]
  | b :: b' :: rest => simp [single, raise]

/-- A resource has tags if it has each of them. -/
theorem hasTags_iff {tags wanted : List String} :
    hasTags tags wanted = true ↔ ∀ t ∈ wanted, t ∈ tags := by
  unfold hasTags
  rw [List.all_eq_true]
  exact forall₂_congr fun t _ => decide_eq_true_iff

namespace Site

/-- The zones of the region in which there are load balancers. -/
def zones (s : Site) : List String := s.region.productZones s.balancerZones

section

variable {s : Site} {zone : String} {c c' : Cloud} {allowed : Request → Prop}

/-- Before a request, the zone is checked, and nothing else happens. -/
@[simp]
theorem checkZone_returns {u : Unit} :
    (s.checkZone zone).Returns c u c' ↔ zone ∈ s.zones ∧ c' = c := by
  unfold checkZone
  rw [returns_ofExcept]
  exact and_congr_left' Region.checkZone_eq_ok

/-- The check sends nothing. -/
theorem checkZone_orderly : (s.checkZone zone).Orderly allowed := orderly_ofExcept _

/-- An operation in a zone is as orderly as what comes after the zone has been checked. -/
theorem orderly_in_zone {p : Program α} (hp : p.Orderly allowed) :
    (s.checkZone zone >>= fun _ => p).Orderly allowed :=
  checkZone_orderly.bind fun _ => hp

/-! ## Look-ups of a single resource -/

/-- In a zone of the region, the check passes. -/
theorem checkZone_exec (h : zone ∈ s.zones) : (s.checkZone zone).exec c = (.ok (), c) :=
  checkZone_returns.2 ⟨h, rfl⟩

/-- A zone without load balancers is an error of its own, which is not ignored. -/
theorem checkZone_fails (h : zone ∉ s.zones) :
    ∃ e, (s.checkZone zone).exec c = (.error e, c) ∧ e.isIgnored [.notFound] = false := by
  unfold checkZone
  cases hcheck : s.region.checkZone s.balancerZones zone with
  | ok u => exact absurd (Region.checkZone_eq_ok.1 hcheck) h
  | error e =>
    refine ⟨e, rfl, ?_⟩
    unfold Region.checkZone at hcheck
    dsimp only at hcheck
    split at hcheck
    · cases hcheck
    · cases hcheck
      rw [Failure.isIgnored_ofFault]
      rfl

/-- A single element is found, and none where there is no element. -/
theorem orNone_single_returns {items : List α} {description : String} {r : Option α} :
    (Program.ofExcept (single items description)).orNone.Returns c r c' ↔
      items = r.toList ∧ c' = c := by
  unfold Returns
  rw [exec_orNone]
  match items with
  | [] =>
    -- Finding nothing is a fault of the program's own kinds, and is taken for none.
    simp only [single, raise, Program.ofExcept, exec, Failure.isIgnored_ofFault]
    cases r <;> simp [Kind.isOwn, eq_comm]
  | [a] =>
    simp only [single, Program.ofExcept, exec]
    cases r <;> simp [eq_comm]
  | a :: a' :: rest =>
    -- Finding several is a fault that is not ignored.
    simp only [single, raise, Program.ofExcept, exec, Failure.isIgnored_ofFault]
    cases r <;> simp [Kind.isOwn]

/-- Looking a resource up finds what the filtered list holds alone, or finds none if that list is
empty. -/
theorem orNone_returns {list : Program (List α)} {items : List α} {p : α → Bool}
    {description : String} {r : Option α} (hlist : list.exec c = (.ok items, c)) :
    (s.checkZone zone >>= fun _ => list >>= fun found =>
        .ofExcept (single (found.filter p) description)).orNone.Returns c r c' ↔
      zone ∈ s.zones ∧ items.filter p = r.toList ∧ c' = c := by
  by_cases hzone : zone ∈ s.zones
  -- Once the zone has been checked, only the filtered list decides.
  · have hexec : (s.checkZone zone >>= fun _ => list >>= fun found =>
        .ofExcept (single (found.filter p) description)).exec c =
        (Program.ofExcept (single (items.filter p) description)).exec c := by
      rw [exec_bind, checkZone_exec hzone]
      dsimp only
      rw [exec_bind, hlist]
    unfold Returns
    rw [exec_orNone, hexec, ← exec_orNone]
    exact orNone_single_returns.trans (and_iff_right hzone).symm
  · obtain ⟨e, hfails, hignored⟩ := @checkZone_fails s zone c hzone
    unfold Returns
    rw [exec_orNone, exec_bind, hfails]
    simp [hignored, hzone]

/-- A look-up of a single resource in a zone only looks up. -/
theorem readOnly_single {r : Request} (hr : r.isMutation = false)
    {next : r.Reply → Except Failure α} :
    (s.checkZone zone >>= fun _ => request r >>= fun found => .ofExcept (next found)).ReadOnly :=
  orderly_in_zone ((readOnly_request hr).bind fun _ => orderly_ofExcept _)

/-- Finding a load balancer by its tags returns the only one in the zone, or none if there is none.
-/
theorem findBalancer_returns {tags : List String} {r : Option LoadBalancer} (ht : tags ≠ []) :
    (s.findBalancer zone tags).orNone.Returns c r c' ↔ zone ∈ s.zones ∧
      (c.balancers.filter fun b => hasTags b.tags tags && decide (b.zone = zone)) = r.toList ∧
      c' = c := by
  have hok := checkTags_eq_ok.2 ht
  rw [← List.filter_filter]
  unfold findBalancer
  rw [hok]
  exact orNone_returns rfl

/-- Finding a load balancer by its tags only looks up. -/
theorem findBalancer_readOnly {tags : List String} : (s.findBalancer zone tags).ReadOnly :=
  orderly_in_zone ((orderly_ofExcept _).bind fun _ =>
    (readOnly_request rfl).bind fun _ => orderly_ofExcept _)

/-- Finding a backend returns the only one of the load balancer with the name, or none. -/
theorem findBackend_returns {balancerId name : String} {r : Option Backend} :
    (s.findBackend zone balancerId name).orNone.Returns c r c' ↔ zone ∈ s.zones ∧
      (c.backends.filter fun b => decide (b.name = name) && decide (b.balancerId = balancerId)) =
        r.toList ∧ c' = c := by
  rw [← List.filter_filter]
  exact orNone_returns rfl

/-- Finding a backend only looks up. -/
theorem findBackend_readOnly {balancerId name : String} :
    (s.findBackend zone balancerId name).ReadOnly :=
  readOnly_single rfl

/-- Finding a frontend returns the only one of the load balancer with the name, or none. -/
theorem findFrontend_returns {balancerId name : String} {r : Option Frontend} :
    (s.findFrontend zone balancerId name).orNone.Returns c r c' ↔ zone ∈ s.zones ∧
      (c.frontends.filter fun f => decide (f.name = name) && decide (f.balancerId = balancerId)) =
        r.toList ∧ c' = c := by
  rw [← List.filter_filter]
  exact orNone_returns rfl

/-- Finding a frontend only looks up. -/
theorem findFrontend_readOnly {balancerId name : String} :
    (s.findFrontend zone balancerId name).ReadOnly :=
  readOnly_single rfl

/-- Finding a rule returns the only one of the frontend with the name, or none. -/
theorem findRule_returns {frontendId name : String} {r : Option Rule} :
    (s.findRule zone frontendId name).orNone.Returns c r c' ↔ zone ∈ s.zones ∧
      (c.rules.filter fun r => decide (r.name = name) && decide (r.frontendId = frontendId)) =
        r.toList ∧ c' = c := by
  rw [← List.filter_filter]
  exact orNone_returns rfl

/-- Finding a rule only looks up. -/
theorem findRule_readOnly {frontendId name : String} :
    (s.findRule zone frontendId name).ReadOnly :=
  readOnly_single rfl

/-- Finding an attachment returns the only one of the load balancer to the network, or none. -/
theorem findAttachment_returns {balancerId networkId : String} {r : Option Attachment} :
    (s.findAttachment zone balancerId networkId).orNone.Returns c r c' ↔ zone ∈ s.zones ∧
      (c.attachments.filter fun a =>
          decide (a.networkId = networkId) && decide (a.balancerId = balancerId)) =
        r.toList ∧ c' = c := by
  rw [← List.filter_filter]
  exact orNone_returns rfl

/-- Finding an attachment only looks up. -/
theorem findAttachment_readOnly {balancerId networkId : String} :
    (s.findAttachment zone balancerId networkId).ReadOnly :=
  readOnly_single rfl

/-- What is found is in the zone that is looked in; a zone that is none has nothing. -/
theorem findAddress_returns {address : String} {a : FlexibleAddress} :
    (s.findAddress zone address).Returns c a c' ↔ zone ∈ s.zones ∧
      (c.addresses.filter fun a => decide (a.address = address) && decide (a.zone = zone)) = [a] ∧
      c' = c := by
  rw [← List.filter_filter]
  unfold findAddress
  simp only [returns_bind, checkZone_returns, returns_ofExcept, single_eq_ok]
  constructor
  · rintro ⟨_, _, ⟨hz, rfl⟩, found, _, hfound, hsingle, rfl⟩
    cases hfound
    exact ⟨hz, hsingle, rfl⟩
  · rintro ⟨hz, hsingle, rfl⟩
    exact ⟨(), _, ⟨hz, rfl⟩, _, _, rfl, hsingle, rfl⟩

/-! ## Listings -/

/-- What is listed in each of some zones comes in the order of the zones. -/
theorem inZones_exec {zones : List String} {list : String → Program (List α)}
    {items : String → List α} {p : α → Bool}
    (hlist : ∀ zone, (list zone).exec c = (.ok (items zone), c)) :
    (inZones zones list p).exec c = (.ok (zones.flatMap fun zone => (items zone).filter p), c) := by
  induction zones with
  | nil => rfl
  | cons zone rest ih =>
    unfold inZones
    rw [exec_bind, hlist]
    dsimp only
    rw [exec_bind, ih]
    rfl

/-- Listing something zone by zone only looks up if listing it in a zone does. -/
theorem inZones_readOnly {zones : List String} {list : String → Program (List α)} {p : α → Bool}
    (hlist : ∀ zone, (list zone).ReadOnly) : (inZones zones list p).ReadOnly := by
  induction zones with
  | nil => trivial
  | cons zone rest ih => exact (hlist zone).bind fun _ => ih.bind fun _ => trivial

/-- The load balancers of the region with all of some tags, zone by zone. -/
def balancersWith (s : Site) (tags : List String) (c : Cloud) : List LoadBalancer :=
  s.zones.flatMap fun zone =>
    c.balancers.filter fun b => hasTags b.tags tags && decide (b.zone = zone)

/-- The gateways of the region with all of some tags, zone by zone. -/
def gatewaysWith (s : Site) (tags : List String) (c : Cloud) : List Gateway :=
  (s.region.productZones s.gatewayZones).flatMap fun zone =>
    c.gateways.filter fun g => hasTags g.tags tags && decide (g.zone = zone)

/-- Finding load balancers by their tags returns those of the region, zone by zone. -/
theorem findBalancers_returns {tags : List String} {bs : List LoadBalancer} (ht : tags ≠ []) :
    (s.findBalancers tags).Returns c bs c' ↔ bs = s.balancersWith tags c ∧ c' = c := by
  unfold findBalancers Returns
  rw [checkTags_eq_ok.2 ht, exec_bind]
  dsimp only [Program.ofExcept, exec]
  rw [inZones_exec fun zone => rfl]
  simp only [balancersWith, zones, List.filter_filter, Prod.mk.injEq, Except.ok.injEq, eq_comm]

/-- Finding load balancers by their tags only looks up. -/
theorem findBalancers_readOnly {tags : List String} : (s.findBalancers tags).ReadOnly :=
  (orderly_ofExcept _).bind fun _ => inZones_readOnly fun _ => readOnly_request rfl

/-- Finding gateways by their tags returns those of the region, zone by zone. -/
theorem findGateways_returns {tags : List String} {gs : List Gateway} (ht : tags ≠ []) :
    (s.findGateways tags).Returns c gs c' ↔ gs = s.gatewaysWith tags c ∧ c' = c := by
  unfold findGateways Returns
  rw [checkTags_eq_ok.2 ht, exec_bind]
  dsimp only [Program.ofExcept, exec]
  rw [inZones_exec fun zone => rfl]
  simp only [gatewaysWith, List.filter_filter, Prod.mk.injEq, Except.ok.injEq, eq_comm]

/-- Finding gateways by their tags only looks up. -/
theorem findGateways_readOnly {tags : List String} : (s.findGateways tags).ReadOnly :=
  (orderly_ofExcept _).bind fun _ => inZones_readOnly fun _ => readOnly_request rfl

/-- Listing rules returns those of the frontend. -/
theorem listRules_returns {frontendId : String} {rs : List Rule} :
    (s.listRules zone frontendId).Returns c rs c' ↔ zone ∈ s.zones ∧
      rs = (c.rules.filter fun r => decide (r.frontendId = frontendId)) ∧ c' = c := by
  unfold listRules
  simp only [returns_bind, checkZone_returns]
  constructor
  · rintro ⟨_, _, ⟨hz, rfl⟩, h⟩
    cases h
    exact ⟨hz, rfl, rfl⟩
  · rintro ⟨hz, rfl, rfl⟩
    exact ⟨(), _, ⟨hz, rfl⟩, rfl⟩

/-- Listing rules only looks up. -/
theorem listRules_readOnly {frontendId : String} : (s.listRules zone frontendId).ReadOnly :=
  orderly_in_zone (readOnly_request rfl)

/-- The addresses of a private network that one of some load balancers holds. -/
def heldIn (networkId : String) (balancerIds : List String) (c : Cloud) : List PrivateAddress :=
  c.privateAddresses.filter fun a =>
    decide (a.networkId = networkId) && a.holder.any (· ∈ balancerIds)

/-- The addresses that one load balancer holds, by the filters of the request. -/
theorem heldIn_singleton (networkId id : String) (c : Cloud) :
    heldIn networkId [id] c =
      (c.privateAddresses.filter (·.holder = some id)).filter (·.networkId = networkId) := by
  unfold heldIn
  rw [List.filter_filter]
  apply List.filter_congr
  intro a _
  cases a.holder <;> simp

/-- An address is held by a load balancer if it is its holder, in that network. -/
theorem mem_heldIn_singleton {networkId id : String} {a : PrivateAddress} :
    a ∈ heldIn networkId [id] c ↔
      (a ∈ c.privateAddresses ∧ a.holder = some id) ∧ a.networkId = networkId := by
  rw [heldIn_singleton, List.mem_filter, List.mem_filter, decide_eq_true_eq, decide_eq_true_eq]

/-- The addresses of a private network that nothing holds. -/
def availableIn (networkId : String) (c : Cloud) : List PrivateAddress :=
  c.privateAddresses.filter fun a => decide (a.networkId = networkId) && decide (a.holder = none)

/-- Listing held addresses returns those that one of the load balancers holds. -/
theorem heldAddresses_returns {networkId : String} {balancerIds : List String}
    {as : List PrivateAddress} :
    (heldAddresses networkId balancerIds).Returns c as c' ↔
      as = heldIn networkId balancerIds c ∧ c' = c := by
  unfold heldAddresses Returns
  rw [exec_bind]
  simp [request, exec, Cloud.answer, Program.ofExcept, heldIn, eq_comm]

/-- Listing held addresses only looks up. -/
theorem heldAddresses_readOnly {networkId : String} {balancerIds : List String} :
    (heldAddresses networkId balancerIds).ReadOnly :=
  (readOnly_request rfl).bind fun _ => trivial

/-- Listing available addresses returns those that nothing holds. -/
theorem availableAddresses_returns {networkId : String} {as : List PrivateAddress} :
    (availableAddresses networkId).Returns c as c' ↔ as = availableIn networkId c ∧ c' = c := by
  unfold availableAddresses Returns
  rw [exec_bind]
  simp [request, exec, Cloud.answer, Program.ofExcept, availableIn, eq_comm]

/-- Listing available addresses only looks up. -/
theorem availableAddresses_readOnly {networkId : String} :
    (availableAddresses networkId).ReadOnly :=
  (readOnly_request rfl).bind fun _ => trivial

/-! ## Changes -/

/-- A change in a zone returns if the zone is the region's and the cloud answers. -/
theorem change_returns {r : Request} {a : r.Reply} :
    (s.checkZone zone >>= fun _ => request r).Returns c a c' ↔
      zone ∈ s.zones ∧ c.answer r = (.ok a, c') := by
  simp only [returns_bind, checkZone_returns, returns_request]
  constructor
  · rintro ⟨_, _, ⟨hz, rfl⟩, h⟩
    exact ⟨hz, h⟩
  · rintro ⟨hz, h⟩
    exact ⟨(), c, ⟨hz, rfl⟩, h⟩

/-- Creating a load balancer sends its type in lower case, to a zone of the region. -/
theorem createBalancer_returns {name type : String} {addressId : Option String}
    {tags : List String} {isPrivate : Bool} {b : LoadBalancer} :
    (s.createBalancer zone name type addressId tags isPrivate).Returns c b c' ↔ zone ∈ s.zones ∧
      c.createBalancer zone name (Text.lower type) addressId isPrivate tags = (.ok b, c') :=
  change_returns

/-- Bringing a load balancer to another type sends the type in lower case, to a zone of the region.
-/
theorem migrateBalancer_returns {balancerId type : String} {b : LoadBalancer} :
    (s.migrateBalancer zone balancerId type).Returns c b c' ↔ zone ∈ s.zones ∧
      c.migrateBalancer balancerId (Text.lower type) = (.ok b, c') :=
  change_returns

/-- Deleting a load balancer goes to a zone of the region. -/
theorem deleteBalancer_returns {balancerId : String} {release : Bool} {u : Unit} :
    (s.deleteBalancer zone balancerId release).Returns c u c' ↔ zone ∈ s.zones ∧
      c.deleteBalancer balancerId release = (.ok u, c') :=
  change_returns

/-- Replacing a pool goes to a zone of the region. -/
theorem setServers_returns {backendId : String} {servers : List String} {b : Backend} :
    (s.setServers zone backendId servers).Returns c b c' ↔ zone ∈ s.zones ∧
      c.changePool backendId (fun _ => servers) = (.ok b, c') :=
  change_returns

/-- Attaching a load balancer goes to a zone of the region. -/
theorem attach_returns {balancerId networkId : String} {addressId : Option String} {u : Unit} :
    (s.attach zone balancerId networkId addressId).Returns c u c' ↔ zone ∈ s.zones ∧
      c.attach zone balancerId networkId addressId = (.ok u, c') :=
  change_returns

end

end Site

end ControlPlane
