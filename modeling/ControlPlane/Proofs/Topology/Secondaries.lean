import ControlPlane.Proofs.Cloud.Effects
import ControlPlane.Proofs.Ensure.Targets
import ControlPlane.Proofs.Provider.Operations
import ControlPlane.Proofs.Text.LowerCase
import ControlPlane.Proofs.Topology.Steps

/-!
# What ensuring the secondaries leaves

`Secondary.Fits` says that a load balancer is as declared, in its type and its public address, and
`Secondary.fitsPrivately` that its private address does not stand against the declaration. What is
kept fits, since `Secondary.keeps` looks at the addresses and updating brings the type; what is
created fits by the request that makes it.

The run is followed on the load balancers as the cloud stores them: `retain_spec` goes through the
listing, and `createMissing_spec` through the targets. `ensure_spec` puts them together: at every
zone and name that is declared there is one load balancer, it fits, and no other carries the tags of
a secondary. What needs no distinct listing comes before: all secondaries that there are in the end
are returned, and other load balancers are left alone (`ensure_covers`).
-/

namespace ControlPlane

open Program hiding ofExcept
open Cloud (numbered)

/-- Types are the same if they are so in lower case. -/
theorem sameType_iff {a b : String} : sameType a b = true ↔ Text.lower a = Text.lower b := by
  unfold sameType
  exact decide_eq_true_iff

/-- A type is the same as its lower case. -/
theorem sameType_lower (t : String) : sameType t (Text.lower t) = true := by
  rw [sameType_iff, Text.lower_lower]

/-- A declaration resolves to a zone with the type that is sent for it. -/
theorem BalancerSpec.resolve_eq_ok {d : BalancerSpec} {region : Region} {zone type : String}
    (h : d.resolve region = .ok (zone, type)) :
    region.resolve d.zone = .ok zone ∧ type = d.resolvedType := by
  unfold BalancerSpec.resolve at h
  cases hr : region.resolve d.zone with
  | error e =>
    rw [hr] at h
    cases h
  | ok z =>
    rw [hr] at h
    cases h
    exact ⟨rfl, rfl⟩

/-- The id that is found is that of an address of the zone. -/
theorem findAddressId_returns {s : Site} {zone address id : String} {c c' : Cloud}
    (h : (findAddressId s zone address).Returns c id c') :
    c' = c ∧ ∃ a ∈ c.addresses, a.address = address ∧ a.id = id := by
  unfold findAddressId at h
  rw [returns_map] at h
  obtain ⟨a, h, rfl⟩ := h
  unfold Returns at h
  rw [exec_handle] at h
  rcases hfind : (s.findAddress zone address).exec c with ⟨e | a', c1⟩
  · rw [hfind] at h
    dsimp only at h
    split at h <;> cases h
  · rw [hfind] at h
    cases h
    obtain ⟨_, hfilter, rfl⟩ := Site.findAddress_returns.1 hfind
    have hmem := List.mem_singleton_self a
    rw [← hfilter, List.mem_filter, Bool.and_eq_true, decide_eq_true_eq] at hmem
    exact ⟨rfl, a, hmem.1, hmem.2.1, rfl⟩

/-- Finding the id of an address lists addresses only. -/
theorem findAddressId_orderly {allowed : Request → Prop} {s : Site} {zone address : String}
    (h : allowed (.listAddresses zone address)) :
    (findAddressId s zone address).Orderly allowed := by
  have hfind : (s.findAddress zone address).Orderly fun r => r.isMutation = false ∧ allowed r :=
    Site.checkZone_orderly.bind fun _ =>
      (orderly_request ⟨rfl, h⟩).bind fun _ => orderly_ofExcept _
  refine Orderly.map _ (hfind.handle (fun e he => ?_) fun e => ?_)
  · rw [isIgnored_notFound he]
    rfl
  · split <;> trivial

/-- Finding the id of an address only looks up. -/
theorem findAddressId_readOnly {s : Site} {zone address : String} :
    (findAddressId s zone address).ReadOnly :=
  findAddressId_orderly rfl

/-- A request that is sent to create a load balancer. -/
def Request.IsCreation : Request → Prop
  | .listAddresses .. | .createBalancer .. => True
  | _ => False

/-- What is sent to create a load balancer is about load balancers. -/
theorem Request.IsCreation.isStructural {r : Request} (h : r.IsCreation) : r.IsStructural := by
  cases r <;> first
    | exact trivial
    | exact h.elim
    | rfl

namespace Secondary

variable {s : Scope}

/-! ## Zones, names, declarations -/

/-- The name of a position is that of the cluster with the position behind it. -/
theorem desiredName_eq (s : Scope) (i : Nat) :
    desiredName s i = s.cluster.name ++ "-" ++ toString i := rfl

/-- Different positions have different names. -/
theorem desiredName_injective (s : Scope) : Function.Injective (desiredName s) := by
  intro i j h
  rw [desiredName_eq, desiredName_eq] at h
  exact Cloud.toString_injective ((String.append_right_inj _).1 h)

/-- A declaration goes to the zone that it resolves to, if there are load balancers there. -/
theorem desiredZone_eq_ok {d : BalancerSpec} {zone : String} :
    desiredZone s d = .ok zone ↔
      s.site.region.resolve d.zone = .ok zone ∧ zone ∈ s.site.zones := by
  have hcheck (z : String) :
      s.site.region.checkZone s.site.balancerZones z = .ok () ↔ z ∈ s.site.zones :=
    Region.checkZone_eq_ok
  unfold desiredZone
  rw [bind_eq_ok]
  constructor
  · rintro ⟨z, hz, h⟩
    obtain ⟨u, hu, h⟩ := bind_eq_ok.1 h
    cases h
    exact ⟨hz, (hcheck zone).1 hu⟩
  · rintro ⟨hz, hmem⟩
    exact ⟨zone, hz, bind_eq_ok.2 ⟨(), (hcheck zone).2 hmem, rfl⟩⟩

/-- A zone that cannot be used is a misconfiguration. -/
theorem desiredZone_terminal {d : BalancerSpec} {e : Failure} (h : desiredZone s d = .error e) :
    e.fault.kind = .terminal := by
  unfold desiredZone at h
  cases hresolve : s.site.region.resolve d.zone with
  | error e' =>
    rw [hresolve] at h
    cases h
    -- The text is no zone, or one of another region.
    unfold Region.resolve at hresolve
    split at hresolve
    · cases hresolve
    · split at hresolve <;> cases hresolve
      exact congrArg Fault.kind (Failure.fault_causedBy _ _)
  | ok zone =>
    rw [hresolve] at h
    change (s.site.region.checkZone s.site.balancerZones zone >>= fun _ => .ok zone) = .error e at h
    cases hcheck : s.site.region.checkZone s.site.balancerZones zone with
    | ok u =>
      rw [hcheck] at h
      cases h
    | error e' =>
      rw [hcheck] at h
      cases h
      -- The product is not offered in the zone.
      unfold Region.checkZone at hcheck
      dsimp only at hcheck
      split at hcheck <;> cases hcheck
      rfl

/-- The load balancer is one of the cluster's secondaries: it has the tags, in a zone of the
region. -/
def IsSecondary (s : Scope) (b : LoadBalancer) : Prop :=
  b.zone ∈ s.site.zones ∧ hasTags b.tags (tags s) = true

/-- The zone and the name of a load balancer. -/
def place (b : LoadBalancer) : String × String := (b.zone, b.name)

/-- What is declared at the place of a load balancer. -/
def declared (s : Scope) (desired : List BalancerSpec) (b : LoadBalancer) : Option BalancerSpec :=
  (reconciler s).desiredAt desired b.zone b.name

/-- A load balancer with the private address that is declared at its place. -/
def pinned (s : Scope) (desired : List BalancerSpec) (b : LoadBalancer) : LoadBalancer :=
  { b with privateAddress := (declared s desired b).bind (·.privateAddress) }

/-- A load balancer is as declared, in its type and its public address. An empty type declares
nothing. -/
structure Fits (s : Scope) (b : LoadBalancer) (d : BalancerSpec) : Prop where
  type : ∀ t, d.type = some t → t ≠ "" → sameType t b.type = true
  address : s.balancersPrivate = false → addressFits b d = true

/-- On a cloud, the private address of a load balancer fits a declaration. -/
def fitsPrivately (s : Scope) (c : Cloud) (b : LoadBalancer) (d : BalancerSpec) : Bool :=
  match d.privateAddress, s.privateNetworkId with
  | some address, some networkId =>
    let held := Site.heldIn networkId [b.id] c
    decide (held = []) || held.any (·.address = address)
  | _, _ => true

/-! ## Single steps -/

variable {c c' : Cloud} {b : LoadBalancer} {d : BalancerSpec}

/-- A declared private address is the load balancer's, or it holds none as yet. -/
theorem fitsPrivately_iff {address networkId : String} (hd : d.privateAddress = some address)
    (hnetwork : s.privateNetworkId = some networkId) :
    fitsPrivately s c b d = true ↔ Site.heldIn networkId [b.id] c = [] ∨
      ∃ a ∈ Site.heldIn networkId [b.id] c, a.address = address := by
  unfold fitsPrivately
  rw [hd, hnetwork]
  dsimp only
  rw [Bool.or_eq_true, decide_eq_true_eq, List.any_eq_true]
  simp only [decide_eq_true_eq]

/-- A secondary has at least one tag. -/
theorem tags_ne_nil (s : Scope) : tags s ≠ [] := List.cons_ne_nil _ _

/-- Listing the secondaries only looks up. -/
theorem list_readOnly : (list s).ReadOnly := Site.findBalancers_readOnly

/-- Comparing private addresses only looks up. -/
theorem privateAddressFits_readOnly : (privateAddressFits s b d).ReadOnly := by
  unfold privateAddressFits
  split
  · exact Site.heldAddresses_readOnly.bind fun _ => trivial
  · trivial

/-- Comparing private addresses returns whether the private address fits on the cloud. -/
theorem privateAddressFits_returns {r : Bool} :
    (privateAddressFits s b d).Returns c r c' ↔ r = fitsPrivately s c b d ∧ c' = c := by
  unfold privateAddressFits fitsPrivately
  rcases d.privateAddress with _ | address
  · exact returns_done
  · rcases s.privateNetworkId with _ | networkId
    · exact returns_done
    · simp only [returns_bind, Site.heldAddresses_returns, pure_eq, returns_done]
      constructor
      · rintro ⟨held, _, ⟨rfl, rfl⟩, rfl, rfl⟩
        exact ⟨rfl, rfl⟩
      · rintro ⟨rfl, rfl⟩
        exact ⟨_, _, ⟨rfl, rfl⟩, rfl, rfl⟩

/-- Deciding whether a load balancer is kept only looks up. -/
theorem keeps_readOnly : (keeps s b d).ReadOnly := by
  unfold keeps
  split
  · exact privateAddressFits_readOnly
  · trivial

/-- A load balancer is kept if its addresses fit, the public one in a public cluster only. -/
theorem keeps_returns {r : Bool} :
    (keeps s b d).Returns c r c' ↔
      r = ((s.balancersPrivate || addressFits b d) && fitsPrivately s c b d) ∧ c' = c := by
  unfold keeps
  split
  · next h => rw [h, Bool.true_and, privateAddressFits_returns]
  · next h =>
    rw [Bool.not_eq_true] at h
    rw [h, Bool.false_and]
    exact returns_done

/-- Deleting a secondary is about load balancers. -/
theorem delete_orderly : (delete s b).Orderly Request.IsStructural :=
  Site.orderly_in_zone (orderly_request trivial)

/-- Where the deletion returns, the load balancer is gone with all under it, and its address is
released or given back. -/
theorem delete_returns {u : Unit} (h : (delete s b).Returns c u c') :
    c' = { c.removeBalancer b.id with addresses := c'.addresses } :=
  (Cloud.deleteBalancer_effect (Site.deleteBalancer_returns.1 h).2).2

/-- A look-up is a request about load balancers. -/
theorem isStructural_of_lookup (r : Request) (h : r.isMutation = false) : r.IsStructural := by
  cases r <;> first
    | exact trivial
    | exact h

/-- Updating a secondary is about load balancers. -/
theorem update_orderly : (update s b d).Orderly Request.IsStructural := by
  cases update_steps s b d with
  | kept _ hp => exact hp ▸ trivial
  | migrated t _ _ hp =>
    exact hp ▸ (Site.orderly_in_zone (orderly_request trivial)).bind fun _ => trivial

/-- What updating does: a load balancer of the declared type stays as it is, and so does any if no
type is declared; else it is migrated. -/
theorem update_cases {r : LoadBalancer} (h : (update s b d).Returns c r c') :
    ((∀ t, d.type = some t → sameType t b.type = true) ∧
        r = { b with privateAddress := d.privateAddress } ∧ c' = c) ∨
      ∃ t old, d.type = some t ∧ c.balancers.find? (·.id = b.id) = some old ∧
        r = { old with type := Text.lower t, privateAddress := d.privateAddress } ∧
        c' = { c with balancers := c.balancers.map fun x =>
          if x.id = b.id then { x with type := Text.lower t } else x } := by
  cases update_steps s b d with
  | kept htype hp =>
    rw [hp] at h
    obtain ⟨hr, hc'⟩ := returns_done.1 h
    exact .inl ⟨htype, hr, hc'⟩
  | migrated t htype _ hp =>
    rw [hp] at h
    obtain ⟨b1, c1, hmigrate, hdone⟩ := returns_bind.1 h
    obtain ⟨rfl, rfl⟩ := returns_done.1 hdone
    obtain ⟨_, hanswer⟩ := Site.migrateBalancer_returns.1 hmigrate
    obtain ⟨⟨old, hold, rfl⟩, hc'⟩ := Cloud.migrateBalancer_effect hanswer
    exact .inr ⟨t, old, htype, hold, rfl, hc'⟩

/-- Updating brings a load balancer to a type that is the declared one, if one is declared, and
changes no other load balancer. -/
theorem update_returns {r : LoadBalancer} (hc : c.Sound) (hb : b ∈ c.balancers)
    (h : (update s b d).Returns c r c') :
    ∃ t, r = { b with type := t, privateAddress := d.privateAddress } ∧
      (∀ t', d.type = some t' → sameType t' t = true) ∧
      c' = { c with balancers := c.balancers.map fun x =>
        if x.id = b.id then { x with type := t } else x } := by
  rcases update_cases h with ⟨htype, hr, hc'⟩ | ⟨t, old, ht, hold, hr, hc'⟩
  -- Giving the load balancer the type that it has changes nothing.
  · have hsame : (c.balancers.map fun x => if x.id = b.id then { x with type := b.type } else x) =
        c.balancers := by
      refine (List.map_congr_left fun x hx => ?_).trans (List.map_id _)
      split
      · next hid =>
        rw [hc.balancers.inj hx hb hid]
        rfl
      · rfl
    exact ⟨b.type, hr, htype, by rw [hc', hsame]⟩
  · have hself : old = b := hc.balancers.eq_of_find? hb hold
    have htype : ∀ t', d.type = some t' → sameType t' (Text.lower t) = true := by
      intro t' ht'
      rw [ht] at ht'
      cases ht'
      exact sameType_lower t
    rw [hself] at hr
    exact ⟨Text.lower t, hr, htype, hc'⟩

/-- Updating makes no load balancer and leaves the others alone, also where the one that is meant is
not there. -/
theorem update_changes {r : LoadBalancer} (h : (update s b d).Returns c r c') :
    r.id = b.id ∧ (∀ x ∈ c'.balancers, ∃ x0 ∈ c.balancers, x = { x0 with type := x.type }) ∧
      ∀ x ∈ c.balancers, x.id ≠ b.id → x ∈ c'.balancers := by
  rcases update_cases h with ⟨_, rfl, rfl⟩ | ⟨t, old, _, hold, rfl, hc'⟩
  · exact ⟨rfl, fun x hx => ⟨x, hx, rfl⟩, fun x hx _ => hx⟩
  · have hid : old.id = b.id := by simpa using List.find?_some hold
    have horigin : ∀ x ∈ c'.balancers, ∃ x0 ∈ c.balancers, x = { x0 with type := x.type } := by
      intro x hx
      rw [hc'] at hx
      obtain ⟨x0, hx0, rfl⟩ := List.mem_map.1 hx
      refine ⟨x0, hx0, ?_⟩
      split <;> rfl
    have hothers : ∀ x ∈ c.balancers, x.id ≠ b.id → x ∈ c'.balancers := by
      intro x hx hne
      rw [hc']
      exact List.mem_map.2 ⟨x, hx, if_neg hne⟩
    exact ⟨hid, horigin, hothers⟩

/-- Creating one sends what is sent to create a load balancer. -/
theorem create_orderly {zone name : String} :
    (create s zone name d).Orderly Request.IsCreation := by
  obtain ⟨step, heq, hstep⟩ := create_steps s zone name d
  rw [heq]
  refine (orderly_ofExcept _).bind fun zt => ?_
  cases hstep zt with
  | pinned address _ hp =>
    rw [hp]
    refine (findAddressId_orderly trivial).bind fun addressId => ?_
    exact (Site.orderly_in_zone (orderly_request trivial)).bind fun _ => trivial
  | managed _ hp =>
    exact hp ▸ (Site.orderly_in_zone (orderly_request trivial)).bind fun _ => trivial

/-- What is tagged with more has the tags that are wanted. -/
theorem hasTags_append (wanted more : List String) : hasTags (wanted ++ more) wanted = true :=
  hasTags_iff.2 fun _ ht => List.mem_append_left more ht

/-- The type that is sent for a declared one is the declared one. -/
theorem sameType_resolved {t : String} (ht : d.type = some t) (hne : t ≠ "") :
    sameType t (Text.lower d.resolvedType) = true := by
  unfold BalancerSpec.resolvedType
  rw [ht]
  split
  · next heq => cases heq
  · next heq => exact absurd (Option.some.inj heq) hne
  · next t' _ heq =>
    cases heq
    exact sameType_lower _

/-- What is created is a secondary at the given place, under a fresh id, and fits. -/
structure Creates (s : Scope) (zone name : String) (d : BalancerSpec) (c : Cloud)
    (b : LoadBalancer) (c' : Cloud) : Prop where
  id : b.id = numbered "lb" c.nextId
  place : place b = (zone, name)
  secondary : IsSecondary s b
  tags : b.tags = tags s ∨ b.tags = tags s ++ [Tag.managedAddress]
  fits : Fits s b d
  nextId : c.nextId < c'.nextId
  balancers : c'.balancers = c.balancers ++ [b]

/-- The load balancer that a creation request makes fits, if its address does. -/
theorem creates_of_effect {zone name : String} {addressId : Option String} {more : List String}
    (hmore : more = [] ∨ more = [Tag.managedAddress])
    (h : (s.site.createBalancer zone name d.resolvedType addressId (tags s ++ more)
      s.balancersPrivate).Returns c b c')
    (haddress : s.balancersPrivate = false → addressFits b d = true) :
    Creates s zone name d c b c' := by
  obtain ⟨hzone, h⟩ := Site.createBalancer_returns.1 h
  obtain ⟨hb, hnext, hc'⟩ := Cloud.createBalancer_effect h
  have htags : b.tags = tags s ++ more := congrArg LoadBalancer.tags hb
  have hz : b.zone = zone := congrArg LoadBalancer.zone hb
  have hn : b.name = name := congrArg LoadBalancer.name hb
  have htype : b.type = Text.lower d.resolvedType := congrArg LoadBalancer.type hb
  constructor
  · exact congrArg LoadBalancer.id hb
  · rw [Secondary.place, hz, hn]
  · refine ⟨by rw [hz]; exact hzone, ?_⟩
    rw [htags]
    exact hasTags_append _ _
  · -- An address that is allocated is marked by a tag.
    rcases hmore with rfl | rfl
    · exact .inl (by rw [htags, List.append_nil])
    · exact .inr htags
  · refine ⟨fun t ht hne => ?_, haddress⟩
    rw [htype]
    exact sameType_resolved ht hne
  · exact hnext
  · rw [hc']

/-- What is created under a pinned address fits: the address that the cloud looks up by its id is
the one that was found. -/
theorem creates_pinned {zone name address addressId : String} (hc : c.Sound)
    (haddress : d.address = some address)
    (hfound : ∃ a ∈ c.addresses, a.address = address ∧ a.id = addressId)
    (h : (s.site.createBalancer zone name d.resolvedType (some addressId) (tags s)
      s.balancersPrivate).Returns c b c') :
    Creates s zone name d c b c' := by
  obtain ⟨a, ha, haddr, hid⟩ := hfound
  obtain ⟨_, hanswer⟩ := Site.createBalancer_returns.1 h
  obtain ⟨a', hfind, hheld⟩ := Cloud.createBalancer_pinned hanswer
  -- Ids are distinct, so the address looked up by its id is the one looked up by what it says.
  have ha' : a' ∈ c.addresses := List.mem_of_find?_eq_some hfind
  have hid' : a'.id = addressId := by simpa using List.find?_some hfind
  have hsame : a' = a :=
    hc.addresses.inj ha' ha (hid'.trans hid.symm)
  have hfits : addressFits b d = true := by
    unfold addressFits LoadBalancer.holds
    rw [haddress, hheld, hsame]
    simp [haddr]
  rw [← List.append_nil (tags s)] at h
  exact creates_of_effect (.inl rfl) h fun _ => hfits

/-- What is created without a pinned address fits, as its tags say that the provider allocated the
address. -/
theorem creates_allocated {zone name : String} (haddress : d.address = none)
    (h : (s.site.createBalancer zone name d.resolvedType none (tags s ++ [Tag.managedAddress])
      s.balancersPrivate).Returns c b c') :
    Creates s zone name d c b c' := by
  refine creates_of_effect (.inr rfl) h fun hpublic => ?_
  rw [hpublic] at h
  obtain ⟨_, hanswer⟩ := Site.createBalancer_returns.1 h
  have htags : b.tags = tags s ++ [Tag.managedAddress] :=
    congrArg LoadBalancer.tags (Cloud.createBalancer_effect hanswer).1
  have hheld : b.addresses ≠ [] := Cloud.createBalancer_public hanswer
  unfold addressFits
  rw [haddress, htags]
  simp [hheld]

/-- What is created is returned with the private address that is declared. -/
theorem create_returns {zone name : String} {r : LoadBalancer} (hc : c.Sound)
    (h : (create s zone name d).Returns c r c') :
    ∃ b, r = { b with privateAddress := d.privateAddress } ∧ Creates s zone name d c b c' := by
  obtain ⟨step, heq, hstep⟩ := create_steps s zone name d
  rw [heq] at h
  obtain ⟨⟨z, type⟩, c1, hresolve, hrest⟩ := returns_bind.1 h
  obtain ⟨hok, rfl⟩ := returns_ofExcept.1 hresolve
  obtain ⟨_, rfl⟩ := BalancerSpec.resolve_eq_ok hok
  cases hstep (z, d.resolvedType) with
  | pinned address haddress hp =>
    -- The address of the pin is looked up before the load balancer is created.
    rw [hp] at hrest
    obtain ⟨addressId, c2, hfind, hrest'⟩ := returns_bind.1 hrest
    obtain ⟨rfl, hfound⟩ := findAddressId_returns hfind
    obtain ⟨b, c3, hcreate, hdone⟩ := returns_bind.1 hrest'
    obtain ⟨rfl, rfl⟩ := returns_done.1 hdone
    exact ⟨b, rfl, creates_pinned hc haddress hfound hcreate⟩
  | managed haddress hp =>
    rw [hp] at hrest
    obtain ⟨b, c3, hcreate, hdone⟩ := returns_bind.1 hrest
    obtain ⟨rfl, rfl⟩ := returns_done.1 hdone
    exact ⟨b, rfl, creates_allocated haddress hcreate⟩

/-! ## The listing -/

variable {desired : List BalancerSpec} {wanted : List (String × List BalancerSpec)}
  {taken : List (String × String)} {live kept : List LoadBalancer}

/-- The first of the listed load balancers is kept and updated if it can be, and else deleted. -/
theorem retain_cons (b : LoadBalancer) (live : List LoadBalancer) :
    (reconciler s).retain wanted taken (b :: live) =
      match (reconciler s).match? wanted taken b with
      | none => delete s b >>= fun _ => (reconciler s).retain wanted taken live
      | some d => keeps s b d >>= fun kept =>
        if kept then update s b d >>= fun updated =>
          (reconciler s).retain wanted (place b :: taken) live >>= fun more =>
            done (updated :: more)
        else delete s b >>= fun _ => (reconciler s).retain wanted taken live := by
  conv_lhs => unfold Reconciler.retain
  dsimp only
  rcases (reconciler s).match? wanted taken b with _ | d
  · rfl
  · refine congrArg (keeps s b d >>= ·) (funext fun kept => ?_)
    cases kept <;> rfl

/-- Retaining secondaries is about load balancers. -/
theorem retain_orderly :
    ((reconciler s).retain wanted taken live).Orderly Request.IsStructural := by
  induction live generalizing taken with
  | nil => trivial
  | cons b rest ih =>
    rw [retain_cons]
    split
    · exact delete_orderly.bind fun _ => ih
    · refine (keeps_readOnly.mono isStructural_of_lookup).bind fun kept => ?_
      split
      · exact update_orderly.bind fun _ => ih.bind fun _ => trivial
      · exact delete_orderly.bind fun _ => ih

/-- What retaining does with the first of the listed load balancers, and with the others after it:
either it is deleted, or it can be kept for what is declared at its place, is updated, and its place
is taken. -/
theorem retain_cons_cases
    (h : ((reconciler s).retain wanted taken (b :: live)).Returns c kept c') :
    (∃ u c1, (delete s b).Returns c u c1 ∧
        ((reconciler s).retain wanted taken live).Returns c1 kept c') ∨
      ∃ d r more c1, (reconciler s).match? wanted taken b = some d ∧
        (s.balancersPrivate || addressFits b d) = true ∧ fitsPrivately s c b d = true ∧
        (update s b d).Returns c r c1 ∧
        ((reconciler s).retain wanted (place b :: taken) live).Returns c1 more c' ∧
        kept = r :: more := by
  have hdelete : (delete s b >>= fun _ => (reconciler s).retain wanted taken live).Returns
      c kept c' → ∃ u c1, (delete s b).Returns c u c1 ∧
        ((reconciler s).retain wanted taken live).Returns c1 kept c' := returns_bind.1
  rw [retain_cons] at h
  split at h
  · -- Its place is not desired, or taken.
    exact .inl (hdelete h)
  · next d hd =>
    obtain ⟨keep, c0, hkeeps, hrest⟩ := returns_bind.1 h
    obtain ⟨hkeep, rfl⟩ := keeps_returns.1 hkeeps
    split at hrest
    · next htrue =>
      rw [htrue, eq_comm, Bool.and_eq_true] at hkeep
      obtain ⟨r, c1, hupdate, hmore⟩ := returns_bind.1 hrest
      obtain ⟨more, c2, hretain, hdone⟩ := returns_bind.1 hmore
      obtain ⟨rfl, rfl⟩ := returns_done.1 hdone
      exact .inr ⟨d, r, more, c1, hd, hkeep.1, hkeep.2, hupdate, hretain, rfl⟩
    · -- It does not fit what is declared at its place.
      exact .inl (hdelete hrest)

/-- However often load balancers are listed: a listed one that is still there is among those kept,
and one that is not listed is left alone. -/
structure Covers (listed : LoadBalancer → Prop) (kept : List LoadBalancer) (c c' : Cloud) :
    Prop where
  covered : ∀ x ∈ c'.balancers, listed x → x.id ∈ kept.map (·.id)
  others : ∀ x ∈ c.balancers, ¬listed x → x ∈ c'.balancers

/-- Retaining makes no load balancer, and those that it does not keep are gone. -/
theorem retain_covers (h : ((reconciler s).retain wanted taken live).Returns c kept c') :
    (∀ x ∈ c'.balancers, ∃ x0 ∈ c.balancers, x = { x0 with type := x.type }) ∧
      Covers (fun x => x.id ∈ live.map (·.id)) kept c c' := by
  induction live generalizing taken kept c with
  | nil =>
    obtain ⟨rfl, rfl⟩ := returns_done.1 h
    exact ⟨fun x hx => ⟨x, hx, rfl⟩, nofun, fun x hx _ => hx⟩
  | cons b live ih =>
    have hlisted : ∀ x : LoadBalancer,
        x.id ∈ (b :: live).map (·.id) ↔ x.id = b.id ∨ x.id ∈ live.map (·.id) := by
      intro x
      rw [List.map_cons, List.mem_cons]
    rcases retain_cons_cases h with
      ⟨u, c1, hdelete, hretain⟩ | ⟨d, r, more, c1, _, _, _, hupdate, hretain, rfl⟩
    · have hmem : ∀ x, x ∈ c1.balancers ↔ x ∈ c.balancers ∧ x.id ≠ b.id := by
        intro x
        rw [delete_returns hdelete]
        show x ∈ c.balancers.filter (·.id ≠ b.id) ↔ _
        rw [List.mem_filter, decide_eq_true_eq]
      obtain ⟨horigin, hcovers⟩ := ih hretain
      refine ⟨fun x hx => ?_, fun x hx hid => ?_, fun x hx hid => ?_⟩
      · obtain ⟨x0, hx0, heq⟩ := horigin x hx
        exact ⟨x0, ((hmem x0).1 hx0).1, heq⟩
      -- The deleted one is gone for good, since none is made.
      · obtain ⟨x0, hx0, heq⟩ := horigin x hx
        have hne : x.id ≠ b.id := by
          rw [heq]
          exact ((hmem x0).1 hx0).2
        exact hcovers.covered x hx (((hlisted x).1 hid).resolve_left hne)
      · rw [hlisted, not_or] at hid
        exact hcovers.others x ((hmem x).2 ⟨hx, hid.1⟩) hid.2
    · obtain ⟨hself, hold, hothers⟩ := update_changes hupdate
      obtain ⟨horigin, hcovers⟩ := ih hretain
      refine ⟨fun x hx => ?_, fun x hx hid => ?_, fun x hx hid => ?_⟩
      · obtain ⟨x1, hx1, heq1⟩ := horigin x hx
        obtain ⟨x0, hx0, heq0⟩ := hold x1 hx1
        refine ⟨x0, hx0, ?_⟩
        rw [heq1, heq0]
      · rw [List.map_cons, List.mem_cons, hself]
        exact ((hlisted x).1 hid).imp id (hcovers.covered x hx)
      · rw [hlisted, not_or] at hid
        exact hcovers.others x (hothers x hx hid.1) hid.2

/-- What retaining leaves of the listed load balancers: `stored` are those that are kept, as they
are then. -/
structure Retains (s : Scope) (desired : List BalancerSpec) (taken : List (String × String))
    (live stored : List LoadBalancer) (c c' : Cloud) : Prop where
  mem : ∀ b ∈ stored, b ∈ c'.balancers
  origin : ∀ b ∈ stored, ∃ b0 ∈ live, b = { b0 with type := b.type }
  nodup : (stored.map place).Nodup
  untaken : ∀ b ∈ stored, place b ∉ taken
  fits : ∀ b ∈ stored, ∃ d, declared s desired b = some d ∧ Fits s b d ∧
    fitsPrivately s c' b d = true

/-- What a load balancer holds on a private network is under it. -/
theorem fitsPrivately_of_untouched (h : Cloud.Untouched b.id c c') :
    fitsPrivately s c' b d = fitsPrivately s c b d := by
  have hheld : ∀ networkId, Site.heldIn networkId [b.id] c' = Site.heldIn networkId [b.id] c := by
    intro networkId
    rw [Site.heldIn_singleton, Site.heldIn_singleton, h.privateAddresses]
  unfold fitsPrivately
  split
  · next networkId _ _ => rw [hheld]
  · rfl

/-- One load balancer is brought to a type, and the others are as they were. -/
theorem mem_retyped {balancers : List LoadBalancer} (hids : (balancers.map (·.id)).Nodup)
    (hb : b ∈ balancers) {t : String} {x : LoadBalancer} :
    (x ∈ balancers.map fun x => if x.id = b.id then { x with type := t } else x) ↔
      x = { b with type := t } ∨ x.id ≠ b.id ∧ x ∈ balancers := by
  rw [List.mem_map]
  constructor
  · rintro ⟨y, hy, rfl⟩
    split
    · next hid =>
      rw [List.inj_on_of_nodup_map hids hy hb hid]
      exact .inl rfl
    · next hid => exact .inr ⟨hid, hy⟩
  · rintro (rfl | ⟨hid, hx⟩)
    · exact ⟨b, hb, if_pos rfl⟩
    · exact ⟨x, hx, if_neg hid⟩

/-- Retaining after the first load balancer has been kept and brought to a type. -/
theorem Retains.of_update {stored : List LoadBalancer} {t : String} (htaken : place b ∉ taken)
    (hd : declared s desired b = some d)
    (haddress : (s.balancersPrivate || addressFits b d) = true)
    (hprivate : fitsPrivately s c b d = true)
    (htype : ∀ t', d.type = some t' → sameType t' t = true) {c1 : Cloud}
    (hc1 : c1 = { c with balancers := c.balancers.map fun x =>
      if x.id = b.id then { x with type := t } else x })
    (hself : { b with type := t } ∈ c'.balancers) (hrun : Cloud.Restructures c1 c')
    (h : Retains s desired (place b :: taken) live stored c1 c') :
    Retains s desired taken (b :: live) ({ b with type := t } :: stored) c c' := by
  constructor
  · rintro x (_ | ⟨_, hx⟩)
    · exact hself
    · exact h.mem x hx
  · rintro x (_ | ⟨_, hx⟩)
    · exact ⟨b, List.mem_cons_self, rfl⟩
    · obtain ⟨b0, hb0, heq⟩ := h.origin x hx
      exact ⟨b0, List.mem_cons_of_mem _ hb0, heq⟩
  · rw [List.map_cons, List.nodup_cons]
    refine ⟨fun hplace => ?_, h.nodup⟩
    obtain ⟨x, hx, heq⟩ := List.mem_map.1 hplace
    exact h.untaken x hx (List.mem_cons.2 (.inl heq))
  · rintro x (_ | ⟨_, hx⟩)
    · exact htaken
    · exact fun hmem => h.untaken x hx (List.mem_cons_of_mem _ hmem)
  · rintro x (_ | ⟨_, hx⟩)
    · refine ⟨d, hd, ⟨fun t' ht' _ => htype t' ht', fun hpublic => ?_⟩, ?_⟩
      · rw [hpublic, Bool.false_or] at haddress
        exact haddress
      -- What it holds was looked at before it was updated, and has been left alone since.
      · have hstart : Cloud.Untouched b.id c c1 := by
          rw [hc1]
          exact ⟨rfl, rfl, rfl, rfl⟩
        have hrest : Cloud.Untouched b.id c1 c' := hrun.untouched b.id (.inl ⟨_, hself, rfl⟩)
        exact (fitsPrivately_of_untouched (hstart.trans hrest)).trans hprivate
    · exact h.fits x hx

/-- Retaining keeps load balancers that fit, at most one at a place. -/
theorem retain_spec (hw : (reconciler s).groups desired = .ok wanted) (hc : c.Sound)
    (hids : (live.map (·.id)).Nodup) (hlive : ∀ b ∈ live, b ∈ c.balancers)
    (h : ((reconciler s).retain wanted taken live).Returns c kept c') :
    ∃ stored, kept = stored.map (pinned s desired) ∧
      Retains s desired taken live stored c c' := by
  induction live generalizing taken kept c with
  | nil =>
    obtain ⟨rfl, rfl⟩ := returns_done.1 h
    exact ⟨[], rfl, nofun, nofun, List.nodup_nil, nofun, nofun⟩
  | cons b live ih =>
    -- What is still listed is there as it was, since each step changes the first one alone.
    rw [List.map_cons, List.nodup_cons] at hids
    have hb : b ∈ c.balancers := hlive b List.mem_cons_self
    have hne : ∀ x ∈ live, x.id ≠ b.id := fun x hx heq =>
      hids.1 (heq ▸ List.mem_map_of_mem hx)
    rcases retain_cons_cases h with ⟨u, c1, hdelete, hretain⟩ |
      ⟨d, r, more, c1, hmatch, haddress, hprivate, hupdate, hretain, rfl⟩
    -- Deletion leaves the rest of the listing in place.
    · have hlive1 : ∀ x ∈ live, x ∈ c1.balancers := by
        intro x hx
        have hx' : x ∈ c.balancers := hlive x (List.mem_cons_of_mem _ hx)
        rw [delete_returns hdelete]
        exact List.mem_filter.2 ⟨hx', decide_eq_true (hne x hx)⟩
      obtain ⟨stored, hkept, hretains⟩ := ih (hc.returns hdelete) hids.2 hlive1 hretain
      refine ⟨stored, hkept, { hretains with origin := fun x hx => ?_ }⟩
      obtain ⟨b0, hb0, heq⟩ := hretains.origin x hx
      exact ⟨b0, List.mem_cons_of_mem _ hb0, heq⟩
    · obtain ⟨hplace, hd⟩ := (Reconciler.match?_eq_some hw).1 hmatch
      obtain ⟨t, rfl, htype, hc1⟩ := update_returns hc hb hupdate
      have hsound : c1.Sound := hc.returns hupdate
      have hmem1 : ∀ x, x ∈ c1.balancers ↔
          x = { b with type := t } ∨ x.id ≠ b.id ∧ x ∈ c.balancers := by
        intro x
        rw [hc1]
        exact mem_retyped hc.balancers.nodup hb
      have hlive1 : ∀ x ∈ live, x ∈ c1.balancers := fun x hx =>
        (hmem1 x).2 (.inr ⟨hne x hx, hlive x (List.mem_cons_of_mem _ hx)⟩)
      obtain ⟨stored, hmore, hretains⟩ := ih hsound hids.2 hlive1 hretain
      have hpinned : pinned s desired { b with type := t } =
          { b with type := t, privateAddress := d.privateAddress } := by
        have hd' : declared s desired { b with type := t } = some d := hd
        rw [pinned, hd']
        rfl
      -- It is listed no more, so that it is left alone from now on.
      have hself : { b with type := t } ∈ c'.balancers :=
        (retain_covers hretain).2.others _ ((hmem1 _).2 (.inl rfl)) hids.1
      have hlater : Cloud.Restructures c1 c' :=
        hsound.restructures_of_returns retain_orderly hretain
      refine ⟨{ b with type := t } :: stored, ?_, ?_⟩
      · rw [List.map_cons, hmore, hpinned]
      · exact hretains.of_update hplace hd haddress hprivate htype hc1 hself hlater

/-! ## The targets -/

/-- Creating what is missing sends what is sent to create load balancers. -/
theorem createMissing_orderly {targets : List (String × String × BalancerSpec)} :
    ((reconciler s).createMissing taken targets).Orderly Request.IsCreation := by
  rw [Reconciler.createMissing_eq]
  exact (orderly_closed Request.IsCreation).mapM' fun t _ => create_orderly

/-- Creating what is missing is about load balancers only. -/
theorem createMissing_structural {targets : List (String × String × BalancerSpec)} :
    ((reconciler s).createMissing taken targets).Orderly Request.IsStructural :=
  createMissing_orderly.mono fun _ hr => hr.isStructural

/-- What creating what is missing adds: `new` are load balancers at the targeted places that are not
taken. -/
structure Adds (s : Scope) (desired : List BalancerSpec)
    (targets : List (String × String × BalancerSpec)) (taken : List (String × String))
    (new : List LoadBalancer) (c c' : Cloud) : Prop where
  balancers : c'.balancers = c.balancers ++ new
  places : new.map place = (targets.map fun t => (t.1, t.2.1)).filter (· ∉ taken)
  secondary : ∀ b ∈ new, IsSecondary s b
  tags : ∀ b ∈ new, b.tags = tags s ∨ b.tags = tags s ++ [Tag.managedAddress]
  fresh : ∀ b ∈ new, ∃ n, c.nextId ≤ n ∧ b.id = numbered "lb" n
  fits : ∀ b ∈ new, ∃ d, declared s desired b = some d ∧ Fits s b d

/-- With what is added, no place is taken twice. -/
theorem Adds.nodup_places {targets : List (String × String × BalancerSpec)}
    {new : List LoadBalancer} (h : Adds s desired targets taken new c c') (htaken : taken.Nodup)
    (htargets : (targets.map fun t => (t.1, t.2.1)).Nodup) : (taken ++ new.map place).Nodup := by
  rw [h.places, List.nodup_append]
  refine ⟨htaken, htargets.filter _, ?_⟩
  intro p hp q hq heq
  rw [List.mem_filter, decide_eq_true_eq] at hq
  rw [heq] at hp
  exact hq.2 hp

/-- With what is added, every targeted place is taken. -/
theorem Adds.mem_places {targets : List (String × String × BalancerSpec)}
    {new : List LoadBalancer} (h : Adds s desired targets taken new c c') {p : String × String}
    (hp : p ∈ targets.map fun t => (t.1, t.2.1)) : p ∈ taken ++ new.map place := by
  rw [h.places, List.mem_append, List.mem_filter, decide_eq_true_eq]
  by_cases htaken : p ∈ taken
  · exact .inl htaken
  · exact .inr ⟨hp, htaken⟩

/-- A load balancer is created for the first target, and then those for the others. -/
theorem Adds.of_create {zone name : String} {rest : List (String × String × BalancerSpec)}
    {new : List LoadBalancer} {c1 : Cloud} (hd : declared s desired b = some d)
    (hb : Creates s zone name d c b c1) (h : Adds s desired rest [] new c1 c') :
    Adds s desired ((zone, name, d) :: rest) [] (b :: new) c c' := by
  constructor
  · rw [h.balancers, hb.balancers, List.append_assoc]
    rfl
  · rw [List.map_cons, List.map_cons, List.filter_cons_of_pos (by simp), hb.place, h.places]
  · exact List.forall_mem_cons.2 ⟨hb.secondary, h.secondary⟩
  · exact List.forall_mem_cons.2 ⟨hb.tags, h.tags⟩
  · refine List.forall_mem_cons.2 ⟨⟨_, Nat.le_refl _, hb.id⟩, fun x hx => ?_⟩
    obtain ⟨n, hn, hid⟩ := h.fresh x hx
    have hle : c.nextId ≤ n := by
      calc c.nextId ≤ c1.nextId := Nat.le_of_lt hb.nextId
        _ ≤ n := hn
    exact ⟨n, hle, hid⟩
  · exact List.forall_mem_cons.2 ⟨⟨d, hd, hb.fits⟩, h.fits⟩

/-- Creating one load balancer for each of some targets adds them, and each fits. -/
theorem createAll_spec {targets : List (String × String × BalancerSpec)}
    {created : List LoadBalancer} (hc : c.Sound)
    (hdesired : ∀ t ∈ targets, (reconciler s).desiredAt desired t.1 t.2.1 = some t.2.2)
    (h : (targets.mapM' fun t => (reconciler s).create t.1 t.2.1 t.2.2).Returns c created c') :
    ∃ new, created = new.map (pinned s desired) ∧ Adds s desired targets [] new c c' := by
  induction targets generalizing created c with
  | nil =>
    obtain ⟨rfl, rfl⟩ := returns_done.1 h
    exact ⟨[], rfl, (List.append_nil _).symm, rfl, nofun, nofun, nofun, nofun⟩
  | cons target rest ih =>
    obtain ⟨zone, name, d⟩ := target
    obtain ⟨hfirst, hrest⟩ := List.forall_mem_cons.1 hdesired
    obtain ⟨r, c1, hcreate, h⟩ := returns_bind.1 h
    obtain ⟨more, c2, hmore, h⟩ := returns_bind.1 h
    obtain ⟨rfl, rfl⟩ := returns_done.1 h
    obtain ⟨b, rfl, hcreates⟩ := create_returns hc hcreate
    obtain ⟨new, hcreated, hadds⟩ := ih (hc.returns hcreate) hrest hmore
    have hzone : b.zone = zone := (Prod.mk.inj hcreates.place).1
    have hname : b.name = name := (Prod.mk.inj hcreates.place).2
    -- The pin that it carries on is that of the entry at its place.
    have hd : declared s desired b = some d := by
      rw [declared, hzone, hname]
      exact hfirst
    refine ⟨b :: new, ?_, hadds.of_create hd hcreates⟩
    rw [List.map_cons, ← hcreated, pinned, hd]
    rfl

/-- Creating what is missing adds a load balancer that fits at every targeted place that is not
taken. -/
theorem createMissing_spec {targets : List (String × String × BalancerSpec)}
    {created : List LoadBalancer} (hc : c.Sound)
    (hdesired : ∀ t ∈ targets, (reconciler s).desiredAt desired t.1 t.2.1 = some t.2.2)
    (h : ((reconciler s).createMissing taken targets).Returns c created c') :
    ∃ new, created = new.map (pinned s desired) ∧ Adds s desired targets taken new c c' := by
  rw [Reconciler.createMissing_eq] at h
  obtain ⟨new, hcreated, hadds⟩ :=
    createAll_spec hc (fun t ht => hdesired t (List.mem_of_mem_filter ht)) h
  refine ⟨new, hcreated, { hadds with places := ?_ }⟩
  rw [hadds.places, List.filter_eq_self.2 fun p _ => decide_eq_true List.not_mem_nil, List.filter_map]
  rfl

/-! ## The whole run -/

/-- The load balancers that are listed by the tags are the secondaries. -/
theorem mem_listed {x : LoadBalancer} :
    x ∈ s.site.balancersWith (tags s) c ↔ x ∈ c.balancers ∧ IsSecondary s x := by
  unfold Site.balancersWith IsSecondary
  rw [List.mem_flatMap]
  constructor
  · rintro ⟨zone, hzone, hx⟩
    rw [List.mem_filter, Bool.and_eq_true, decide_eq_true_eq] at hx
    obtain ⟨hx, htags, rfl⟩ := hx
    exact ⟨hx, hzone, htags⟩
  · rintro ⟨hx, hzone, htags⟩
    refine ⟨x.zone, hzone, ?_⟩
    rw [List.mem_filter, htags]
    exact ⟨hx, by simp⟩

/-- The target at a place is what is desired there. -/
theorem desiredAt_of_mem_targets (hw : (reconciler s).groups desired = .ok wanted) :
    ∀ t ∈ (reconciler s).targets wanted,
      (reconciler s).desiredAt desired t.1 t.2.1 = some t.2.2 := by
  rintro ⟨zone, name, d⟩ ht
  obtain ⟨i, hi, rfl⟩ := (Reconciler.mem_targets hw).1 ht
  rw [Reconciler.desiredAt_desiredName (desiredName_injective s), hi]

/-- The run goes zone by zone through what is listed, and then through the targets. -/
theorem ensure_eq (s : Scope) (desired : List BalancerSpec) :
    ensure s desired = match (reconciler s).groups desired with
      | .error e => fail e
      | .ok wanted => list s >>= fun live => (reconciler s).retain wanted [] live >>= fun kept =>
        (reconciler s).createMissing (kept.map place) ((reconciler s).targets wanted) >>=
          fun created => done (kept ++ created) := by
  unfold ensure Reconciler.ensure
  cases (reconciler s).groups desired <;> rfl

/-- Ensuring the secondaries is about load balancers. -/
theorem ensure_orderly : (ensure s desired).Orderly Request.IsStructural := by
  rw [ensure_eq]
  split
  · trivial
  · refine (list_readOnly.mono isStructural_of_lookup).bind fun _ => ?_
    exact retain_orderly.bind fun _ => createMissing_structural.bind fun _ => trivial

/-- The two parts of a run: the listing is retained, and what is missing is created. -/
theorem ensure_cases {bs : List LoadBalancer} (hc : c.Sound)
    (h : (ensure s desired).Returns c bs c') :
    ∃ wanted kept new c1, (reconciler s).groups desired = .ok wanted ∧
      bs = kept ++ new.map (pinned s desired) ∧
      ((reconciler s).retain wanted [] (s.site.balancersWith (tags s) c)).Returns c kept c1 ∧
      Cloud.Restructures c1 c' ∧
      Adds s desired ((reconciler s).targets wanted) (kept.map place) new c1 c' := by
  rw [ensure_eq] at h
  cases hw : (reconciler s).groups desired with
  | error e =>
    rw [hw] at h
    exact (returns_fail h).elim
  | ok wanted =>
    rw [hw] at h
    -- Those there are come first, and what is missing after them.
    obtain ⟨live, c0, hlist, h⟩ := returns_bind.1 h
    obtain ⟨rfl, rfl⟩ := (Site.findBalancers_returns (tags_ne_nil s)).1 hlist
    obtain ⟨kept, c1, hretain, h⟩ := returns_bind.1 h
    obtain ⟨created, c2, hcreate, h⟩ := returns_bind.1 h
    obtain ⟨rfl, rfl⟩ := returns_done.1 h
    have hsound := hc.returns hretain
    obtain ⟨new, rfl, hadds⟩ := createMissing_spec hsound (desiredAt_of_mem_targets hw) hcreate
    exact ⟨wanted, kept, new, c1, rfl, rfl, hretain,
      hsound.restructures_of_returns createMissing_structural hcreate, hadds⟩

/-- Ensuring secondaries makes load balancers with the tags of one only. All the secondaries that
there are then are returned, and no other load balancer is touched. -/
theorem ensure_covers {bs : List LoadBalancer} (hc : c.Sound)
    (h : (ensure s desired).Returns c bs c') :
    (∀ x ∈ c'.balancers, (∃ x0 ∈ c.balancers, x = { x0 with type := x.type }) ∨
        x.tags = tags s ∨ x.tags = tags s ++ [Tag.managedAddress]) ∧
      Covers (IsSecondary s) bs c c' := by
  obtain ⟨wanted, kept, new, c1, _, rfl, hretain, _, hadds⟩ := ensure_cases hc h
  obtain ⟨horigin, hcovers⟩ := retain_covers hretain
  have hmem : ∀ x, x ∈ c'.balancers ↔ x ∈ c1.balancers ∨ x ∈ new := by
    intro x
    rw [hadds.balancers, List.mem_append]
  refine ⟨fun x hx => ?_, fun x hx hsec => ?_, fun x hx hsec => ?_⟩
  -- An old one, but for its type, or one that was created.
  · exact ((hmem x).1 hx).imp (horigin x) (hadds.tags x)
  -- A secondary that is old was listed.
  · rw [List.map_append, List.mem_append]
    refine ((hmem x).1 hx).imp (fun hx => ?_) fun hx => ?_
    · obtain ⟨x0, hx0, heq⟩ := horigin x hx
      refine hcovers.covered x hx ?_
      rw [heq] at hsec ⊢
      exact List.mem_map_of_mem (f := (·.id)) (mem_listed.2 ⟨hx0, hsec⟩)
    · rw [List.map_map]
      exact List.mem_map_of_mem hx
  · refine (hmem x).2 (.inl (hcovers.others x hx fun hid => hsec ?_))
    obtain ⟨y, hy, heq⟩ := List.mem_map.1 hid
    obtain ⟨hy, hsec'⟩ := mem_listed.1 hy
    have hself : y = x := hc.balancers.inj hy hx heq
    rwa [hself] at hsec'

/-- What ensuring secondaries leaves: `all` are the secondaries that there are then, as they are
stored. -/
structure Ensures (s : Scope) (desired : List BalancerSpec) (all : List LoadBalancer)
    (c c' : Cloud) : Prop where
  mem : ∀ b ∈ all, b ∈ c'.balancers
  secondary : ∀ b ∈ all, IsSecondary s b
  complete : ∀ b ∈ c'.balancers, IsSecondary s b → b ∈ all
  places : (all.map place).Nodup
  filled : ∀ zone i, i < ((reconciler s).desiredIn zone desired).length →
    ∃ b ∈ all, place b = (zone, desiredName s i)
  fits : ∀ b ∈ all, ∃ d, declared s desired b = some d ∧ Fits s b d
  /-- A load balancer that was kept fits privately; one that is new has a fresh id. -/
  fitsPrivately : ∀ b ∈ all,
    (∀ d, declared s desired b = some d → Secondary.fitsPrivately s c' b d = true) ∨
      ∃ n, c.nextId ≤ n ∧ b.id = numbered "lb" n

/-- Places are kept where private addresses are pinned. -/
theorem map_place_pinned (bs : List LoadBalancer) :
    (bs.map (pinned s desired)).map place = bs.map place := by
  rw [List.map_map]
  rfl

/-- Ids are kept where private addresses are pinned. -/
theorem map_id_pinned (bs : List LoadBalancer) :
    (bs.map (pinned s desired)).map (·.id) = bs.map (·.id) := by
  rw [List.map_map]
  rfl

/-- What has been retained and what has been added are together the secondaries that there are. -/
theorem Ensures.of_parts {stored new : List LoadBalancer} {c1 : Cloud}
    (hw : (reconciler s).groups desired = .ok wanted) (hc' : c'.Sound)
    (hearlier : Cloud.Restructures c c1) (hlater : Cloud.Restructures c1 c')
    (hretains : Retains s desired [] (s.site.balancersWith (tags s) c) stored c c1)
    (hadds : Adds s desired ((reconciler s).targets wanted) (stored.map place) new c1 c')
    (hcovers : ∀ x ∈ c'.balancers, IsSecondary s x → x.id ∈ (stored ++ new).map (·.id)) :
    Ensures s desired (stored ++ new) c c' := by
  have hmem : ∀ x, x ∈ c1.balancers ∨ x ∈ new → x ∈ c'.balancers := by
    intro x hx
    rw [hadds.balancers, List.mem_append]
    exact hx
  have hall : ∀ x ∈ stored ++ new, x ∈ c'.balancers := fun x hx =>
    hmem x ((List.mem_append.1 hx).imp (hretains.mem x) id)
  have hplaces : (stored ++ new).map place = stored.map place ++ new.map place := List.map_append
  constructor
  case mem => exact hall
  case secondary =>
    intro x hx
    rcases List.mem_append.1 hx with hx | hx
    · obtain ⟨b0, hb0, heq⟩ := hretains.origin x hx
      rw [heq]
      exact (mem_listed.1 hb0).2
    · exact hadds.secondary x hx
  case complete =>
    intro x hx hsec
    -- The cover gives the id only; ids name load balancers.
    obtain ⟨y, hy, heq⟩ := List.mem_map.1 (hcovers x hx hsec)
    have hself : y = x := hc'.balancers.inj (hall y hy) hx heq
    rwa [hself] at hy
  case places =>
    have htargets := Reconciler.nodup_targets (desiredName_injective s) hw
    rw [hplaces]
    exact hadds.nodup_places hretains.nodup htargets
  case filled =>
    intro zone i hi
    have htarget : (zone, desiredName s i) ∈
        ((reconciler s).targets wanted).map fun t => (t.1, t.2.1) :=
      List.mem_map.2 ⟨_, (Reconciler.mem_targets hw).2 ⟨i, List.getElem?_eq_getElem hi, rfl⟩, rfl⟩
    have hfilled := hadds.mem_places htarget
    rw [← hplaces] at hfilled
    exact List.mem_map.1 hfilled
  case fits =>
    intro x hx
    rcases List.mem_append.1 hx with hx | hx
    · obtain ⟨d, hd, hfits, _⟩ := hretains.fits x hx
      exact ⟨d, hd, hfits⟩
    · exact hadds.fits x hx
  case fitsPrivately =>
    intro x hx
    rcases List.mem_append.1 hx with hx | hx
    -- What was kept has been left alone while the missing ones were created.
    · refine .inl fun d hd => ?_
      obtain ⟨d', hd', _, hprivate⟩ := hretains.fits x hx
      cases hd.symm.trans hd'
      have hx' : x ∈ c'.balancers := hmem x (.inl (hretains.mem x hx))
      have huntouched := hlater.untouched x.id (.inl ⟨x, hx', rfl⟩)
      calc Secondary.fitsPrivately s c' x d = Secondary.fitsPrivately s c1 x d :=
            fitsPrivately_of_untouched huntouched
        _ = true := hprivate
    · obtain ⟨n, hn, hid⟩ := hadds.fresh x hx
      exact .inr ⟨n, Nat.le_trans hearlier.nextId hn, hid⟩

/-- Ensuring secondaries, each of them listed once, leaves one that fits at every declared place and
no other one, and returns them with the private addresses that are declared. -/
theorem ensure_spec {bs : List LoadBalancer} (hc : c.Sound)
    (hids : ((s.site.balancersWith (tags s) c).map (·.id)).Nodup)
    (h : (ensure s desired).Returns c bs c') :
    ∃ all, bs = all.map (pinned s desired) ∧ Ensures s desired all c c' := by
  have hcovers := (ensure_covers hc h).2
  obtain ⟨wanted, kept, new, c1, hw, rfl, hretain, hlater, hadds⟩ := ensure_cases hc h
  have hearlier : Cloud.Restructures c c1 := hc.restructures_of_returns retain_orderly hretain
  have hlisted : ∀ b ∈ s.site.balancersWith (tags s) c, b ∈ c.balancers := fun b hb =>
    (mem_listed.1 hb).1
  obtain ⟨stored, rfl, hretains⟩ := retain_spec hw hc hids hlisted hretain
  rw [map_place_pinned] at hadds
  -- What is returned carries the declared private address, which the cloud does not store.
  have hpinned : stored.map (pinned s desired) ++ new.map (pinned s desired) =
      (stored ++ new).map (pinned s desired) := List.map_append.symm
  have hcovered : ∀ x ∈ c'.balancers, IsSecondary s x → x.id ∈ (stored ++ new).map (·.id) := by
    intro x hx hsec
    have hid := hcovers.covered x hx hsec
    rwa [hpinned, map_id_pinned] at hid
  exact ⟨stored ++ new, hpinned,
    .of_parts hw (hc.returns h) hearlier hlater hretains hadds hcovered⟩

end Secondary

end ControlPlane
