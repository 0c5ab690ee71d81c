import ControlPlane.Proofs.Topology.Secondaries
import ControlPlane.Proofs.Topology.Steps

/-!
# What attaching load balancers to the private network leaves

Every load balancer is attached once afterwards (`IsAttached`), and each has a private address: the
declared one, or the last one that it holds (`settled`). What a load balancer holds before is never
taken from it, since only addresses that nothing held are given out, and what it gets in addition is
the address that it is pinned to. So a private address that did not stand against a declaration does
not do so afterwards (`attachAll_fitsPrivately`), also where the available addresses were listed
before others got some of them.
-/

namespace ControlPlane

open Program hiding ofExcept

/-- A request to look something up, or to attach a load balancer. -/
def Request.IsNetwork : Request → Prop
  | .attach .. => True
  | r => r.isMutation = false

namespace Topology

variable {c c' : Cloud} {networkId : String}

/-- A look-up is no change outside the private network. -/
theorem isNetwork_of_lookup (r : Request) (h : r.isMutation = false) : r.IsNetwork := by
  cases r <;> first
    | exact trivial
    | exact h

/-- The load balancer is attached to the private network, once. -/
def IsAttached (c : Cloud) (balancerId networkId : String) : Prop :=
  ∃ a, (c.attachments.filter fun a =>
    decide (a.networkId = networkId) && decide (a.balancerId = balancerId)) = [a]

section

variable {s : Site} {b : LoadBalancer} {bs : List LoadBalancer}
  {known : Option (List PrivateAddress)}

/-! ## Attachments -/

/-- Looking up the address that is pinned for a load balancer only looks up. -/
theorem pinnedAddressId_readOnly : (pinnedAddressId networkId b known).ReadOnly := by
  unfold pinnedAddressId
  split
  · trivial
  · refine Orderly.bind ?_ fun available => ?_
    · unfold availableOnce
      split
      · trivial
      · exact Site.availableAddresses_readOnly
    · split <;> trivial

/-- Attaching one load balancer sends look-ups and changes of the private network. -/
theorem attachOne_orderly : (attachOne s networkId known b).Orderly Request.IsNetwork := by
  obtain ⟨step, heq, hstep⟩ := attachOne_steps s networkId known b
  rw [heq]
  refine (Site.findAttachment_readOnly.orNone.mono isNetwork_of_lookup).bind fun found => ?_
  cases hstep found with
  | attached _ hp => exact hp ▸ trivial
  | missing hp =>
    rw [hp]
    refine (pinnedAddressId_readOnly.mono isNetwork_of_lookup).bind fun r => ?_
    exact (Site.orderly_in_zone (orderly_request trivial)).bind fun _ => trivial

/-- Attaching all load balancers sends look-ups and changes of the private network. -/
theorem attachAll_orderly : (attachAll s networkId known bs).Orderly Request.IsNetwork := by
  rw [attachAll_eq]
  exact ((orderly_closed _).foldlM (fun _ _ _ => attachOne_orderly) known).discard

/-- A load balancer that is attached gets its pinned address, found among those known or listed now,
or any address. -/
theorem pinnedAddressId_returns {r : Option String × Option (List PrivateAddress)}
    (h : (pinnedAddressId networkId b known).Returns c r c') :
    c' = c ∧ ((b.privateAddress = none ∧ r = (none, known)) ∨
      ∃ address as a, b.privateAddress = some address ∧
        as = known.getD (Site.availableIn networkId c) ∧
        as.find? (·.address = address) = some a ∧ r = (some a.id, some as)) := by
  have hc' := pinnedAddressId_readOnly.returns_eq h
  refine ⟨hc', ?_⟩
  unfold pinnedAddressId at h
  split at h
  · next hnone =>
    obtain ⟨rfl, _⟩ := returns_done.1 h
    exact .inl ⟨hnone, rfl⟩
  · next address hsome =>
    obtain ⟨as, c1, has, hrest⟩ := returns_bind.1 h
    -- The list is the one that is known, or it is asked for now.
    have hknown : as = known.getD (Site.availableIn networkId c) := by
      unfold availableOnce at has
      split at has
      · exact (returns_done.1 has).1
      · exact (Site.availableAddresses_returns.1 has).1
    split at hrest
    · exact (returns_fail hrest).elim
    · next a ha =>
      obtain ⟨rfl, _⟩ := returns_done.1 hrest
      exact .inr ⟨address, as, a, hsome, hknown, ha, rfl⟩

/-- A load balancer is attached already, or it is attached now. -/
theorem attachOne_cases {known' : Option (List PrivateAddress)}
    (h : (attachOne s networkId known b).Returns c known' c') :
    b.zone ∈ s.zones ∧ ((IsAttached c b.id networkId ∧ known' = known ∧ c' = c) ∨
      ((c.attachments.filter fun a =>
          decide (a.networkId = networkId) && decide (a.balancerId = b.id)) = [] ∧
        ∃ addressId, (pinnedAddressId networkId b known).Returns c (addressId, known') c ∧
          c.attach b.zone b.id networkId addressId = (.ok (), c'))) := by
  obtain ⟨step, heq, hstep⟩ := attachOne_steps s networkId known b
  rw [heq] at h
  obtain ⟨found, c1, hfind, hrest⟩ := returns_bind.1 h
  obtain ⟨hzone, hfilter, rfl⟩ := Site.findAttachment_returns.1 hfind
  refine ⟨hzone, ?_⟩
  cases hstep found with
  | attached a hp =>
    rw [hp] at hrest
    exact .inl ⟨⟨a, hfilter⟩, returns_done.1 hrest⟩
  | missing hp =>
    -- It is not attached, and nothing changes before it is.
    rw [hp] at hrest
    obtain ⟨⟨addressId, known1⟩, c2, hpin, hattach⟩ := returns_bind.1 hrest
    obtain rfl := pinnedAddressId_readOnly.returns_eq hpin
    obtain ⟨_, c3, hanswer, hdone⟩ := returns_bind.1 hattach
    obtain ⟨rfl, rfl⟩ := returns_done.1 hdone
    exact .inr ⟨hfilter, addressId, hpin, (Site.attach_returns.1 hanswer).2⟩

/-- The first load balancer is attached already, or it is attached now, before the others. -/
theorem attachAll_cons_cases {u : Unit}
    (h : (attachAll s networkId known (b :: bs)).Returns c u c') :
    b.zone ∈ s.zones ∧ ((IsAttached c b.id networkId ∧
        (attachAll s networkId known bs).Returns c u c') ∨
      ((c.attachments.filter fun a =>
          decide (a.networkId = networkId) && decide (a.balancerId = b.id)) = [] ∧
        ∃ addressId known' c1, (pinnedAddressId networkId b known).Returns c (addressId, known') c ∧
          c.attach b.zone b.id networkId addressId = (.ok (), c1) ∧
          (attachAll s networkId known' bs).Returns c1 u c')) := by
  obtain ⟨known', c1, hfirst, hrest⟩ := returns_bind.1 h
  obtain ⟨hzone, ⟨hattached, rfl, rfl⟩ | ⟨hnone, addressId, hpin, hattach⟩⟩ := attachOne_cases hfirst
  · exact ⟨hzone, .inl ⟨hattached, hrest⟩⟩
  · exact ⟨hzone, .inr ⟨hnone, addressId, known', c1, hpin, hattach, hrest⟩⟩

/-- Attaching a load balancer that was not attached leaves it attached once, and the attachments of
the others as they are. -/
theorem isAttached_of_attach {zone balancerId : String} {addressId : Option String}
    (hnone : (c.attachments.filter fun a =>
      decide (a.networkId = networkId) && decide (a.balancerId = balancerId)) = [])
    (h : c.attach zone balancerId networkId addressId = (.ok (), c')) :
    IsAttached c' balancerId networkId ∧
      ∀ id, IsAttached c id networkId → IsAttached c' id networkId := by
  have hattachments : c'.attachments = c.attachments ++ [⟨balancerId, zone, networkId⟩] :=
    congrArg Cloud.attachments (Cloud.attach_effect h).2.1
  constructor
  · refine ⟨⟨balancerId, zone, networkId⟩, ?_⟩
    rw [hattachments, List.filter_append, hnone]
    simp
  · rintro id ⟨a, ha⟩
    refine ⟨a, ?_⟩
    have hid : balancerId ≠ id := by
      rintro rfl
      rw [hnone] at ha
      cases ha
    rw [hattachments, List.filter_append, ha]
    simp [hid]

/-- All load balancers are attached at the end. -/
theorem attachAll_spec {u : Unit} (h : (attachAll s networkId known bs).Returns c u c') :
    (∀ b ∈ bs, b.zone ∈ s.zones ∧ IsAttached c' b.id networkId) ∧
      ∀ id, IsAttached c id networkId → IsAttached c' id networkId := by
  induction bs generalizing c known with
  | nil =>
    obtain ⟨_, rfl⟩ := returns_done.1 h
    exact ⟨nofun, fun _ hid => hid⟩
  | cons b rest ih =>
    -- No attachment goes away, so that the first one's is there in the end.
    obtain ⟨hzone, ⟨hattached, hrest⟩ | ⟨hnone, addressId, known', c1, _, hattach, hrest⟩⟩ :=
      attachAll_cons_cases h
    · obtain ⟨hall, hkeep⟩ := ih hrest
      refine ⟨?_, hkeep⟩
      rintro x (_ | ⟨_, hx⟩)
      · exact ⟨hzone, hkeep _ hattached⟩
      · exact hall x hx
    · obtain ⟨hself, hothers⟩ := isAttached_of_attach hnone hattach
      obtain ⟨hall, hkeep⟩ := ih hrest
      refine ⟨?_, fun id hid => hkeep id (hothers id hid)⟩
      rintro x (_ | ⟨_, hx⟩)
      · exact ⟨hzone, hkeep _ hself⟩
      · exact hall x hx

/-! ## What load balancers hold -/

section

variable {id address : String} {c0 : Cloud}

/-- What a load balancer held at first it still holds, and what it has got on the network since is
the address. -/
structure HoldsOn (networkId id address : String) (c0 c : Cloud) : Prop where
  kept : ∀ e ∈ c0.privateAddresses, e.holder = some id → e ∈ c.privateAddresses
  gained : ∀ e ∈ c.privateAddresses, e.holder = some id → e.networkId = networkId →
    e ∈ c0.privateAddresses ∨ e.address = address

/-- What is known to be available is there, and is nothing that the load balancer held at first. -/
def Spare (id : String) (c0 : Cloud) (known : Option (List PrivateAddress)) (c : Cloud) : Prop :=
  ∀ as, known = some as → ∀ k ∈ as,
    (∃ e ∈ c.privateAddresses, e.id = k.id ∧ e.address = k.address) ∧
      ∀ e ∈ c0.privateAddresses, e.holder = some id → e.id ≠ k.id

/-- What is listed as available is spare. -/
theorem HoldsOn.spare (h : HoldsOn networkId id address c0 c) (hc : c.Sound) :
    Spare id c0 (some (Site.availableIn networkId c)) c := by
  rintro as ⟨⟩ k hk
  unfold Site.availableIn at hk
  rw [List.mem_filter, Bool.and_eq_true, decide_eq_true_eq, decide_eq_true_eq] at hk
  refine ⟨⟨k, hk.1, rfl, rfl⟩, fun e he hholder hid => ?_⟩
  have hself : e = k := hc.privateAddresses.inj (h.kept e he hholder) hk.1 hid
  rw [hself, hk.2.2] at hholder
  cases hholder

/-- Attaching a load balancer without an address gives it new ones at most. -/
theorem HoldsOn.attach_any {zone balancerId : String} (h : HoldsOn networkId id address c0 c)
    (hid : balancerId ≠ id) (hattach : c.attach zone balancerId networkId none = (.ok (), c')) :
    HoldsOn networkId id address c0 c' ∧ ∀ known, Spare id c0 known c → Spare id c0 known c' := by
  obtain ⟨new, hnew, hholder, _⟩ := (Cloud.attach_effect hattach).2.2
  constructor
  · constructor
    · intro e he hid'
      rw [hnew]
      exact List.mem_append_left _ (h.kept e he hid')
    · intro e he hid' hnetwork
      rw [hnew, List.mem_append] at he
      rcases he with he | he
      · exact h.gained e he hid' hnetwork
      · rw [(hholder e he).2] at hid'
        exact absurd (Option.some.inj hid') hid
  · intro known hspare as has k hk
    obtain ⟨⟨e, he, heq⟩, hother⟩ := hspare as has k hk
    refine ⟨⟨e, ?_, heq⟩, hother⟩
    rw [hnew]
    exact List.mem_append_left _ he

/-- Attaching a load balancer with a spare address gives it that address. -/
theorem HoldsOn.attach_pinned {zone balancerId : String} {as : List PrivateAddress}
    {k : PrivateAddress} (h : HoldsOn networkId id address c0 c) (hc : c.Sound)
    (hspare : Spare id c0 (some as) c) (hk : k ∈ as)
    (haddress : balancerId = id → k.address = address)
    (hattach : c.attach zone balancerId networkId (some k.id) = (.ok (), c')) :
    HoldsOn networkId id address c0 c' ∧ ∀ known, Spare id c0 known c → Spare id c0 known c' := by
  have hmap : c'.privateAddresses = c.privateAddresses.map fun a =>
    if a.id = k.id then { a with holder := some balancerId } else a :=
    (Cloud.attach_effect hattach).2.2
  obtain ⟨⟨k', hk', hkid, hkaddress⟩, hother⟩ := hspare as rfl k hk
  constructor
  · constructor
    · intro e he hholder
      rw [hmap, List.mem_map]
      exact ⟨e, h.kept e he hholder, if_neg (hother e he hholder)⟩
    · intro e he hholder hnetwork
      rw [hmap, List.mem_map] at he
      obtain ⟨e', he', rfl⟩ := he
      split at hholder
      -- The address is the one that is given out, and nothing else holds its id.
      · next hid =>
        rw [if_pos hid]
        have heq : e' = k' := hc.privateAddresses.inj he' hk' (hid.trans hkid.symm)
        refine .inr ?_
        show e'.address = address
        rw [heq, hkaddress]
        exact haddress (Option.some.inj hholder)
      · next hid =>
        rw [if_neg hid] at hnetwork ⊢
        exact h.gained e' he' hholder hnetwork
  · intro known hspare' as' has' k'' hk''
    obtain ⟨⟨e, he, heid, headdress⟩, hother'⟩ := hspare' as' has' k'' hk''
    refine ⟨⟨if e.id = k.id then { e with holder := some balancerId } else e, ?_, ?_⟩, hother'⟩
    · rw [hmap]
      exact List.mem_map_of_mem he
    · split <;> exact ⟨heid, headdress⟩

/-- Attaching load balancers takes nothing from a load balancer, and gives it no address but the one
that it is pinned to. -/
theorem attachAll_holdsOn {u : Unit} (hc : c.Sound) (h : HoldsOn networkId id address c0 c)
    (hspare : Spare id c0 known c) (hpin : ∀ b ∈ bs, b.id = id → b.privateAddress = some address)
    (hrun : (attachAll s networkId known bs).Returns c u c') :
    HoldsOn networkId id address c0 c' := by
  induction bs generalizing c known with
  | nil =>
    obtain ⟨_, rfl⟩ := returns_done.1 hrun
    exact h
  | cons b rest ih =>
    have hpin' := fun x hx => hpin x (List.mem_cons_of_mem _ hx)
    obtain ⟨_, ⟨_, hrest⟩ | ⟨_, addressId, known', c1, hfind, hattach, hrest⟩⟩ :=
      attachAll_cons_cases hrun
    · exact ih hc h hspare hpin' hrest
    · have hc1 : c1.Sound := by
        have hanswer := hc.attach b.zone b.id networkId addressId
        rwa [hattach] at hanswer
      obtain ⟨_, ⟨hnone, heq⟩ | ⟨address', as, k, hsome, has, hfound, heq⟩⟩ :=
        pinnedAddressId_returns hfind
      -- The load balancer is another one, since this one is pinned.
      · cases heq
        have hid : b.id ≠ id := by
          intro hid
          rw [hpin b List.mem_cons_self hid] at hnone
          cases hnone
        obtain ⟨hon, hkeep⟩ := h.attach_any hid hattach
        exact ih hc1 hon (hkeep _ hspare) hpin' hrest
      -- The address was listed now or earlier, and is spare in either case.
      · cases heq
        have hk : k ∈ as := List.mem_of_find?_eq_some hfound
        have haddress : k.address = address' := by simpa using List.find?_some hfound
        have hspare' : Spare id c0 (some as) c := by
          rw [has]
          cases known with
          | none => exact h.spare hc
          | some as => exact hspare
        have hkaddress : b.id = id → k.address = address := by
          intro hid
          have hpinned : some address' = some address :=
            hsome.symm.trans (hpin b List.mem_cons_self hid)
          rw [haddress]
          exact Option.some.inj hpinned
        obtain ⟨hon, hkeep⟩ := h.attach_pinned hc hspare' hk hkaddress hattach
        exact ih hc1 hon (hkeep _ hspare') hpin' hrest

/-- A private address that does not stand against a declaration does not do so after load balancers
have been attached, if the load balancer is pinned to the declared one. -/
theorem attachAll_fitsPrivately {s : Scope} {d : BalancerSpec} {u : Unit} (hc : c.Sound)
    (hnetwork : s.privateNetworkId = some networkId)
    (hpin : ∀ x ∈ bs, x.id = b.id → x.privateAddress = d.privateAddress)
    (hrun : (attachAll s.site networkId none bs).Returns c u c')
    (h : Secondary.fitsPrivately s c b d = true) : Secondary.fitsPrivately s c' b d = true := by
  cases hd : d.privateAddress with
  | none =>
    unfold Secondary.fitsPrivately
    rw [hd]
  | some address =>
    rw [hd] at hpin
    rw [Secondary.fitsPrivately_iff hd hnetwork] at h ⊢
    have hstart : HoldsOn networkId b.id address c c := ⟨fun _ he _ => he, fun _ he _ _ => .inl he⟩
    have hspare : Spare b.id c none c := by
      intro as hnone
      cases hnone
    have hon : HoldsOn networkId b.id address c c' :=
      attachAll_holdsOn hc hstart hspare hpin hrun
    by_cases hempty : Site.heldIn networkId [b.id] c' = []
    · exact .inl hempty
    · refine .inr ?_
      rcases h with h | ⟨e, he, haddress⟩
      -- It held nothing, so that what it holds now is the declared address.
      · obtain ⟨e, he⟩ := List.exists_mem_of_ne_nil _ hempty
        obtain ⟨⟨hmem, hholder⟩, hnet⟩ := Site.mem_heldIn_singleton.1 he
        refine ⟨e, he, (hon.gained e hmem hholder hnet).resolve_left fun hold => ?_⟩
        have hbefore : e ∈ Site.heldIn networkId [b.id] c :=
          Site.mem_heldIn_singleton.2 ⟨⟨hold, hholder⟩, hnet⟩
        rw [h] at hbefore
        cases hbefore
      -- What it held and was as declared it still holds.
      · obtain ⟨⟨hmem, hholder⟩, hnet⟩ := Site.mem_heldIn_singleton.1 he
        have hmem' : e ∈ c'.privateAddresses := hon.kept e hmem hholder
        exact ⟨e, Site.mem_heldIn_singleton.2 ⟨⟨hmem', hholder⟩, hnet⟩, haddress⟩

end

end

/-! ## The whole run -/

section

variable {s : Scope} {bs rs : List LoadBalancer}

/-- The last address of a private network that a load balancer holds. -/
def heldAddress (c : Cloud) (balancerId networkId : String) : Option String :=
  heldBy balancerId (c.privateAddresses.filter (·.networkId = networkId))

/-- A load balancer with the private address that it has on the cluster's private network: the
declared one, or else the one that it holds. -/
def settled (s : Scope) (c : Cloud) (b : LoadBalancer) : LoadBalancer :=
  { b with privateAddress :=
      b.privateAddress.or (s.privateNetworkId.bind (heldAddress c b.id)) }

/-- What others hold makes no difference. -/
theorem heldBy_heldIn {ids : List String} {id : String} (h : id ∈ ids) :
    heldBy id (Site.heldIn networkId ids c) = heldAddress c id networkId := by
  unfold heldAddress heldBy Site.heldIn
  rw [← List.filter_reverse, ← List.filter_reverse, List.find?_filter, List.find?_filter]
  refine congrArg (fun p => (c.privateAddresses.reverse.find? p).map (·.address)) ?_
  funext a
  cases hholder : a.holder with
  | none => simp
  | some id' =>
    by_cases hid : id' = id
    · simp [hid, h]
    · simp [hid]

/-- A load balancer with a private address is settled. -/
theorem settled_eq_self {b : LoadBalancer} (h : b.privateAddress ≠ none) : settled s c b = b := by
  obtain ⟨address, haddress⟩ := Option.ne_none_iff_exists'.1 h
  unfold settled
  rw [haddress]
  exact congrArg (fun a => { b with privateAddress := a }) haddress.symm

/-- A load balancer without a private address gets the one that it holds. -/
theorem settled_of_none {b : LoadBalancer} (hnetwork : s.privateNetworkId = some networkId)
    (h : b.privateAddress = none) :
    settled s c b = { b with privateAddress := heldAddress c b.id networkId } := by
  unfold settled
  rw [h, hnetwork]
  rfl

/-- Every load balancer of a list that could be resolved has a private address. -/
theorem resolveAll_eq_ok {ids : List String} (hnetwork : s.privateNetworkId = some networkId)
    (hids : ∀ b ∈ bs, b.privateAddress = none → b.id ∈ ids) :
    resolveAll (Site.heldIn networkId ids c) bs = .ok rs ↔
      rs = bs.map (settled s c) ∧ ∀ b ∈ bs, (settled s c b).privateAddress ≠ none := by
  induction bs generalizing rs with
  | nil =>
    unfold resolveAll
    simp [eq_comm]
  | cons b rest ih =>
    have ih' := fun rs => @ih rs fun x hx => hids x (List.mem_cons_of_mem _ hx)
    -- Once the first one has been settled, it is the rest that decides.
    have hrest : ∀ b', b' = settled s c b → (settled s c b).privateAddress ≠ none →
        ((resolveAll (Site.heldIn networkId ids c) rest >>= fun more => .ok (b' :: more)) = .ok rs ↔
          rs = (b :: rest).map (settled s c) ∧
            ∀ x ∈ b :: rest, (settled s c x).privateAddress ≠ none) := by
      rintro b' rfl hb
      rw [bind_eq_ok, List.forall_mem_cons, List.map_cons]
      constructor
      · rintro ⟨more, hmore, hrs⟩
        obtain ⟨rfl, hall⟩ := (ih' more).1 hmore
        cases hrs
        exact ⟨rfl, hb, hall⟩
      · rintro ⟨rfl, _, hall⟩
        exact ⟨_, (ih' _).2 ⟨rfl, hall⟩, rfl⟩
    unfold resolveAll
    cases hb : b.privateAddress with
    | some address =>
      have hsome : b.privateAddress ≠ none := by
        rw [hb]
        exact Option.some_ne_none _
      have hsettled : settled s c b = b := settled_eq_self hsome
      rw [← hsettled] at hsome
      exact hrest b hsettled.symm hsome
    | none =>
      have hsettled := settled_of_none (c := c) hnetwork hb
      have hid : b.id ∈ ids := hids b List.mem_cons_self hb
      dsimp only
      rw [heldBy_heldIn hid]
      cases hheld : heldAddress c b.id networkId with
      | none =>
        have hnone : (settled s c b).privateAddress = none := by rw [hsettled, hheld]
        refine iff_of_false (fun hraise => ?_) fun hall => hall.2 b List.mem_cons_self hnone
        cases hraise
      | some address =>
        have hsome : (settled s c b).privateAddress ≠ none := by
          rw [hsettled, hheld]
          exact Option.some_ne_none _
        rw [hheld] at hsettled
        exact hrest _ hsettled.symm hsome

/-- Without a private network there is nothing to settle. -/
theorem map_settled_of_none (h : s.privateNetworkId = none) : bs.map (settled s c) = bs := by
  have hself : ∀ b : LoadBalancer, settled s c b = b := by
    intro b
    unfold settled
    rw [h]
    simp
  rw [funext hself]
  exact List.map_id _

/-- After load balancers were attached, their addresses are only looked up. -/
theorem resolveHeld_readOnly : (resolveHeld networkId bs).ReadOnly := by
  cases resolveHeld_steps networkId bs with
  | resolved _ hp => exact hp ▸ trivial
  | listed _ hp => exact hp ▸ Site.heldAddresses_readOnly.bind fun _ => orderly_ofExcept _

/-- Ensuring the private network sends look-ups and changes of the private network. -/
theorem ensurePrivateNetwork_orderly :
    (ensurePrivateNetwork s bs).Orderly Request.IsNetwork := by
  cases hnetwork : s.privateNetworkId with
  | none => exact ensurePrivateNetwork_of_none hnetwork bs ▸ trivial
  | some networkId =>
    rw [ensurePrivateNetwork_of_some hnetwork]
    exact attachAll_orderly.bind fun _ => resolveHeld_readOnly.mono isNetwork_of_lookup

/-- A load balancer without a private address is one to find it out for. -/
theorem mem_unresolved : ∀ b ∈ bs, b.privateAddress = none → b.id ∈ unresolved bs :=
  fun _ hb hnone => List.mem_map_of_mem (List.mem_filter.2 ⟨hb, decide_eq_true hnone⟩)

/-- Load balancers of which none is without a private address are settled. -/
theorem map_settled_eq_self (h : unresolved bs = []) :
    bs.map (settled s c) = bs ∧ ∀ b ∈ bs, (settled s c b).privateAddress ≠ none := by
  have hsome : ∀ b ∈ bs, b.privateAddress ≠ none := fun b hb hnone =>
    List.ne_nil_of_mem (mem_unresolved b hb hnone) h
  have hself : ∀ b ∈ bs, settled s c b = b := fun b hb => settled_eq_self (hsome b hb)
  constructor
  · exact (List.map_congr_left hself).trans (List.map_id _)
  · intro b hb
    rw [hself b hb]
    exact hsome b hb

/-- On a cloud where load balancers are attached as declared, what is left is to find out their
private addresses. -/
theorem resolveHeld_returns (hnetwork : s.privateNetworkId = some networkId) :
    (resolveHeld networkId bs).Returns c rs c' ↔
      c' = c ∧ rs = bs.map (settled s c) ∧ ∀ b ∈ bs, (settled s c b).privateAddress ≠ none := by
  cases resolveHeld_steps networkId bs with
  | resolved hnone hp =>
    obtain ⟨hself, hall⟩ := map_settled_eq_self (s := s) (c := c) hnone
    rw [hp, hself]
    refine returns_done.trans ?_
    exact ⟨fun h => ⟨h.2, h.1, hall⟩, fun h => ⟨h.2.1, h.1⟩⟩
  | listed _ hp =>
    rw [hp, returns_bind]
    constructor
    · rintro ⟨held, c1, hheld, hresolve⟩
      obtain ⟨rfl, rfl⟩ := Site.heldAddresses_returns.1 hheld
      obtain ⟨hok, rfl⟩ := returns_ofExcept.1 hresolve
      exact ⟨rfl, (resolveAll_eq_ok hnetwork mem_unresolved).1 hok⟩
    · rintro ⟨rfl, hall⟩
      exact ⟨_, _, Site.heldAddresses_returns.2 ⟨rfl, rfl⟩,
        returns_ofExcept.2 ⟨(resolveAll_eq_ok hnetwork mem_unresolved).2 hall, rfl⟩⟩

/-- Ensuring the private network, if there is one, attaches every load balancer and settles its
private address. -/
theorem ensurePrivateNetwork_spec (h : (ensurePrivateNetwork s bs).Returns c rs c') :
    rs = bs.map (settled s c') ∧
      (s.privateNetworkId = none → c' = c) ∧
      ∀ networkId, s.privateNetworkId = some networkId →
        (∃ u, (attachAll s.site networkId none bs).Returns c u c') ∧
        ∀ b ∈ bs, b.zone ∈ s.site.zones ∧ IsAttached c' b.id networkId ∧
          (settled s c' b).privateAddress ≠ none := by
  cases hnetwork : s.privateNetworkId with
  | none =>
    rw [ensurePrivateNetwork_of_none hnetwork] at h
    obtain ⟨rfl, rfl⟩ := returns_done.1 h
    exact ⟨(map_settled_of_none hnetwork).symm, fun _ => rfl, nofun⟩
  | some networkId =>
    rw [ensurePrivateNetwork_of_some hnetwork] at h
    obtain ⟨u, c1, hattach, hresolve⟩ := returns_bind.1 h
    obtain ⟨rfl, hrs, hall⟩ := (resolveHeld_returns hnetwork).1 hresolve
    refine ⟨hrs, nofun, ?_⟩
    rintro n ⟨⟩
    have hspec := (attachAll_spec hattach).1
    exact ⟨⟨u, hattach⟩, fun b hb => ⟨(hspec b hb).1, (hspec b hb).2, hall b hb⟩⟩

/-- Ensuring the private network changes nothing but attachments and private addresses. -/
theorem changes_network {α : Type} {p : Program α} {a : α} (hp : p.Orderly Request.IsNetwork)
    (h : p.Returns c a c') : c' = { c with
      attachments := c'.attachments
      privateAddresses := c'.privateAddresses
      nextId := c'.nextId
      nextPrivate := c'.nextPrivate } := by
  refine hp.changes (R := fun c c' => c' = { c with
      attachments := c'.attachments
      privateAddresses := c'.privateAddresses
      nextId := c'.nextId
      nextPrivate := c'.nextPrivate }) h (fun _ => rfl) ?_ ?_
  · intro c c1 c2 h1 h2
    rw [h2, h1]
  · intro r c v c' hr hv
    cases r with
    | attach zone balancerId networkId addressId =>
      have hv' : c.attach zone balancerId networkId addressId = (.ok v, c') := hv
      have heffect := (Cloud.attach_effect hv').2.1
      -- The one request that changes something is the one to attach.
      have hattachments : c'.attachments = _ := congrArg Cloud.attachments heffect
      rw [hattachments]
      exact heffect
    | listBalancers | listAddresses | listBackends | listFrontends | listRules | listAttachments
    | listPrivateAddresses | listGateways => cases hv; rfl
    | createBalancer | migrateBalancer | deleteBalancer | createBackend | setServers | addServer
    | removeServer | createFrontend | createRule | updateRule | deleteRule | setRules => cases hr

end

end Topology

end ControlPlane
