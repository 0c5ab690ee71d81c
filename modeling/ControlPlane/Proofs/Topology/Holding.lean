import ControlPlane.Proofs.Topology.Idempotence
import ControlPlane.Proofs.Topology.Joining

/-!
# Who holds the private addresses that are published

The load balancers of a private cluster are published under private addresses: one that is pinned
under the address of its pin, and any other under one that it holds. Addresses are given out when
load balancers are attached, and only then. So what is pinned and was attached before is published
under the address of its pin whether it holds it or not (`Reported`).

The available addresses are listed at most once in a run, so that a pin finds the same one however
late it is looked for (`Stock`). What no pin finds stays with its holder (`Stock.kept`), what is
attached already gains nothing (`Stock.gained`), and of the load balancers that are attached in a
run under one address, one has it in the end (`Stock.received`).
-/

namespace ControlPlane

open Program hiding ofExcept

namespace Topology

/-- A load balancer holds an address of a private network. -/
def HoldsAddress (networkId : String) (c : Cloud) (balancerId address : String) : Prop :=
  ∃ e ∈ Site.heldIn networkId [balancerId] c, e.address = address

/-- The available address that a pin finds. -/
def pinTarget (networkId : String) (c : Cloud) (address : String) : Option PrivateAddress :=
  (Site.availableIn networkId c).find? (·.address = address)

variable {networkId id address : String} {c0 c c' : Cloud} {known : Option (List PrivateAddress)}
  {site : Site} {b m y : LoadBalancer} {bs : List LoadBalancer} {e k : PrivateAddress} {u : Unit}

/-- A load balancer holds an address if a private address of the network says so. -/
theorem holdsAddress_iff : HoldsAddress networkId c id address ↔
    ∃ e ∈ c.privateAddresses, e.holder = some id ∧ e.networkId = networkId ∧ e.address = address := by
  unfold HoldsAddress
  simp only [Site.mem_heldIn_singleton, and_assoc]

/-- A pin finds an available address that is the pinned one. -/
theorem pinTarget_spec (h : pinTarget networkId c address = some k) :
    k ∈ Site.availableIn networkId c ∧ k.address = address :=
  ⟨List.mem_of_find?_eq_some h, by simpa using List.find?_some h⟩

/-! ## Attaching load balancers one after the other -/

/-- What is attached afterwards was attached before, or is attached now. -/
theorem isAttached_attach_iff {zone : String} {addressId : Option String}
    (hfree : (c.attachments.filter fun a =>
      decide (a.networkId = networkId) && decide (a.balancerId = b.id)) = [])
    (hattach : c.attach zone b.id networkId addressId = (.ok (), c')) :
    IsAttached c' id networkId ↔ id = b.id ∨ IsAttached c id networkId := by
  obtain ⟨hself, hothers⟩ := isAttached_of_attach hfree hattach
  refine ⟨fun h => ?_, ?_⟩
  · by_cases hid : id = b.id
    · exact .inl hid
    · obtain ⟨a, ha⟩ := h
      refine .inr ⟨a, ?_⟩
      rw [(attachments_of_attach hattach).1, List.filter_append] at ha
      simpa [Ne.symm hid] using ha
  · rintro (rfl | h)
    · exact hself
    · exact hothers _ h

/-- The list of available addresses, as it was made or is to be made, is the one of an earlier
cloud, and its addresses are all there, whoever holds them. -/
structure Stock (networkId : String) (c0 : Cloud) (known : Option (List PrivateAddress)) (c : Cloud) :
    Prop where
  sound : c.Sound
  listed : known.getD (Site.availableIn networkId c) = Site.availableIn networkId c0
  there : ∀ k ∈ Site.availableIn networkId c0, ∃ e ∈ c.privateAddresses,
    e.id = k.id ∧ e.address = k.address ∧ e.networkId = networkId

/-- What attaching a load balancer does to private addresses: one without a pin may be given new
ones, and another one is given the address that its pin finds. -/
def Deals (networkId : String) (c0 : Cloud) (b : LoadBalancer) (c c' : Cloud) : Prop :=
  (b.privateAddress = none ∧ ∃ new, c'.privateAddresses = c.privateAddresses ++ new ∧
      ∀ e ∈ new, e.holder = some b.id) ∨
    ∃ address k, b.privateAddress = some address ∧ pinTarget networkId c0 address = some k ∧
      c'.privateAddresses = c.privateAddresses.map fun e =>
        if e.id = k.id then { e with holder := some b.id } else e

/-- Any address that is booked for a load balancer is held at once, and never available. -/
theorem availableIn_of_attach_any {zone : String}
    (h : c.attach zone b.id networkId none = (.ok (), c')) :
    Site.availableIn networkId c' = Site.availableIn networkId c := by
  obtain ⟨new, hnew, hall, _⟩ := (Cloud.attach_effect h).2.2
  unfold Site.availableIn
  have hnone : (new.filter fun a =>
      decide (a.networkId = networkId) && decide (a.holder = none)) = [] := by
    refine List.filter_eq_nil_iff.2 fun e he => ?_
    rw [(hall e he).2]
    simp
  rw [hnew, List.filter_append, hnone, List.append_nil]

namespace Stock

/-- Before a list of available addresses is made, it is that of the present cloud. -/
theorem start (hc : c.Sound) : Stock networkId c none c :=
  ⟨hc, rfl, fun k hk => ⟨k, (mem_availableIn.1 hk).1, rfl, rfl, (mem_availableIn.1 hk).2.1⟩⟩

/-- A load balancer is attached with what its pin finds, or with a new address, and what is listed
as available stays the same. -/
theorem deal {addressId : Option String} {known' : Option (List PrivateAddress)}
    (hstock : Stock networkId c0 known c)
    (hpin : (pinnedAddressId networkId b known).Returns c (addressId, known') c)
    (hattach : c.attach b.zone b.id networkId addressId = (.ok (), c')) :
    Stock networkId c0 known' c' ∧ Deals networkId c0 b c c' := by
  have hsound : c'.Sound := by
    have hanswer := hstock.sound.attach b.zone b.id networkId addressId
    rwa [hattach] at hanswer
  obtain ⟨_, ⟨hnone, heq⟩ | ⟨address, as, k, hsome, has, hk, heq⟩⟩ := pinnedAddressId_returns hpin
  all_goals cases heq
  -- What is new has a holder at once, and so is not available.
  · obtain ⟨new, hnew, hall, _⟩ := (Cloud.attach_effect hattach).2.2
    have havailable := availableIn_of_attach_any hattach
    refine ⟨⟨hsound, havailable ▸ hstock.listed, fun k hk => ?_⟩,
      .inl ⟨hnone, new, hnew, fun e he => (hall e he).2⟩⟩
    obtain ⟨e, he, hsame⟩ := hstock.there k hk
    exact ⟨e, hnew ▸ List.mem_append_left _ he, hsame⟩
  -- The pin is looked up in the list of the first cloud.
  · rw [has, hstock.listed] at hk
    have hmap : c'.privateAddresses = c.privateAddresses.map fun e =>
        if e.id = k.id then { e with holder := some b.id } else e := (Cloud.attach_effect hattach).2.2
    refine ⟨⟨hsound, has.trans hstock.listed, fun k' hk' => ?_⟩, .inr ⟨address, k, hsome, hk, hmap⟩⟩
    obtain ⟨e, he, hsame⟩ := hstock.there k' hk'
    refine ⟨_, hmap ▸ List.mem_map_of_mem he, ?_⟩
    split <;> exact hsame

/-- The first load balancer is attached already, or it is attached now and dealt an address. -/
theorem cons_cases (hstock : Stock networkId c0 known c)
    (h : (attachAll site networkId known (b :: bs)).Returns c u c') :
    (IsAttached c b.id networkId ∧ (attachAll site networkId known bs).Returns c u c') ∨
      (¬IsAttached c b.id networkId ∧ ∃ known' c1, Stock networkId c0 known' c1 ∧
        Deals networkId c0 b c c1 ∧
        (∀ id, IsAttached c1 id networkId ↔ id = b.id ∨ IsAttached c id networkId) ∧
        (attachAll site networkId known' bs).Returns c1 u c') := by
  obtain ⟨_, hattached | ⟨hfree, addressId, known', c1, hpin, hattach, hrest⟩⟩ :=
    attachAll_cons_cases h
  · exact .inl hattached
  · -- The first one is attached now, and what is known goes with the cloud as it is then.
    have hnot : ¬IsAttached c b.id networkId := by
      rintro ⟨a, ha⟩
      rw [hfree] at ha
      cases ha
    obtain ⟨hstock1, hdeals⟩ := hstock.deal hpin hattach
    exact .inr ⟨hnot, known', c1, hstock1, hdeals, fun _ => isAttached_attach_iff hfree hattach, hrest⟩

/-- An address stays with its holder, if no pin of what is attached finds it. -/
theorem kept (hstock : Stock networkId c0 known c)
    (hrun : (attachAll site networkId known bs).Returns c u c') (he : e ∈ c.privateAddresses)
    (hspared : ∀ y ∈ bs, ∀ address k, y.privateAddress = some address →
      pinTarget networkId c0 address = some k → k.id = e.id → IsAttached c y.id networkId) :
    e ∈ c'.privateAddresses := by
  induction bs generalizing known c with
  | nil =>
    obtain ⟨_, rfl⟩ := returns_done.1 hrun
    exact he
  | cons b rest ih =>
    obtain ⟨hself, hothers⟩ := List.forall_mem_cons.1 hspared
    rcases hstock.cons_cases hrun with ⟨_, hrest⟩ | ⟨hnot, known', c1, hstock1, hdeals, hiff, hrest⟩
    · exact ih hstock hrest he hothers
    -- This one is attached now, so its pin has not found the address.
    · refine ih hstock1 hrest ?_ fun y hy address k haddress hk hid =>
        (hiff y.id).2 (.inr (hothers y hy address k haddress hk hid))
      rcases hdeals with ⟨_, new, hnew, _⟩ | ⟨address, k, haddress, hk, hmap⟩
      · rw [hnew]
        exact List.mem_append_left _ he
      · rw [hmap]
        exact List.mem_map.2 ⟨e, he, if_neg fun hid => hnot (hself address k haddress hk hid.symm)⟩

/-- What is attached already gains nothing. What a load balancer gains that is pinned is what its
pin finds. -/
theorem gained (hstock : Stock networkId c0 known c)
    (hrun : (attachAll site networkId known bs).Returns c u c') (he : e ∈ c'.privateAddresses)
    (hholder : e.holder = some id) : e ∈ c.privateAddresses ∨
      (¬IsAttached c id networkId ∧ ∃ y ∈ bs, y.id = id ∧
        ∀ address, y.privateAddress = some address →
          ∃ k, pinTarget networkId c0 address = some k ∧ e.id = k.id) := by
  induction bs generalizing known c with
  | nil =>
    obtain ⟨_, rfl⟩ := returns_done.1 hrun
    exact .inl he
  | cons b rest ih =>
    rcases hstock.cons_cases hrun with ⟨_, hrest⟩ | ⟨hnot, known', c1, hstock1, hdeals, hiff, hrest⟩
    · refine (ih hstock hrest).imp_right ?_
      rintro ⟨hfree, y, hy, hgain⟩
      exact ⟨hfree, y, List.mem_cons_of_mem _ hy, hgain⟩
    rcases ih hstock1 hrest with he1 | ⟨hfree, y, hy, hgain⟩
    -- It was held before the rest were attached: since the first step, or already before it.
    · rcases hdeals with ⟨hnone, new, hnew, hall⟩ | ⟨address, k, haddress, hk, hmap⟩
      · rw [hnew, List.mem_append] at he1
        refine he1.imp_right fun hmem => ?_
        have hid : b.id = id := Option.some.inj ((hall e hmem).symm.trans hholder)
        refine ⟨hid ▸ hnot, b, List.mem_cons_self, hid, fun address haddress => ?_⟩
        rw [hnone] at haddress
        cases haddress
      · rw [hmap] at he1
        obtain ⟨e0, he0, rfl⟩ := List.mem_map.1 he1
        split at hholder
        · next hid =>
          have hself : b.id = id := Option.some.inj hholder
          rw [if_pos hid]
          refine .inr ⟨hself ▸ hnot, b, List.mem_cons_self, hself, fun address' haddress' => ?_⟩
          have hsame : address' = address := Option.some.inj (haddress'.symm.trans haddress)
          exact ⟨k, hsame ▸ hk, hid⟩
        · next hid =>
          rw [if_neg hid]
          exact .inl he0
    · exact .inr ⟨fun h => hfree ((hiff id).2 (.inr h)), y, List.mem_cons_of_mem _ hy, hgain⟩

/-- Of the load balancers that are attached under one address, the last one has it in the end. -/
theorem received (h0 : c0.Sound) (hstock : Stock networkId c0 known c)
    (hids : (bs.map (·.id)).Nodup)
    (hrun : (attachAll site networkId known bs).Returns c u c') (hy : y ∈ bs)
    (hpin : y.privateAddress = some address) (hfree : ¬IsAttached c y.id networkId) :
    ∃ z ∈ bs, z.privateAddress = some address ∧ ¬IsAttached c z.id networkId ∧
      ∃ k, pinTarget networkId c0 address = some k ∧ ∃ e ∈ c'.privateAddresses, e.id = k.id ∧
        e.holder = some z.id ∧ e.networkId = networkId ∧ e.address = address := by
  induction bs generalizing known c y with
  | nil => cases hy
  | cons b rest ih =>
    obtain ⟨hid, hids⟩ := List.nodup_cons.1 hids
    rcases hstock.cons_cases hrun with
      ⟨hattached, hrest⟩ | ⟨hnot, known', c1, hstock1, hdeals, hiff, hrest⟩
    · rcases List.mem_cons.1 hy with rfl | hy
      · exact absurd hattached hfree
      · obtain ⟨z, hz, hgot⟩ := ih hstock hids hrest hy hpin hfree
        exact ⟨z, List.mem_cons_of_mem _ hz, hgot⟩
    by_cases hlater : ∃ y ∈ rest, y.privateAddress = some address ∧ ¬IsAttached c y.id networkId
    -- There is one still to come.
    · obtain ⟨y, hy, hpin, hfree⟩ := hlater
      have hne : y.id ≠ b.id := fun heq => hid (List.mem_map.2 ⟨y, hy, heq⟩)
      have hfree1 : ¬IsAttached c1 y.id networkId := fun h =>
        ((hiff y.id).1 h).elim hne hfree
      obtain ⟨z, hz, hzpin, hzfree, hgot⟩ := ih hstock1 hids hrest hy hpin hfree1
      exact ⟨z, List.mem_cons_of_mem _ hz, hzpin, fun h => hzfree ((hiff z.id).2 (.inr h)), hgot⟩
    -- It is this one, and nothing that comes later is given the address.
    · have hself : y = b := (List.mem_cons.1 hy).resolve_right fun hy => hlater ⟨y, hy, hpin, hfree⟩
      rw [hself] at hpin
      rcases hdeals with ⟨hnone, _⟩ | ⟨address', k, haddress', hk, hmap⟩
      · rw [hnone] at hpin
        cases hpin
      cases hpin.symm.trans haddress'
      obtain ⟨hkmem, hkaddress⟩ := pinTarget_spec hk
      obtain ⟨e, he, heid, headdress, henetwork⟩ := hstock.there k hkmem
      have hgiven : { e with holder := some b.id } ∈ c1.privateAddresses := by
        rw [hmap]
        exact List.mem_map.2 ⟨e, he, if_pos heid⟩
      have hkept := hstock1.kept hrest hgiven fun y hy address' k' hy' hk' hid' => by
        obtain ⟨hk'mem, hk'address⟩ := pinTarget_spec hk'
        have hsame : k' = k := h0.privateAddresses.inj (mem_availableIn.1 hk'mem).1
          (mem_availableIn.1 hkmem).1 (hid'.trans heid)
        have haddress : address' = address := by rw [← hk'address, hsame, hkaddress]
        refine (hiff y.id).2 (.inr (by_contra fun hnone => hlater ⟨y, hy, ?_, hnone⟩))
        rw [hy', haddress]
      exact ⟨b, List.mem_cons_self, hpin, hnot, k, hk, _, hkept, heid, rfl, henetwork,
        headdress.trans hkaddress⟩

end Stock

/-! ## What is published -/

/-- How an address that is published for one of some load balancers is held after a run. -/
structure Reported (networkId : String) (ms : List LoadBalancer) (c c' : Cloud) (m : LoadBalancer)
    (address : String) : Prop where
  /-- It is the pinned address, if there is a pin. -/
  pin : ∀ pinned, m.privateAddress = some pinned → address = pinned
  /-- Without a pin, the load balancer holds it. -/
  unpinned : m.privateAddress = none → HoldsAddress networkId c' m.id address
  /-- A load balancer with a pin that was attached before holds it if it did so before. -/
  attached : m.privateAddress ≠ none → IsAttached c m.id networkId →
    (HoldsAddress networkId c' m.id address ↔ HoldsAddress networkId c m.id address)
  /-- Of those with this pin that have been attached in the run, one has got it. If that is another
  one, the load balancer holds it if it did so before. -/
  joined : m.privateAddress ≠ none → ¬IsAttached c m.id networkId →
    ∃ z ∈ ms, z.privateAddress = some address ∧ ¬IsAttached c z.id networkId ∧
      HoldsAddress networkId c' z.id address ∧
      (z.id ≠ m.id →
        (HoldsAddress networkId c' m.id address ↔ HoldsAddress networkId c m.id address))

/-- What is held stays where it is while load balancers are attached. -/
theorem attachAll_keeps_held (hc : c.Sound)
    (hrun : (attachAll site networkId none bs).Returns c u c')
    (h : HoldsAddress networkId c id address) : HoldsAddress networkId c' id address := by
  obtain ⟨e, he, hholder, hnetwork, haddress⟩ := holdsAddress_iff.1 h
  refine holdsAddress_iff.2 ⟨e, (Stock.start hc).kept hrun he ?_, hholder, hnetwork, haddress⟩
  intro y _ address' k _ hk hid
  obtain ⟨hkmem, _, hfree⟩ := mem_availableIn.1 (pinTarget_spec hk).1
  rw [hc.privateAddresses.inj hkmem he hid, hholder] at hfree
  cases hfree

/-- A load balancer that is given no address holds what it held. -/
theorem holdsAddress_iff_of_gained (hc : c.Sound)
    (hrun : (attachAll site networkId none bs).Returns c u c')
    (h : ∀ e ∈ c'.privateAddresses, e.holder = some id → e ∈ c.privateAddresses) :
    HoldsAddress networkId c' id address ↔ HoldsAddress networkId c id address := by
  refine ⟨fun hheld => ?_, attachAll_keeps_held hc hrun⟩
  obtain ⟨e, he, hholder, hnetwork, haddress⟩ := holdsAddress_iff.1 hheld
  exact holdsAddress_iff.2 ⟨e, h e he hholder, hholder, hnetwork, haddress⟩

/-- The address that a load balancer is settled with is reported as it is held. -/
theorem reported_of_settled {s : Scope} (hc : c.Sound) (hids : (bs.map (·.id)).Nodup)
    (hnetwork : s.privateNetworkId = some networkId)
    (hrun : (attachAll site networkId none bs).Returns c u c') (hm : m ∈ bs)
    (hsettled : (settled s c' m).privateAddress = some address) :
    Reported networkId bs c c' m address := by
  have hc' : c'.Sound := hc.returns hrun
  have hpin : ∀ pinned, m.privateAddress = some pinned → address = pinned := by
    intro pinned hpinned
    rw [settled_eq_self (by rw [hpinned]; exact Option.some_ne_none _), hpinned] at hsettled
    exact (Option.some.inj hsettled).symm
  have hself : m.privateAddress ≠ none → m.privateAddress = some address := by
    intro hne
    obtain ⟨pinned, hpinned⟩ := Option.ne_none_iff_exists'.1 hne
    rw [hpin pinned hpinned, hpinned]
  constructor
  case pin => exact hpin
  case unpinned =>
    intro hnone
    rw [settled_of_none hnetwork hnone, ← heldBy_heldIn (List.mem_singleton_self m.id)] at hsettled
    obtain ⟨e, hfound, haddress⟩ := Option.map_eq_some_iff.1 hsettled
    exact ⟨e, List.mem_reverse.1 (List.mem_of_find?_eq_some hfound), haddress⟩
  case attached =>
    intro _ hattached
    refine holdsAddress_iff_of_gained hc hrun fun e he hholder => ?_
    exact ((Stock.start hc).gained hrun he hholder).resolve_right fun h => h.1 hattached
  case joined =>
    intro hne hfree
    obtain ⟨z, hz, hzpin, hzfree, k, hk, e, he, heid, hholder, henetwork, headdress⟩ :=
      (Stock.start hc).received hc hids hrun hm (hself hne) hfree
    refine ⟨z, hz, hzpin, hzfree, holdsAddress_iff.2 ⟨e, he, hholder, henetwork, headdress⟩, ?_⟩
    intro hother
    refine holdsAddress_iff_of_gained hc hrun fun e' he' hholder' => ?_
    refine ((Stock.start hc).gained hrun he' hholder').resolve_right ?_
    rintro ⟨_, y, hy, hyid, hgain⟩
    -- It would have been given the same address, which has one holder.
    have hym : y = m := List.inj_on_of_nodup_map hids hy hm hyid
    obtain ⟨k', hk', heid'⟩ := hgain address (hym ▸ hself hne)
    cases hk.symm.trans hk'
    have hsame : e' = e := hc'.privateAddresses.inj he' he (heid'.trans heid.symm)
    rw [hsame, hholder] at hholder'
    exact hother (Option.some.inj hholder')

/-! ## The whole run -/

/-- What is directly under a load balancer tells whether it is attached and what it holds. -/
theorem isAttached_iff_of_untouched (h : Cloud.Untouched id c c') :
    IsAttached c' id networkId ↔ IsAttached c id networkId := by
  unfold IsAttached
  rw [← List.filter_filter, ← List.filter_filter, h.attachments]

/-- A load balancer that is not touched holds the addresses that it held. -/
theorem holdsAddress_iff_of_untouched (h : Cloud.Untouched id c c') :
    HoldsAddress networkId c' id address ↔ HoldsAddress networkId c id address := by
  unfold HoldsAddress
  rw [Site.heldIn_singleton, Site.heldIn_singleton, h.privateAddresses]

/-- What happens before and after load balancers are attached makes no difference. -/
theorem Reported.congr {ms ms' : List LoadBalancer} {c2 c3 : Cloud}
    (h : Reported networkId ms c2 c3 m address) (hm : m ∈ ms) (hsub : ms ⊆ ms')
    (hbefore : ∀ z ∈ ms, Cloud.Untouched z.id c c2)
    (hafter : c'.privateAddresses = c3.privateAddresses) : Reported networkId ms' c c' m address := by
  -- At the end, addresses are held as they are after the network was joined.
  have hheld : ∀ id address, HoldsAddress networkId c' id address ↔
      HoldsAddress networkId c3 id address := by
    intro id address
    unfold HoldsAddress Site.heldIn
    rw [hafter]
  have hm2 := hbefore m hm
  constructor
  case pin => exact h.pin
  case unpinned => exact fun hnone => (hheld _ _).2 (h.unpinned hnone)
  case attached =>
    intro hne hattached
    rw [hheld, ← holdsAddress_iff_of_untouched hm2]
    exact h.attached hne ((isAttached_iff_of_untouched hm2).2 hattached)
  case joined =>
    intro hne hfree
    rw [← isAttached_iff_of_untouched hm2] at hfree
    -- The one that got the address was not attached before either.
    obtain ⟨z, hz, hzpin, hzfree, hzheld, hother⟩ := h.joined hne hfree
    rw [isAttached_iff_of_untouched (hbefore z hz)] at hzfree
    refine ⟨z, hsub hz, hzpin, hzfree, (hheld _ _).2 hzheld, fun hid => ?_⟩
    rw [hheld, ← holdsAddress_iff_of_untouched hm2]
    exact hother hid

variable {s : Scope} {q : LoadBalancer}

/-- The load balancers of a cluster with their pins, in the order in which their addresses are
published: the primary, and then the secondaries by zone and name. -/
def roster (s : Scope) (q : LoadBalancer) (c : Cloud) : List LoadBalancer :=
  pinnedPrimary s q :: (pinnedSecondaries s c).mergeSort byZoneAndName

namespace Phases

variable {ks : List Backend} {f : FrontendMap} {c1 c2 c3 c4 c5 : Cloud}

/-- The load balancers of a run are the members of the cluster in the end, each of them once. -/
theorem roster_perm (h : Phases s b bs ks f c c1 c2 c3 c4 c5 c') (hc : c.Sound)
    (hzones : s.site.zones.Nodup) (hroles : RolesApart s c) :
    ∃ q, b = pinnedPrimary s q ∧ HasPrimary s q c' ∧ (bs ++ [b]).Perm (roster s q c') ∧
      ((bs ++ [b]).map (·.id)).Nodup ∧ ∀ m ∈ bs ++ [b], ∃ x ∈ c2.balancers, x.id = m.id := by
  obtain ⟨q, hb, hq, hsec, _⟩ := h.hasPrimary hc hroles
  obtain ⟨all, hbs, hall, hperm⟩ := h.listed_perm hc hzones
  have hb' : b = pinnedPrimary s q := hb
  have hmem : q ∈ c2.balancers := h.balancers_eq ▸ hq.mem
  have hids : bs.map (·.id) = all.map (·.id) := by
    rw [hbs]
    exact Secondary.map_id_pinned all
  -- The primary is none of the secondaries, since nothing has both roles.
  have hfresh : b.id ∉ all.map (·.id) := by
    intro hid
    obtain ⟨x, hx, heq⟩ := List.mem_map.1 hid
    rw [hb'] at heq
    have hself : x = q := (h.sound_secondaries hc).balancers.inj (hall.mem x hx) hmem heq
    exact hsec (hself ▸ hall.secondary x hx)
  refine ⟨q, hb', hq, ?_, ?_, ?_⟩
  · have hsorted : bs.Perm ((pinnedSecondaries s c').mergeSort byZoneAndName) :=
      (h.pinned_perm hc hzones).symm.trans (List.mergeSort_perm _ _).symm
    have hswap : (bs ++ [b]).Perm (b :: bs) := List.perm_append_comm
    rw [roster, ← hb']
    exact hswap.trans (hsorted.cons b)
  · have hnodup : (all.map (·.id)).Nodup :=
      (hperm.map (·.id)).nodup_iff.1 (Secondary.nodup_listed (h.sound_rules hc) hzones)
    rw [List.map_append, hids, List.nodup_append]
    refine ⟨hnodup, List.nodup_singleton _, fun x hx y hy heq => hfresh ?_⟩
    have hself : y = b.id := List.mem_singleton.1 hy
    rwa [← hself, ← heq]
  · refine List.forall_mem_append.2 ⟨fun m hm => ?_, List.forall_mem_singleton.2 ⟨q, hmem, ?_⟩⟩
    · rw [hbs] at hm
      obtain ⟨x, hx, rfl⟩ := List.mem_map.1 hm
      exact ⟨x, hall.mem x hx, rfl⟩
    · rw [hb']
      rfl

/-- Every member that has been settled with an address is reported under it. -/
theorem reports (h : Phases s b bs ks f c c1 c2 c3 c4 c5 c') (hc : c.Sound)
    (hzones : s.site.zones.Nodup) (hroles : RolesApart s c)
    (hnetwork : s.privateNetworkId = some networkId) :
    ∃ q, b = pinnedPrimary s q ∧ HasPrimary s q c' ∧ ∀ m ∈ roster s q c', ∀ address,
      (settled s c3 m).privateAddress = some address →
        Reported networkId (roster s q c') c c' m address := by
  obtain ⟨q, hb, hq, hperm, hids, hthere⟩ := h.roster_perm hc hzones hroles
  refine ⟨q, hb, hq, fun m hm address hsettled => ?_⟩
  obtain ⟨⟨_, hattach⟩, _⟩ := (ensurePrivateNetwork_spec h.network).2.2 networkId hnetwork
  have hm' : m ∈ bs ++ [b] := hperm.mem_iff.2 hm
  have huntouched : ∀ z ∈ bs ++ [b], Cloud.Untouched z.id c c2 := fun z hz =>
    (h.restructures hc).untouched z.id (.inl (hthere z hz))
  exact (reported_of_settled (h.sound_secondaries hc) hids hnetwork hattach hm' hsettled).congr hm'
    hperm.subset huntouched h.privateAddresses_eq

/-- What is published is what the members in the end are settled with, in their order. -/
theorem published (h : Phases s b bs ks f c c1 c2 c3 c4 c5 c') (hc : c.Sound)
    (hzones : s.site.zones.Nodup) :
    (bs.map (settled s c3)).mergeSort byZoneAndName =
      ((pinnedSecondaries s c').mergeSort byZoneAndName).map (settled s c3) := by
  obtain ⟨all, _, hall, hperm⟩ := h.listed_perm hc hzones
  have hplaces : ((pinnedSecondaries s c').map Secondary.place).Nodup := by
    rw [pinnedSecondaries, Secondary.map_place_pinned]
    exact (hperm.map Secondary.place).nodup_iff.2 hall.places
  -- Places differ, and so the order is the same whatever the list was before it was sorted.
  rw [mergeSort_eq_of_places hplaces (h.pinned_perm hc hzones)]
  exact (List.map_mergeSort (f := settled s c3) (s := byZoneAndName) fun _ _ _ _ => rfl).symm

end Phases

/-- In a private cluster, the address that is published is the private one. -/
theorem publishedAddress_eq_ok (hprivate : s.balancersPrivate = true) :
    publishedAddress s m = .ok address ↔ m.privateAddress = some address := by
  unfold publishedAddress privateAddress
  rw [if_pos hprivate]
  cases m.privateAddress with
  | none => exact iff_of_false nofun nofun
  | some a => exact ⟨fun h => congrArg some (Except.ok.inj h), fun h => congrArg _ (Option.some.inj h)⟩

/-- The private addresses that are published after a run of reconciliation, for the primary and then
for each secondary by zone and name. Without a pin it is an address that the load balancer holds.
With a pin it is the pinned one, which is held if it was held before the run, or if the load
balancer was attached in the run and no other one that was is pinned to the same; what was attached
before and does not hold its pin does not get it. -/
theorem published_addresses_held {deadline : Option Seconds} {x x' : Session Cloud} {u : Unit}
    (hc : x.world.store.Sound) (hzones : s.site.zones.Nodup) (hroles : RolesApart s x.world.store)
    (hnetwork : s.privateNetworkId = some networkId) (hprivate : s.balancersPrivate = true)
    (h : (reconcile s).run Cloud.provider deadline x = (.ok u, x')) :
    ∃ q main, HasPrimary s q x'.world.store ∧ x'.status.address = some main ∧
      List.Forall₂
        (Reported networkId (roster s q x'.world.store) x.world.store x'.world.store)
        (roster s q x'.world.store) (main :: x'.status.secondaryAddresses) := by
  obtain ⟨b, bs, main, others, harrange, hmain, hothers, haddress, haddresses⟩ := reconcile_run h
  obtain ⟨b, bs, _, _, _, _, c3, _, _, heq, hphases⟩ := arrange_returns harrange
  cases heq
  obtain ⟨q, hb, hq, hreports⟩ := hphases.reports hc hzones hroles hnetwork
  obtain ⟨hprimary, hsecondaries⟩ := List.forall_mem_cons.1 hreports
  refine ⟨q, main, hq, haddress, .cons (hprimary main ?_) ?_⟩
  · rw [← hb]
    exact (publishedAddress_eq_ok hprivate).1 hmain
  · rw [hphases.published hc hzones, List.mapM_map] at hothers
    rw [haddresses]
    exact forall₂_of_mapM hothers fun m hm address hm' =>
      hsecondaries m hm address ((publishedAddress_eq_ok hprivate).1 hm')

end Topology

namespace Sample

/-- A private cluster whose primary is pinned to a private address. -/
def repinnedScope : Scope where
  site := (scope []).site
  cluster :=
    { name := "demo"
      namespaceName := "infra"
      network :=
        { privateNetwork := { enabled := true, id := some "net" }
          primary := { privateAddress := some "172.16.0.99", isPrivate := true } } }

/-- A cloud on which the primary has been attached under another address. -/
def joinedCloud : Cloud where
  balancers :=
    [{ id := "main", zone := "fr-par-1", name := "demo", type := "lb-s"
       tags := Topology.primaryTags repinnedScope }]
  attachments := [{ balancerId := "main", zone := "fr-par-1", networkId := "net" }]
  privateAddresses :=
    [{ id := "lease", address := "172.16.0.10", networkId := "net", holder := some "main" },
     { id := "spare", address := "172.16.0.99", networkId := "net" }]

/-- The cloud of the example is sound. -/
theorem joinedCloud_sound : joinedCloud.Sound := by
  refine ⟨?_, ?_, ?_, ?_, ?_, ?_⟩ <;> exact .of_foreign (by decide +kernel) (by decide +kernel)

end Sample

namespace Topology

/-- The primary has joined the network under one address and is then pinned to another one. The run
returns, and publishes the pinned address though the primary does not hold it. -/
theorem sample_published_address_not_held :
    ∃ x', (reconcile Sample.repinnedScope).run Cloud.provider none
        (Sample.session Sample.joinedCloud) = (.ok (), x') ∧
      x'.status.address = some "172.16.0.99" ∧
      ¬HoldsAddress "net" x'.world.store "main" "172.16.0.99" := by
  have hids : ∀ b ∈ ((reconcile Sample.repinnedScope).run Cloud.provider none
      (Sample.session Sample.joinedCloud)).2.world.store.balancers, b.id = "main" := by
    decide +kernel
  obtain ⟨_, x', hrun⟩ := Sample.exists_of_isOk (r := (reconcile Sample.repinnedScope).run
    Cloud.provider none (Sample.session Sample.joinedCloud)) (by decide +kernel)
  rw [hrun] at hids
  have hnetwork : Sample.repinnedScope.privateNetworkId = some "net" := rfl
  have hnone : ¬∃ e ∈ Site.heldIn "net" ["main"] Sample.joinedCloud, e.address = "172.16.0.99" := by
    decide +kernel
  obtain ⟨q, main, hq, haddress, hall⟩ := published_addresses_held Sample.joinedCloud_sound
    (by decide +kernel) (by decide +kernel) hnetwork rfl hrun
  cases hall with
  | cons hmain _ =>
    have hqid : q.id = "main" := hids q hq.mem
    have hpinned : main = "172.16.0.99" := hmain.pin _ rfl
    rw [hpinned] at hmain haddress
    refine ⟨x', hrun, haddress, fun hheld => ?_⟩
    have hattached : IsAttached Sample.joinedCloud q.id "net" := by
      rw [hqid]
      exact ⟨_, rfl⟩
    -- Were the address held now, then it would have been before, and nothing holds it there.
    have hbefore : HoldsAddress "net" Sample.joinedCloud q.id "172.16.0.99" :=
      (hmain.attached nofun hattached).1 (hqid ▸ hheld)
    rw [hqid] at hbefore
    exact hnone hbefore

end Topology

end ControlPlane
