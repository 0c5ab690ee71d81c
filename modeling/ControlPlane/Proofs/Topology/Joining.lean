import ControlPlane.Proofs.Topology.Network

/-!
# Joining the private network, one by one

While load balancers are attached, each of them is in one of two states (`Joining`): it has no
attachment and holds nothing, and the address that it is pinned to is available; or it is attached
and holds that address, or any if it is not pinned. Attaching one takes it from the first state to
the second, and leaves the others in theirs, since no two are pinned to one address. So attaching
can be cut short anywhere and be taken up again: what is attached is passed by, and the pinned
addresses of the others are still to be had.
-/

namespace ControlPlane

open Program hiding ofExcept

namespace Topology

variable {networkId zone : String} {b y : LoadBalancer} {c c' : Cloud} {addressId : Option String}

/-- How far a load balancer has come on its way into a private network. -/
inductive Joining (networkId : String) (b : LoadBalancer) (c : Cloud) : Prop
  | pending
      (free : (c.attachments.filter fun a =>
        decide (a.networkId = networkId) && decide (a.balancerId = b.id)) = [])
      (held : Site.heldIn networkId [b.id] c = [])
      (pin : ∀ address, b.privateAddress = some address →
        ∃ e ∈ Site.availableIn networkId c, e.address = address)
  | joined
      (attached : IsAttached c b.id networkId)
      (pin : ∀ address, b.privateAddress = some address →
        ∃ e ∈ Site.heldIn networkId [b.id] c, e.address = address)
      (any : b.privateAddress = none →
        (Site.heldIn networkId [b.id] c ≠ [] ↔ c.booksAddresses = true))

/-- What a load balancer may be attached with: the pinned address, which is available, or any. -/
def Granted (networkId : String) (b : LoadBalancer) (c : Cloud) (addressId : Option String) :
    Prop :=
  (b.privateAddress = none ∧ addressId = none) ∨
    ∃ k ∈ Site.availableIn networkId c, b.privateAddress = some k.address ∧ addressId = some k.id

/-- The addresses that are free to attach are those of the network without a holder. -/
theorem mem_availableIn {e : PrivateAddress} : e ∈ Site.availableIn networkId c ↔
    e ∈ c.privateAddresses ∧ e.networkId = networkId ∧ e.holder = none := by
  unfold Site.availableIn
  rw [List.mem_filter, Bool.and_eq_true, decide_eq_true_eq, decide_eq_true_eq]

/-- With what is granted, a load balancer that is there can be attached. -/
theorem Granted.attach (h : Granted networkId b c addressId)
    (hb : ∃ owner ∈ c.balancers, owner.id = b.id) :
    ∃ c', c.attach zone b.id networkId addressId = (.ok (), c') := by
  refine Cloud.attach_succeeds hb fun id hid => ?_
  rcases h with ⟨_, rfl⟩ | ⟨k, hk, _, rfl⟩
  · cases hid
  · cases hid
    exact ⟨k, (mem_availableIn.1 hk).1, rfl⟩

/-! ## The others -/

/-- What another load balancer holds does not change. -/
theorem Granted.heldIn_eq (h : Granted networkId b c addressId) (hc : c.Sound)
    (hattach : c.attach zone b.id networkId addressId = (.ok (), c')) (hne : y.id ≠ b.id) :
    Site.heldIn networkId [y.id] c' = Site.heldIn networkId [y.id] c := by
  unfold Site.heldIn
  rcases h with ⟨_, rfl⟩ | ⟨k, hk, _, rfl⟩
  · obtain ⟨new, hnew, hall, _⟩ := (Cloud.attach_effect hattach).2.2
    have hnone : (new.filter fun a =>
        decide (a.networkId = networkId) && a.holder.any (· ∈ [y.id])) = [] := by
      refine List.filter_eq_nil_iff.2 fun e he => ?_
      rw [(hall e he).2]
      simp [Ne.symm hne]
    rw [hnew, List.filter_append, hnone, List.append_nil]
  · obtain ⟨hmem, _, hholder⟩ := mem_availableIn.1 hk
    rw [(Cloud.attach_effect hattach).2.2]
    -- The address that is given away was held by none.
    have hself : ∀ e ∈ c.privateAddresses, e.id = k.id → e.holder = none := by
      intro e he hid
      rw [hc.privateAddresses.inj he hmem hid]
      exact hholder
    refine Cloud.filter_map_of_fixed (fun e he => ?_) fun e he hp => ?_
    · by_cases hid : e.id = k.id
      · rw [if_pos hid, hself e he hid]
        simp [Ne.symm hne]
      · rw [if_neg hid]
    · refine if_neg fun hid => ?_
      rw [hself e he hid] at hp
      simp at hp

/-- An available address with another text stays available. -/
theorem Granted.mem_availableIn (h : Granted networkId b c addressId) (hc : c.Sound)
    (hattach : c.attach zone b.id networkId addressId = (.ok (), c')) {e : PrivateAddress}
    (he : e ∈ Site.availableIn networkId c) (hne : b.privateAddress ≠ some e.address) :
    e ∈ Site.availableIn networkId c' := by
  obtain ⟨hmem, hnetwork, hholder⟩ := Topology.mem_availableIn.1 he
  refine Topology.mem_availableIn.2 ⟨?_, hnetwork, hholder⟩
  rcases h with ⟨_, rfl⟩ | ⟨k, hk, hpin, rfl⟩
  · obtain ⟨new, hnew, _⟩ := (Cloud.attach_effect hattach).2.2
    rw [hnew]
    exact List.mem_append_left _ hmem
  · rw [(Cloud.attach_effect hattach).2.2]
    refine List.mem_map.2 ⟨e, hmem, if_neg fun hid => hne ?_⟩
    rw [hc.privateAddresses.inj hmem (Topology.mem_availableIn.1 hk).1 hid]
    exact hpin

/-- Attaching a load balancer adds one attachment. -/
theorem attachments_of_attach (hattach : c.attach zone b.id networkId addressId = (.ok (), c')) :
    c'.attachments = c.attachments ++ [⟨b.id, zone, networkId⟩] ∧
      c'.booksAddresses = c.booksAddresses := by
  have heffect := (Cloud.attach_effect hattach).2.1
  constructor <;> rw [heffect]

/-- Another load balancer, with another pin, is as far as it was. -/
theorem Joining.attach_other (h : Joining networkId y c)
    (hgranted : Granted networkId b c addressId) (hc : c.Sound)
    (hattach : c.attach zone b.id networkId addressId = (.ok (), c')) (hne : y.id ≠ b.id)
    (hpins : ∀ address, y.privateAddress = some address → b.privateAddress ≠ some address) :
    Joining networkId y c' := by
  obtain ⟨hattachments, hbooks⟩ := attachments_of_attach hattach
  have hheld := hgranted.heldIn_eq hc hattach hne
  cases h with
  | pending hfree hnone hpin =>
    -- It is not attached by the attachment of another one.
    have hfree' : (c'.attachments.filter fun a =>
        decide (a.networkId = networkId) && decide (a.balancerId = y.id)) = [] := by
      rw [hattachments, List.filter_append, hfree]
      simp [Ne.symm hne]
    refine .pending hfree' (hheld.trans hnone) fun address haddress => ?_
    obtain ⟨e, he, rfl⟩ := hpin address haddress
    exact ⟨e, hgranted.mem_availableIn hc hattach he (hpins _ haddress), rfl⟩
  | joined hattached hpin hany =>
    -- It stays attached as it was.
    have hattached' : IsAttached c' y.id networkId := by
      obtain ⟨a, ha⟩ := hattached
      refine ⟨a, ?_⟩
      rw [hattachments, List.filter_append, ha]
      simp [Ne.symm hne]
    refine .joined hattached' ?_ ?_
    · rw [hheld]
      exact hpin
    · rw [hheld, hbooks]
      exact hany

/-- A load balancer that is attached has joined. -/
theorem Joining.attach_self (h : Site.heldIn networkId [b.id] c = [])
    (hfree : (c.attachments.filter fun a =>
      decide (a.networkId = networkId) && decide (a.balancerId = b.id)) = [])
    (hgranted : Granted networkId b c addressId)
    (hattach : c.attach zone b.id networkId addressId = (.ok (), c')) :
    Joining networkId b c' := by
  have hattached := (isAttached_of_attach hfree hattach).1
  obtain ⟨_, hbooks⟩ := attachments_of_attach hattach
  rcases hgranted with ⟨hnone, rfl⟩ | ⟨k, hk, hpin, rfl⟩
  · -- Without a pin, what it holds afterwards are the addresses that were booked for it.
    refine .joined hattached (fun address haddress => ?_) fun _ => ?_
    · rw [hnone] at haddress
      cases haddress
    · obtain ⟨new, hnew, hall, hbooked⟩ := (Cloud.attach_effect hattach).2.2
      have hheld : Site.heldIn networkId [b.id] c' = new := by
        have hself : (new.filter fun a =>
            decide (a.networkId = networkId) && a.holder.any (· ∈ [b.id])) = new := by
          refine List.filter_eq_self.2 fun e he => ?_
          rw [(hall e he).1, (hall e he).2]
          simp
        unfold Site.heldIn at h ⊢
        rw [hnew, List.filter_append, h, hself]
        rfl
      rw [hheld, hbooks]
      exact hbooked
  · -- With a pin, it holds the address that the pin found.
    refine .joined hattached (fun address haddress => ?_) fun hnone => ?_
    · rw [hpin] at haddress
      cases haddress
      obtain ⟨hmem, hnetwork, _⟩ := mem_availableIn.1 hk
      have hgiven : { k with holder := some b.id } ∈ c'.privateAddresses := by
        rw [(Cloud.attach_effect hattach).2.2]
        exact List.mem_map.2 ⟨k, hmem, if_pos rfl⟩
      exact ⟨_, Site.mem_heldIn_singleton.2 ⟨⟨hgiven, rfl⟩, hnetwork⟩, rfl⟩
    · rw [hnone] at hpin
      cases hpin

/-- How far a load balancer has come depends on its id and its pin. -/
theorem Joining.congr (h : Joining networkId y c) (hid : y.id = b.id)
    (hpin : y.privateAddress = b.privateAddress) : Joining networkId b c := by
  cases h with
  | pending hfree hnone hpins => exact .pending (hid ▸ hfree) (hid ▸ hnone) (hpin ▸ hpins)
  | joined hattached hpins hany =>
    exact .joined (hid ▸ hattached) (hid ▸ hpin ▸ hpins) (hid ▸ hpin ▸ hany)

/-- How far a load balancer has come depends on attachments and private addresses alone. -/
theorem Joining.frame (h : Joining networkId b c) (hattachments : c'.attachments = c.attachments)
    (hprivate : c'.privateAddresses = c.privateAddresses)
    (hbooks : c'.booksAddresses = c.booksAddresses) : Joining networkId b c' := by
  have hheld : Site.heldIn networkId [b.id] c' = Site.heldIn networkId [b.id] c := by
    unfold Site.heldIn
    rw [hprivate]
  have havailable : Site.availableIn networkId c' = Site.availableIn networkId c := by
    unfold Site.availableIn
    rw [hprivate]
  have hattached : IsAttached c' b.id networkId ↔ IsAttached c b.id networkId := by
    unfold IsAttached
    rw [hattachments]
  cases h with
  | pending hfree hnone hpin =>
    exact .pending (hattachments ▸ hfree) (hheld.trans hnone) (havailable ▸ hpin)
  | joined hself hpin hany =>
    exact .joined (hattached.2 hself) (hheld ▸ hpin) (hheld ▸ hbooks ▸ hany)

/-! ## Private addresses on the way -/

/-- What a load balancer holds does not stand against its pin. -/
theorem Joining.fitsPrivately {s : Scope} {d : BalancerSpec}
    (hd : b.privateAddress = d.privateAddress)
    (h : ∀ networkId, s.privateNetworkId = some networkId → Joining networkId b c) :
    Secondary.fitsPrivately s c b d = true := by
  cases hnetwork : s.privateNetworkId with
  | none =>
    unfold Secondary.fitsPrivately
    rw [hnetwork]
    split
    · next hnone => cases hnone
    · rfl
  | some networkId =>
    cases haddress : d.privateAddress with
    | none =>
      unfold Secondary.fitsPrivately
      rw [haddress]
    | some address =>
      refine (Secondary.fitsPrivately_iff haddress hnetwork).2 ?_
      -- It holds nothing yet, or has been given its pin.
      cases h networkId hnetwork with
      | pending _ hnone _ => exact .inl hnone
      | joined _ hpin _ => exact .inr (hpin address (hd.trans haddress))

/-- A load balancer that holds an address of the network has one to publish. -/
theorem heldAddress_ne_none {id : String} (h : Site.heldIn networkId [id] c ≠ []) :
    heldAddress c id networkId ≠ none := by
  obtain ⟨e, he⟩ := List.exists_mem_of_ne_nil _ h
  have hholder := (Site.mem_heldIn_singleton.1 he).1.2
  obtain ⟨e', he'⟩ : ∃ e', (Site.heldIn networkId [id] c).reverse.find? (·.holder = some id) =
      some e' := Cloud.exists_find? (List.mem_reverse.2 he) (decide_eq_true hholder)
  rw [← heldBy_heldIn (List.mem_singleton_self id), heldBy, he']
  exact Option.some_ne_none _

/-- A load balancer that is attached has a private address, if it is pinned or addresses are
booked. -/
theorem Joining.settled_ne_none {s : Scope} (h : Joining networkId b c)
    (hnetwork : s.privateNetworkId = some networkId) (hattached : IsAttached c b.id networkId)
    (hbooks : b.privateAddress = none → c.booksAddresses = true) :
    (settled s c b).privateAddress ≠ none := by
  cases h with
  | pending hfree _ _ =>
    obtain ⟨a, ha⟩ := hattached
    rw [hfree] at ha
    cases ha
  | joined _ _ hany =>
    by_cases hnone : b.privateAddress = none
    · rw [settled_of_none hnetwork hnone]
      exact heldAddress_ne_none ((hany hnone).2 (hbooks hnone))
    · rw [settled_eq_self hnone]
      exact hnone

/-- Where a load balancer without a pin has got a private address, addresses are booked. -/
theorem Joining.books_of_settled {s : Scope} (h : Joining networkId b c)
    (hnetwork : s.privateNetworkId = some networkId) (hattached : IsAttached c b.id networkId)
    (hnone : b.privateAddress = none) (hsettled : (settled s c b).privateAddress ≠ none) :
    c.booksAddresses = true := by
  cases h with
  | pending hfree _ _ =>
    obtain ⟨a, ha⟩ := hattached
    rw [hfree] at ha
    cases ha
  | joined _ _ hany =>
    refine (hany hnone).1 fun hheld => hsettled ?_
    rw [settled_of_none hnetwork hnone]
    show heldAddress c b.id networkId = none
    rw [← heldBy_heldIn (List.mem_singleton_self b.id), hheld]
    rfl

/-! ## The list of available addresses

It is made once in a run, and read again for every load balancer that is pinned. -/

/-- What is available after a load balancer was attached was available before. -/
theorem availableIn_of_attach (hattach : c.attach zone b.id networkId addressId = (.ok (), c')) :
    Site.availableIn networkId c' ⊆ Site.availableIn networkId c := by
  intro e he
  obtain ⟨hmem, hnetwork, hholder⟩ := mem_availableIn.1 he
  refine mem_availableIn.2 ⟨?_, hnetwork, hholder⟩
  have heffect := (Cloud.attach_effect hattach).2.2
  cases addressId with
  | none =>
    obtain ⟨new, hnew, hall, _⟩ := heffect
    rw [hnew, List.mem_append] at hmem
    -- The new addresses are held from the start.
    refine hmem.resolve_right fun hmem' => ?_
    rw [(hall e hmem').2] at hholder
    cases hholder
  | some id =>
    dsimp only at heffect
    rw [heffect] at hmem
    obtain ⟨e0, he0, rfl⟩ := List.mem_map.1 hmem
    split at hholder
    · -- The reserved one is held now.
      cases hholder
    · next hid =>
      rw [if_neg hid]
      exact he0

/-- Where load balancers without attachments could all be attached, the addresses that they are
pinned to were available. -/
theorem attachAll_pins {site : Site} {bs : List LoadBalancer} {c0 : Cloud}
    {known : Option (List PrivateAddress)} {u : Unit}
    (h : (attachAll site networkId known bs).Returns c u c')
    (hknown : ∀ as, known = some as → as ⊆ Site.availableIn networkId c0)
    (hsub : Site.availableIn networkId c ⊆ Site.availableIn networkId c0)
    (hids : (bs.map (·.id)).Nodup)
    (hfree : ∀ b ∈ bs, (c.attachments.filter fun a =>
      decide (a.networkId = networkId) && decide (a.balancerId = b.id)) = []) :
    ∀ b ∈ bs, ∀ address, b.privateAddress = some address →
      ∃ e ∈ Site.availableIn networkId c0, e.address = address := by
  induction bs generalizing known c with
  | nil => exact nofun
  | cons b rest ih =>
    rw [List.map_cons, List.nodup_cons] at hids
    obtain ⟨_, ⟨⟨a, ha⟩, _⟩ | ⟨hnone, addressId, known', c1, hpinned, hattach, hrest⟩⟩ :=
      attachAll_cons_cases h
    · rw [hfree b List.mem_cons_self] at ha
      cases ha
    have hsub1 := List.Subset.trans (availableIn_of_attach hattach) hsub
    -- The others still have no attachment.
    have hfree1 : ∀ x ∈ rest, (c1.attachments.filter fun a =>
        decide (a.networkId = networkId) && decide (a.balancerId = x.id)) = [] := by
      intro x hx
      have hne : b.id ≠ x.id := fun heq => hids.1 (heq ▸ List.mem_map_of_mem hx)
      rw [(attachments_of_attach hattach).1, List.filter_append,
        hfree x (List.mem_cons_of_mem _ hx)]
      simp [hne]
    obtain ⟨_, hcases⟩ := pinnedAddressId_returns hpinned
    -- The first load balancer has no pin, or one that was found in the list, which is then known
    -- for the rest.
    rcases hcases with ⟨hunpinned, hr⟩ | ⟨address, as, e, haddress, has, hfound, hr⟩
    · obtain ⟨rfl, rfl⟩ := Prod.mk.inj hr
      rintro x (_ | ⟨_, hx⟩) address' haddress'
      · rw [hunpinned] at haddress'
        cases haddress'
      · exact ih hrest hknown hsub1 hids.2 hfree1 x hx address' haddress'
    · obtain ⟨rfl, rfl⟩ := Prod.mk.inj hr
      have he : e ∈ as := List.mem_of_find?_eq_some hfound
      have heq : e.address = address := by simpa using List.find?_some hfound
      have has' : as ⊆ Site.availableIn networkId c0 := by
        rw [has]
        cases known with
        | none => exact hsub
        | some as => exact hknown as rfl
      have hknown' : ∀ as', some as = some as' → as' ⊆ Site.availableIn networkId c0 := by
        intro as' heq'
        cases heq'
        exact has'
      rintro x (_ | ⟨_, hx⟩) address' haddress'
      · rw [haddress] at haddress'
        cases haddress'
        exact ⟨e, has' he, heq⟩
      · exact ih hrest hknown' hsub1 hids.2 hfree1 x hx address' haddress'

/-- The list of available addresses, if it has been made, still tells where those are that load
balancers without attachments are pinned to. -/
def Knows (networkId : String) (bs : List LoadBalancer) (known : Option (List PrivateAddress))
    (c : Cloud) : Prop :=
  ∀ as, known = some as → ∀ b ∈ bs, ∀ address, b.privateAddress = some address →
    (c.attachments.filter fun a =>
      decide (a.networkId = networkId) && decide (a.balancerId = b.id)) = [] →
    (∃ k ∈ as, k.address = address) ∧
      ∀ k ∈ as, k.address = address → k ∈ Site.availableIn networkId c

/-- The list tells it when it is made. -/
theorem knows_available {bs : List LoadBalancer} (h : ∀ b ∈ bs, Joining networkId b c) :
    Knows networkId bs (some (Site.availableIn networkId c)) c := by
  intro as has b hb address haddress hfree
  cases has
  cases h b hb with
  | pending _ _ hpin => exact ⟨hpin address haddress, fun k hk _ => hk⟩
  | joined hattached _ _ =>
    obtain ⟨a, ha⟩ := hattached
    rw [hfree] at ha
    cases ha

/-- The list tells it after another load balancer has been attached. -/
theorem Knows.attach {bs : List LoadBalancer} {known : Option (List PrivateAddress)}
    (h : Knows networkId bs known c) (hgranted : Granted networkId b c addressId) (hc : c.Sound)
    (hattach : c.attach zone b.id networkId addressId = (.ok (), c'))
    (hpins : ∀ x ∈ bs, ∀ address, x.privateAddress = some address →
      b.privateAddress ≠ some address) :
    Knows networkId bs known c' := by
  intro as has x hx address haddress hfree
  rw [(attachments_of_attach hattach).1, List.filter_append, List.append_eq_nil_iff] at hfree
  obtain ⟨hexists, hall⟩ := h as has x hx address haddress hfree.1
  refine ⟨hexists, fun k hk hk' => hgranted.mem_availableIn hc hattach (hall k hk hk') ?_⟩
  rw [hk']
  exact hpins x hx address haddress

/-- What a load balancer without an attachment is to be attached with can be found, and what is
known then tells the same of the others. -/
theorem Knows.grants {bs : List LoadBalancer} {known : Option (List PrivateAddress)}
    (h : Knows networkId (b :: bs) known c) (hjoining : ∀ x ∈ b :: bs, Joining networkId x c)
    (hfree : (c.attachments.filter fun a =>
      decide (a.networkId = networkId) && decide (a.balancerId = b.id)) = []) :
    ∃ addressId known', (pinnedAddressId networkId b known).Returns c (addressId, known') c ∧
      Granted networkId b c addressId ∧ Knows networkId bs known' c := by
  have htail : ∀ {known'}, Knows networkId (b :: bs) known' c → Knows networkId bs known' c :=
    fun hknows as has x hx => hknows as has x (List.mem_cons_of_mem _ hx)
  cases haddress : b.privateAddress with
  | none =>
    refine ⟨none, known, ?_, .inl ⟨haddress, rfl⟩, htail h⟩
    unfold pinnedAddressId
    rw [haddress]
    rfl
  | some address =>
    -- The list is known, or made now.
    obtain ⟨as, has, hknows⟩ : ∃ as, (availableOnce networkId known).Returns c as c ∧
        Knows networkId (b :: bs) (some as) c := by
      cases known with
      | some as => exact ⟨as, rfl, h⟩
      | none =>
        exact ⟨_, Site.availableAddresses_returns.2 ⟨rfl, rfl⟩, knows_available hjoining⟩
    obtain ⟨⟨k, hk, hkaddress⟩, hall⟩ := hknows as rfl b List.mem_cons_self address haddress hfree
    obtain ⟨k', hk'⟩ : ∃ k', as.find? (·.address = address) = some k' :=
      Cloud.exists_find? hk (decide_eq_true hkaddress)
    have hmem := List.mem_of_find?_eq_some hk'
    have hself : k'.address = address := by simpa using List.find?_some hk'
    refine ⟨some k'.id, some as, ?_, .inr ⟨k', hall k' hmem hself, ?_, rfl⟩, htail hknows⟩
    · unfold pinnedAddressId
      rw [haddress]
      refine returns_bind.2 ⟨as, c, has, ?_⟩
      rw [hk']
      rfl
    · rw [hself]
      exact haddress

end Topology

end ControlPlane
