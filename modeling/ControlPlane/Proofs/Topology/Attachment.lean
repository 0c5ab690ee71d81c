import ControlPlane.Proofs.Provider.Traffic
import ControlPlane.Proofs.Topology.Holding

/-!
# What attaching to the private network sends, and how it ends

Load balancers are attached one after the other. One that is attached is passed by, one without a
pin is attached with any address, and one with a pin with the first available address that is the
pinned one; the available addresses are listed when the first pin is met, and not again. Two things
end the walk: a pin that no available address meets (`PinMissing`), and two attachments to the
network where one is looked for (`Ambiguous`).

All of this is about the cloud at the start of the walk: what has been attached on the way changes
neither the links of the load balancers that come later nor the list of available addresses that the
walk has made or will make (`Sees`). `attachAll_append` takes the walk up to where it ends, and
`ensurePrivateNetwork_connects` says how a run ends and what it has sent, in terms of the cloud at
its start, and for the addresses that load balancers have been given, at its end.
-/

namespace ControlPlane

open Program hiding ofExcept

namespace Topology

variable {networkId : String} {b : LoadBalancer} {bs before after : List LoadBalancer}
  {c0 c c' : Cloud} {known : Option (List PrivateAddress)}

/-! ## What the walk meets -/

/-- The attachments of a load balancer to a private network. -/
def links (networkId : String) (c : Cloud) (b : LoadBalancer) : List Attachment :=
  c.attachments.filter fun a =>
    decide (a.networkId = networkId) && decide (a.balancerId = b.id)

/-- The available address of a private network that a load balancer is pinned to. -/
def lease (networkId : String) (c : Cloud) (b : LoadBalancer) : Option PrivateAddress :=
  b.privateAddress.bind fun address => (Site.availableIn networkId c).find? (·.address = address)

/-- The load balancer is not attached, and no available address is the one that it is pinned to. -/
def PinMissing (networkId : String) (c : Cloud) (b : LoadBalancer) : Prop :=
  links networkId c b = [] ∧ ∃ address, b.privateAddress = some address ∧
    ∀ a ∈ c.privateAddresses, a.networkId = networkId → a.holder = none → a.address ≠ address

/-- The load balancer is attached more than once. -/
def Ambiguous (networkId : String) (c : Cloud) (b : LoadBalancer) : Prop :=
  2 ≤ (links networkId c b).length

/-- The walk ends at the load balancer. -/
def Blocked (networkId : String) (c : Cloud) (b : LoadBalancer) : Prop :=
  PinMissing networkId c b ∨ Ambiguous networkId c b

/-- The load balancer has no pin and holds no address of the private network. -/
def Pending (networkId : String) (c : Cloud) (b : LoadBalancer) : Prop :=
  b.privateAddress = none ∧
    ∀ a ∈ c.privateAddresses, a.networkId = networkId → a.holder ≠ some b.id

/-- The request that attaches a load balancer. -/
def joining (networkId : String) (c : Cloud) (b : LoadBalancer) : Request :=
  .attach b.zone b.id networkId ((lease networkId c b).map (·.id))

/-- The load balancers of a list that have no attachment yet. -/
def unlinked (networkId : String) (c : Cloud) (bs : List LoadBalancer) : List LoadBalancer :=
  bs.filter fun b => decide (links networkId c b = [])

/-- A load balancer without an attachment is yet to be attached. -/
theorem unlinked_of_free (h : links networkId c b = []) : unlinked networkId c [b] = [b] := by
  simp [unlinked, h]

/-- One with an attachment is not. -/
theorem unlinked_of_linked (h : links networkId c b ≠ []) : unlinked networkId c [b] = [] := by
  simp [unlinked, h]

/-- What is leased is available, and is the pinned address. -/
theorem lease_eq_some {a : PrivateAddress} (h : lease networkId c b = some a) :
    a ∈ Site.availableIn networkId c ∧ b.privateAddress = some a.address := by
  obtain ⟨address, haddress, hfind⟩ := Option.bind_eq_some_iff.1 h
  have hself : a.address = address := by simpa using List.find?_some hfind
  exact ⟨List.mem_of_find?_eq_some hfind, by rw [haddress, hself]⟩

/-- Where a load balancer without attachment has a pin that is not missing, it can be leased. -/
theorem exists_lease (hlinks : links networkId c b = []) (hfree : ¬PinMissing networkId c b)
    {address : String} (haddress : b.privateAddress = some address) :
    ∃ a, lease networkId c b = some a := by
  have hfound : ¬∀ a ∈ Site.availableIn networkId c, a.address ≠ address := by
    refine fun hall => hfree ⟨hlinks, address, haddress, fun a ha hnetwork hholder => ?_⟩
    exact hall a (mem_availableIn.2 ⟨ha, hnetwork, hholder⟩)
  push Not at hfound
  obtain ⟨a, ha, hself⟩ := hfound
  unfold lease
  rw [haddress]
  exact Cloud.exists_find? ha (decide_eq_true hself)

/-- Where the pin is missing, nothing can be leased. -/
theorem PinMissing.find?_eq_none (h : PinMissing networkId c b) :
    ∃ address, b.privateAddress = some address ∧
      (Site.availableIn networkId c).find? (·.address = address) = none := by
  obtain ⟨_, address, haddress, hall⟩ := h
  refine ⟨address, haddress, List.find?_eq_none.2 fun a ha => ?_⟩
  obtain ⟨hmem, hnetwork, hholder⟩ := mem_availableIn.1 ha
  rw [decide_eq_true_eq]
  exact hall a hmem hnetwork hholder

/-! ## One step -/

section

variable {s : Site}

/-- The failure of a look-up that finds several attachments. -/
def severalLinks (networkId : String) (n : Nat) : Failure :=
  .ofFault ⟨.tooManyFound, .severalFound n ("attached private networks with id " ++ networkId)⟩

/-- A single attachment is found, none where there is none, and several are an error. -/
theorem findAttachment_plays (hzone : b.zone ∈ s.zones) :
    (s.findAttachment b.zone b.id networkId).orNone.Plays c []
      (match links networkId c b with
        | [] => .ok none
        | [a] => .ok (some a)
        | as => .error (severalLinks networkId as.length)) c := by
  have hread : (s.findAttachment b.zone b.id networkId).ReadOnly := Site.findAttachment_readOnly
  have hplays := hread.orNone.plays c
  -- The look-up asks for the one attachment among the links of the load balancer.
  have hexec : (s.findAttachment b.zone b.id networkId).exec c =
      (single (links networkId c b) ("attached private networks with id " ++ networkId), c) := by
    unfold Site.findAttachment
    rw [exec_bind, Site.checkZone_exec hzone]
    dsimp only
    rw [exec_bind]
    show (Program.ofExcept (single ((c.attachments.filter _).filter _) _)).exec c = _
    rw [List.filter_filter]
    unfold links
    cases single (c.attachments.filter fun a => decide (a.networkId = networkId) &&
      decide (a.balancerId = b.id)) ("attached private networks with id " ++ networkId) <;> rfl
  rw [exec_orNone, hexec] at hplays
  -- None is taken as such; several are a failure that is handed on.
  generalize links networkId c b = as at hplays ⊢
  match as with
  | [] | [a] => exact hplays
  | a :: a' :: rest =>
    dsimp only [single, raise] at hplays
    rw [Failure.isIgnored_ofFault] at hplays
    exact hplays

/-- The available addresses are those that are known, or are listed. -/
theorem availableOnce_plays : (availableOnce networkId known).Plays c []
    (.ok (known.getD (Site.availableIn networkId c))) c := by
  cases known with
  | some as => exact .done as c
  | none =>
    exact Site.availableAddresses_readOnly.plays_of_returns
      (Site.availableAddresses_returns.2 ⟨rfl, rfl⟩)

/-- A load balancer whose pin is not missing is given what it can be leased. -/
theorem pinnedAddressId_plays
    (hknown : known.getD (Site.availableIn networkId c) = Site.availableIn networkId c0)
    (hlinks : links networkId c0 b = []) (hfree : ¬PinMissing networkId c0 b) :
    ∃ known', (pinnedAddressId networkId b known).Plays c []
        (.ok ((lease networkId c0 b).map (·.id), known')) c ∧
      (b.privateAddress = none ∧ known' = known ∨
        known' = some (Site.availableIn networkId c0)) := by
  cases haddress : b.privateAddress with
  | none =>
    refine ⟨known, ?_, .inl ⟨rfl, rfl⟩⟩
    unfold pinnedAddressId lease
    rw [haddress]
    exact .done (none, known) c
  | some address =>
    -- Its pin is among the reserved ones, which are listed unless they are known.
    obtain ⟨a, ha⟩ := exists_lease hlinks hfree haddress
    refine ⟨some (Site.availableIn networkId c0), ?_, .inr rfl⟩
    have hfound : (Site.availableIn networkId c0).find? (·.address = address) = some a := by
      rw [lease, haddress] at ha
      exact ha
    unfold pinnedAddressId
    rw [haddress, ha]
    refine availableOnce_plays.bind_silent ?_
    rw [hknown, hfound]
    exact .done (some a.id, some (Site.availableIn networkId c0)) c

/-- A load balancer whose pin is missing ends the walk. -/
theorem pinnedAddressId_fails
    (hknown : known.getD (Site.availableIn networkId c) = Site.availableIn networkId c0)
    (h : PinMissing networkId c0 b) :
    ∃ address, b.privateAddress = some address ∧ (pinnedAddressId networkId b known).Plays c []
      (.error (.ofFault (.terminal (.pinnedPrivateAddressMissing address)))) c := by
  obtain ⟨address, haddress, hnone⟩ := h.find?_eq_none
  refine ⟨address, haddress, ?_⟩
  unfold pinnedAddressId
  rw [haddress]
  refine availableOnce_plays.bind_silent ?_
  rw [hknown, hnone]
  exact .fail _ c

end

/-! ## The walk -/

/-- For the load balancers that are still to come, what the walk sees is as it was at the start:
their attachments, and the available addresses, be they known or not. Those addresses are all there,
if some have been given away. -/
structure Sees (networkId : String) (c0 c : Cloud) (known : Option (List PrivateAddress))
    (bs : List LoadBalancer) : Prop where
  links : ∀ b ∈ bs, links networkId c b = Topology.links networkId c0 b
  known : known.getD (Site.availableIn networkId c) = Site.availableIn networkId c0
  present : ∀ a ∈ Site.availableIn networkId c0, ∃ e ∈ c.privateAddresses, e.id = a.id
  there : ∀ b ∈ bs, ∃ owner ∈ c.balancers, owner.id = b.id

/-- At its start, the walk sees the cloud as it is. -/
theorem sees_start (hthere : ∀ b ∈ bs, ∃ owner ∈ c.balancers, owner.id = b.id) :
    Sees networkId c c none bs :=
  ⟨fun _ _ => rfl, rfl, fun a ha => ⟨a, (mem_availableIn.1 ha).1, rfl⟩, hthere⟩

/-- A load balancer may be passed by. -/
theorem Sees.skip (h : Sees networkId c0 c known (b :: bs)) : Sees networkId c0 c known bs :=
  ⟨fun x hx => h.links x (List.mem_cons_of_mem _ hx), h.known, h.present,
    (List.forall_mem_cons.1 h.there).2⟩

/-- Addresses may be given away or booked, but they do not go. -/
theorem exists_address_of_attach {zone : String} {addressId : Option String}
    (h : c.attach zone b.id networkId addressId = (.ok (), c')) {e : PrivateAddress}
    (he : e ∈ c.privateAddresses) : ∃ e' ∈ c'.privateAddresses, e'.id = e.id := by
  have heffect := (Cloud.attach_effect h).2.2
  cases addressId with
  | none =>
    obtain ⟨new, hnew, _⟩ := heffect
    rw [hnew]
    exact ⟨e, List.mem_append_left _ he, rfl⟩
  | some id =>
    dsimp only at heffect
    rw [heffect]
    refine ⟨_, List.mem_map_of_mem he, ?_⟩
    split <;> rfl

/-- What can be leased can be attached with. -/
theorem Sees.attach_succeeds (h : Sees networkId c0 c known (b :: bs)) (zone : String) :
    ∃ c', c.attach zone b.id networkId ((lease networkId c0 b).map (·.id)) = (.ok (), c') := by
  refine Cloud.attach_succeeds (h.there b List.mem_cons_self) fun id hid => ?_
  obtain ⟨a, hlease, rfl⟩ := Option.map_eq_some_iff.1 hid
  exact h.present a (lease_eq_some hlease).1

/-- The walk goes on as it has begun after a load balancer has been attached. -/
theorem Sees.attach {zone : String} {known' : Option (List PrivateAddress)}
    (h : Sees networkId c0 c known (b :: bs)) (hid : b.id ∉ bs.map (·.id))
    (hattach : c.attach zone b.id networkId ((lease networkId c0 b).map (·.id)) = (.ok (), c'))
    (hknown : b.privateAddress = none ∧ known' = known ∨
      known' = some (Site.availableIn networkId c0)) :
    Sees networkId c0 c' known' bs := by
  constructor
  case links =>
    intro x hx
    -- The new attachment is of another load balancer.
    have hne : b.id ≠ x.id := fun heq => hid (heq ▸ List.mem_map_of_mem hx)
    rw [← h.links x (List.mem_cons_of_mem _ hx)]
    unfold Topology.links
    rw [(attachments_of_attach hattach).1, List.filter_append]
    simp [hne]
  case known =>
    rcases hknown with ⟨hnone, rfl⟩ | rfl
    · cases known' with
      | some as => exact h.known
      | none =>
        -- The list is still to be made, so there was no pin, and a new address is none of the
        -- available ones.
        have hany : (lease networkId c0 b).map (·.id) = none := by
          rw [lease, hnone]
          rfl
        rw [hany] at hattach
        exact (availableIn_of_attach_any hattach).trans h.known
    · rfl
  case present =>
    intro a ha
    obtain ⟨e, he, heq⟩ := h.present a ha
    obtain ⟨e', he', heq'⟩ := exists_address_of_attach hattach he
    exact ⟨e', he', heq'.trans heq⟩
  case there =>
    rw [(Cloud.attach_effect hattach).2.1]
    exact (List.forall_mem_cons.1 h.there).2

section

variable {s : Site}

/-- The attachment that a load balancer gets. -/
def joined (networkId : String) (b : LoadBalancer) : Attachment := ⟨b.id, b.zone, networkId⟩

/-- A load balancer that does not block the walk is passed by, or attached. -/
theorem attachOne_plays (h : Sees networkId c0 c known (b :: bs)) (hid : b.id ∉ bs.map (·.id))
    (hzone : b.zone ∈ s.zones) (hfree : ¬Blocked networkId c0 b) :
    ∃ known' c1, Sees networkId c0 c1 known' bs ∧
      c1.attachments = c.attachments ++ (unlinked networkId c0 [b]).map (joined networkId) ∧
      (IsAttached c1 b.id networkId ∧
        ∀ id, IsAttached c id networkId → IsAttached c1 id networkId) ∧
      (attachOne s networkId known b).Plays c
        ((unlinked networkId c0 [b]).map (joining networkId c0)) (.ok known') c1 := by
  have hpin : ¬PinMissing networkId c0 b := fun hmissing => hfree (.inl hmissing)
  have hfind : (s.findAttachment b.zone b.id networkId).orNone.Plays c [] _ c :=
    findAttachment_plays hzone
  rw [h.links b List.mem_cons_self] at hfind
  obtain ⟨step, heq, hstep⟩ := attachOne_steps s networkId known b
  rw [heq]
  match hlinks : links networkId c0 b with
  | [] =>
    -- No attachment: the pin is resolved, and the load balancer attached.
    rw [hlinks] at hfind
    rw [unlinked_of_free hlinks]
    obtain ⟨known', hpinned, hknown⟩ := pinnedAddressId_plays h.known hlinks hpin
    obtain ⟨c1, hattach⟩ := h.attach_succeeds b.zone
    have hnone : links networkId c b = [] := (h.links b List.mem_cons_self).trans hlinks
    refine ⟨known', c1, h.attach hid hattach hknown, (attachments_of_attach hattach).1,
      isAttached_of_attach hnone hattach, hfind.bind_silent ?_⟩
    cases hstep none with
    | missing hp =>
      rw [hp]
      refine hpinned.bind_silent ?_
      exact (Site.plays_in_zone (r := joining networkId c0 b) hzone rfl hattach).bind
        (Plays.done known' c1)
  | [a] =>
    -- One attachment: no change is sent.
    rw [hlinks] at hfind
    rw [unlinked_of_linked (by rw [hlinks]; exact List.cons_ne_nil a [])]
    have hone : links networkId c b = [a] := (h.links b List.mem_cons_self).trans hlinks
    refine ⟨known, c, h.skip, (List.append_nil _).symm, ⟨⟨a, hone⟩, fun _ hid' => hid'⟩,
      hfind.bind_silent ?_⟩
    cases hstep (some a) with
    | attached _ hp => exact hp ▸ Plays.done known c
  | a :: a' :: rest =>
    -- Several would block the walk.
    refine (hfree (.inr ?_)).elim
    unfold Ambiguous
    rw [hlinks]
    exact Nat.le_add_left 2 rest.length

/-- Up to the first load balancer that blocks it, the walk passes by those with an attachment, and
attaches those without. -/
theorem attachAll_append (h : Sees networkId c0 c known (before ++ after))
    (hids : ((before ++ after).map (·.id)).Nodup) (hzones : ∀ b ∈ before, b.zone ∈ s.zones)
    (hfree : ∀ b ∈ before, ¬Blocked networkId c0 b) :
    ∃ known' c1, Sees networkId c0 c1 known' after ∧
      c1.attachments = c.attachments ++ (unlinked networkId c0 before).map (joined networkId) ∧
      ((∀ b ∈ before, IsAttached c1 b.id networkId) ∧
        ∀ id, IsAttached c id networkId → IsAttached c1 id networkId) ∧
      ∀ ks result c', (attachAll s networkId known' after).Plays c1 ks result c' →
        (attachAll s networkId known (before ++ after)).Plays c
          ((unlinked networkId c0 before).map (joining networkId c0) ++ ks) result c' := by
  induction before generalizing known c with
  | nil =>
    exact ⟨known, c, h, (List.append_nil _).symm, ⟨nofun, fun _ hid => hid⟩,
      fun _ _ _ hrest => hrest⟩
  | cons b rest ih =>
    obtain ⟨hzone, hzones'⟩ := List.forall_mem_cons.1 hzones
    obtain ⟨hb, hrest⟩ := List.forall_mem_cons.1 hfree
    rw [List.cons_append, List.map_cons, List.nodup_cons] at hids
    -- The first one is attached if it is not, and the walk goes on with what is known then.
    obtain ⟨known1, c1, h1, hattachments1, ⟨hself, hkeep1⟩, hplays1⟩ :=
      attachOne_plays h hids.1 hzone hb
    obtain ⟨known', c2, h2, hattachments2, ⟨hall, hkeep2⟩, hplays2⟩ := ih h1 hids.2 hzones' hrest
    have hsplit : unlinked networkId c0 (b :: rest) =
        unlinked networkId c0 [b] ++ unlinked networkId c0 rest :=
      List.filter_append [b] rest
    rw [hsplit, List.map_append, List.map_append]
    refine ⟨known', c2, h2, ?_, ⟨List.forall_mem_cons.2 ⟨hkeep2 _ hself, hall⟩,
      fun id hid => hkeep2 id (hkeep1 id hid)⟩, fun ks result c' hplays => ?_⟩
    · rw [hattachments2, hattachments1, List.append_assoc]
    · rw [List.append_assoc]
      exact hplays1.bind (hplays2 _ _ _ hplays)

/-- At a load balancer that blocks it, the walk ends with a failure and sends nothing more. -/
theorem attachOne_blocked (h : Sees networkId c0 c known (b :: bs)) (hzone : b.zone ∈ s.zones)
    (hblocked : Blocked networkId c0 b) :
    ∃ e, (attachOne s networkId known b).Plays c [] (.error e) c ∧
      ((PinMissing networkId c0 b ∧ ∃ address, b.privateAddress = some address ∧
          e = .ofFault (.terminal (.pinnedPrivateAddressMissing address))) ∨
        (Ambiguous networkId c0 b ∧ e = severalLinks networkId (links networkId c0 b).length)) := by
  have hfind : (s.findAttachment b.zone b.id networkId).orNone.Plays c [] _ c :=
    findAttachment_plays hzone
  rw [h.links b List.mem_cons_self] at hfind
  obtain ⟨step, heq, hstep⟩ := attachOne_steps s networkId known b
  rw [heq]
  rcases hblocked with hmissing | hambiguous
  · -- It has no link, so that its pin is looked for, and not found.
    obtain ⟨address, haddress, hpinned⟩ := pinnedAddressId_fails h.known hmissing
    rw [hmissing.1] at hfind
    refine ⟨_, hfind.bind_silent ?_, .inl ⟨hmissing, address, haddress, rfl⟩⟩
    cases hstep none with
    | missing hp => exact hp ▸ hpinned.bind_fails
  · -- It has several links, and the look-up fails.
    refine ⟨_, ?_, .inr ⟨hambiguous, rfl⟩⟩
    unfold Ambiguous at hambiguous
    generalize links networkId c0 b = as at hfind hambiguous ⊢
    rcases as with _ | ⟨a, _ | ⟨a', rest⟩⟩
    · simp at hambiguous
    · simp at hambiguous
    · exact hfind.bind_fails

/-- A list goes on up to the first element that has a property, if there is one. -/
theorem exists_first {α : Type} (P : α → Prop) (items : List α) :
    ∃ before after, items = before ++ after ∧ (∀ a ∈ before, ¬P a) ∧ ∀ a ∈ after.head?, P a := by
  induction items with
  | nil => exact ⟨[], [], rfl, nofun, nofun⟩
  | cons item rest ih =>
    by_cases hitem : P item
    · refine ⟨[], item :: rest, rfl, nofun, ?_⟩
      rintro a ⟨⟩
      exact hitem
    · obtain ⟨before, after, rfl, hbefore, hafter⟩ := ih
      exact ⟨item :: before, after, rfl, List.forall_mem_cons.2 ⟨hitem, hbefore⟩, hafter⟩

/-- How the walk ends, and what it has attached. -/
theorem attachAll_plays (hids : (bs.map (·.id)).Nodup) (hzones : ∀ b ∈ bs, b.zone ∈ s.zones)
    (hthere : ∀ b ∈ bs, ∃ owner ∈ c.balancers, owner.id = b.id) :
    ∃ before after c', bs = before ++ after ∧ (∀ b ∈ before, ¬Blocked networkId c b) ∧
      (c'.attachments = c.attachments ++ (unlinked networkId c before).map (joined networkId) ∧
        ∀ b ∈ before, IsAttached c' b.id networkId) ∧
      ((after = [] ∧ (attachAll s networkId none bs).Plays c
          ((unlinked networkId c before).map (joining networkId c)) (.ok ()) c') ∨
        ∃ b rest e, after = b :: rest ∧ (attachAll s networkId none bs).Plays c
            ((unlinked networkId c before).map (joining networkId c)) (.error e) c' ∧
          ((PinMissing networkId c b ∧ ∃ address, b.privateAddress = some address ∧
              e = .ofFault (.terminal (.pinnedPrivateAddressMissing address))) ∨
            (Ambiguous networkId c b ∧
              e = severalLinks networkId (links networkId c b).length))) := by
  -- The walk gets to the first one that is blocked, and attaches those before it.
  obtain ⟨before, after, rfl, hbefore, hafter⟩ := exists_first (Blocked networkId c) bs
  obtain ⟨known, c1, hsees, hattachments, ⟨hattached, _⟩, hplays⟩ :=
    attachAll_append (sees_start hthere) hids (fun b hb => hzones b (List.mem_append_left _ hb)) hbefore
  refine ⟨before, after, c1, rfl, hbefore, ⟨hattachments, hattached⟩, ?_⟩
  cases after with
  | nil =>
    have hdone := hplays [] (.ok ()) c1 (.done () c1)
    rw [List.append_nil ((unlinked networkId c before).map _)] at hdone
    exact .inl ⟨rfl, hdone⟩
  | cons b rest =>
    obtain ⟨e, hblocked, hwhy⟩ := attachOne_blocked hsees
      (hzones b (List.mem_append_right _ List.mem_cons_self)) (hafter b rfl)
    have hfailed := hplays [] (.error e) c1 hblocked.bind_fails
    rw [List.append_nil] at hfailed
    exact .inr ⟨b, rest, e, rfl, hfailed, hwhy⟩

end

/-! ## Private addresses -/

section

variable {s : Scope}

/-- A load balancer is pending if it comes out without a private address. -/
theorem pending_iff (hnetwork : s.privateNetworkId = some networkId) :
    Pending networkId c b ↔ (settled s c b).privateAddress = none := by
  unfold Pending settled
  rw [hnetwork, Option.bind_some]
  cases b.privateAddress with
  | some address => exact iff_of_false (fun h => nomatch h.1) nofun
  | none =>
    -- Without a pin, the address is the last one that the load balancer holds in the network.
    rw [Option.none_or, heldAddress, heldBy, Option.map_eq_none_iff, List.find?_eq_none]
    constructor
    · rintro ⟨_, hall⟩ a ha
      rw [List.mem_reverse, List.mem_filter, decide_eq_true_eq] at ha
      rw [decide_eq_true_eq]
      exact hall a ha.1 ha.2
    · intro hall
      refine ⟨rfl, fun a ha haddress hholder => ?_⟩
      have hmem : a ∈ (c.privateAddresses.filter (·.networkId = networkId)).reverse :=
        List.mem_reverse.2 (List.mem_filter.2 ⟨ha, decide_eq_true haddress⟩)
      exact hall a hmem (decide_eq_true hholder)

/-- The address that a load balancer comes out with is the pinned one, or one that it holds. -/
theorem settled_address (hnetwork : s.privateNetworkId = some networkId) {address : String}
    (h : (settled s c b).privateAddress = some address) :
    b.privateAddress = some address ∨ b.privateAddress = none ∧ ∃ a ∈ c.privateAddresses,
      a.networkId = networkId ∧ a.holder = some b.id ∧ a.address = address := by
  unfold settled at h
  rw [hnetwork, Option.bind_some] at h
  cases hpin : b.privateAddress with
  | some address' =>
    rw [hpin] at h
    exact .inl h
  | none =>
    rw [hpin, Option.none_or, heldAddress, heldBy, Option.map_eq_some_iff] at h
    obtain ⟨a, ha, haddress⟩ := h
    have hholder : a.holder = some b.id := by simpa using List.find?_some ha
    have hmem := List.mem_reverse.1 (List.mem_of_find?_eq_some ha)
    rw [List.mem_filter, decide_eq_true_eq] at hmem
    exact .inr ⟨rfl, a, hmem.1, hmem.2, hholder, haddress⟩

/-- The failure of a load balancer that waits for its private address. -/
def addressPending (b : LoadBalancer) : Failure :=
  .ofFault ⟨.transient addressPendingDelay, .privateAddressPending b.name⟩

/-- Where not every load balancer can be given an address, that is a temporary failure. -/
theorem resolveAll_eq_error {held : List PrivateAddress} {e : Failure}
    (h : resolveAll held bs = .error e) : ∃ b ∈ bs, e = addressPending b := by
  induction bs with
  | nil => cases h
  | cons b rest ih =>
    -- Once the first one has an address, it is another one that has none.
    have hrest : ∀ r : LoadBalancer, (resolveAll held rest >>= fun more => .ok (r :: more)) =
        .error e → ∃ x ∈ b :: rest, e = addressPending x := by
      intro r hr
      cases hmore : resolveAll held rest with
      | ok more =>
        rw [hmore] at hr
        cases hr
      | error e' =>
        rw [hmore] at hr
        cases hr
        obtain ⟨x, hx, hwhy⟩ := ih hmore
        exact ⟨x, List.mem_cons_of_mem _ hx, hwhy⟩
    unfold resolveAll at h
    cases haddress : b.privateAddress with
    | some address =>
      rw [haddress] at h
      exact hrest b h
    | none =>
      rw [haddress] at h
      dsimp only at h
      cases hheld : heldBy b.id held with
      | none =>
        rw [hheld] at h
        cases h
        exact ⟨b, List.mem_cons_self, rfl⟩
      | some address =>
        rw [hheld] at h
        exact hrest _ h

/-- Once all is attached, the load balancers come out with their addresses, or one of them is
pending. -/
theorem resolveHeld_plays (hnetwork : s.privateNetworkId = some networkId) :
    ∃ result, (resolveHeld networkId bs).Plays c [] result c ∧
      ((result = .ok (bs.map (settled s c)) ∧ ∀ b ∈ bs, ¬Pending networkId c b) ∨
        ((∃ b ∈ bs, Pending networkId c b) ∧ ∃ b ∈ bs, result = .error (addressPending b))) := by
  by_cases hpending : ∃ b ∈ bs, Pending networkId c b
  · obtain ⟨b, hb, hpend⟩ := hpending
    have hmem : b.id ∈ unresolved bs :=
      List.mem_map_of_mem (List.mem_filter.2 ⟨hb, decide_eq_true hpend.1⟩)
    cases resolveHeld_steps networkId bs with
    -- There is one to resolve, and so the addresses that are held are listed.
    | resolved hnone _ => exact absurd hnone (List.ne_nil_of_mem hmem)
    | listed _ hp =>
      rw [hp]
      have hheld : (Site.heldAddresses networkId (unresolved bs)).Plays c [] (.ok _) c :=
        Site.heldAddresses_readOnly.plays_of_returns (Site.heldAddresses_returns.2 ⟨rfl, rfl⟩)
      cases hresolve : resolveAll (Site.heldIn networkId (unresolved bs) c) bs with
      | ok rs =>
        -- The pending one holds none of them.
        exact (((resolveAll_eq_ok hnetwork mem_unresolved).1 hresolve).2 b hb
          ((pending_iff hnetwork).1 hpend)).elim
      | error e =>
        obtain ⟨x, hx, rfl⟩ := resolveAll_eq_error hresolve
        refine ⟨_, hheld.bind_silent (plays_ofExcept _ c), .inr ⟨⟨b, hb, hpend⟩, x, hx, ?_⟩⟩
        rw [hresolve]
  · have hall : ∀ b ∈ bs, ¬Pending networkId c b := fun b hb hpend => hpending ⟨b, hb, hpend⟩
    refine ⟨_, resolveHeld_readOnly.plays_of_returns ((resolveHeld_returns hnetwork).2 ⟨rfl, rfl,
      fun b hb hnone => hall b hb ((pending_iff hnetwork).2 hnone)⟩), .inl ⟨rfl, hall⟩⟩

/-! ## The whole run -/

/-- A result is a failure of such a kind. -/
def Raises {α : Type} (result : Except Failure α) (P : Kind → Prop) : Prop :=
  ∃ e, result = .error e ∧ P e.fault.kind

/-- A failure is of the kind of its fault. -/
theorem raises_error {α : Type} {e : Failure} {P : Kind → Prop} :
    Raises (.error e : Except Failure α) P ↔ P e.fault.kind := by
  constructor
  · rintro ⟨_, ⟨⟩, h⟩
    exact h
  · exact fun h => ⟨e, rfl, h⟩

/-- A value is no failure. -/
theorem not_raises_ok {α : Type} {a : α} {P : Kind → Prop} :
    ¬Raises (.ok a : Except Failure α) P := by
  rintro ⟨_, ⟨⟩, _⟩

/-- What ensuring a private network comes to on the cloud `c` of a run that sends the changes `ks`,
ends with a result, and leaves the cloud `c'`. -/
structure Connects (s : Scope) (networkId : String) (bs : List LoadBalancer) (c : Cloud)
    (ks : List Request) (result : Except Failure (List LoadBalancer)) (c' : Cloud) : Prop where
  /-- Before the first load balancer that blocks the walk, those without attachment are attached,
  each once and in their order, and no other change is sent. -/
  attaches : ∃ before after, bs = before ++ after ∧ (∀ b ∈ before, ¬Blocked networkId c b) ∧
    (∀ b ∈ after.head?, Blocked networkId c b) ∧
    ks = (unlinked networkId c before).map (joining networkId c) ∧
    c'.attachments = c.attachments ++ (unlinked networkId c before).map (joined networkId) ∧
    ∀ b ∈ before, IsAttached c' b.id networkId
  /-- One without a pin is attached with any address. -/
  unpinned : ∀ b ∈ bs, b.privateAddress = none →
    joining networkId c b = .attach b.zone b.id networkId none
  /-- One with a pin is attached with that address, of the private network and held by nothing. -/
  pinned : ∀ b ∈ bs, links networkId c b = [] → ¬PinMissing networkId c b →
    ∀ address, b.privateAddress = some address → ∃ a ∈ c.privateAddresses,
      a.networkId = networkId ∧ a.holder = none ∧ a.address = address ∧
      joining networkId c b = .attach b.zone b.id networkId (some a.id)
  /-- The failure is terminal if some pin is missing, and no load balancer before is attached twice.
  -/
  terminal : Raises result (· = .terminal) ↔ ∃ before b after, bs = before ++ b :: after ∧
    PinMissing networkId c b ∧ ∀ x ∈ before, ¬Ambiguous networkId c x
  /-- The failure is that several were found if some load balancer is attached twice, and no pin
  before is missing. -/
  several : Raises result (· = .tooManyFound) ↔ ∃ before b after, bs = before ++ b :: after ∧
    Ambiguous networkId c b ∧ ∀ x ∈ before, ¬PinMissing networkId c x
  /-- Otherwise the failure is temporary if some load balancer is without an address in the end. -/
  transient : Raises result (fun k => ∃ delay, k = .transient delay) ↔
    (∀ b ∈ bs, ¬Blocked networkId c b) ∧ ∃ b ∈ bs, Pending networkId c' b
  /-- Otherwise the run returns. -/
  returns : (∃ rs, result = .ok rs) ↔
    (∀ b ∈ bs, ¬Blocked networkId c b) ∧ ∀ b ∈ bs, ¬Pending networkId c' b
  /-- What it returns are the load balancers in their order, with the addresses that they are pinned
  to or else hold in the end. -/
  value : ∀ rs, result = .ok rs → rs = bs.map (settled s c') ∧
    ∀ b ∈ bs, ∃ address, (settled s c' b).privateAddress = some address ∧
      (b.privateAddress = some address ∨ b.privateAddress = none ∧ ∃ a ∈ c'.privateAddresses,
        a.networkId = networkId ∧ a.holder = some b.id ∧ a.address = address)

/-- Some element of a list has a property, and none before it another one, exactly if the first
element that has either has that property. -/
theorem exists_before_iff {α : Type} {P Q : α → Prop} {before after : List α}
    (hbefore : ∀ a ∈ before, ¬P a ∧ ¬Q a) (hafter : ∀ a ∈ after.head?, P a ∨ Q a) :
    (∃ before' a after', before ++ after = before' ++ a :: after' ∧ P a ∧ ∀ x ∈ before', ¬Q x) ↔
      ∃ a ∈ after.head?, P a := by
  constructor
  · -- The two splits differ by some elements: an `a` further on would have the head of `after`
    -- before it, and one further in front stands in `before`.
    rintro ⟨before', a, after', hsplit, ha, hnone⟩
    rcases List.append_eq_append_iff.1 hsplit with ⟨more, rfl, hrest⟩ | ⟨more, rfl, hrest⟩
    · cases more with
      | nil =>
        rw [List.nil_append] at hrest
        exact ⟨a, by rw [hrest]; rfl, ha⟩
      | cons x more =>
        have hhead : x ∈ after.head? := by
          rw [hrest]
          rfl
        have hx : ¬Q x := hnone x (List.mem_append_right _ List.mem_cons_self)
        exact ⟨x, hhead, (hafter x hhead).resolve_right hx⟩
    · cases more with
      | nil =>
        rw [List.nil_append] at hrest
        exact ⟨a, by rw [← hrest]; rfl, ha⟩
      | cons x more =>
        rw [List.cons_append] at hrest
        cases hrest
        exact ((hbefore a (List.mem_append_right _ List.mem_cons_self)).1 ha).elim
  · rintro ⟨a, hhead, ha⟩
    cases after with
    | nil => cases hhead
    | cons x rest =>
      cases hhead
      exact ⟨before, a, rest, rfl, ha, fun x hx => (hbefore x hx).2⟩

/-- A load balancer whose pin is missing has no attachment, and so not several. -/
theorem PinMissing.not_ambiguous (h : PinMissing networkId c b) : ¬Ambiguous networkId c b := by
  unfold Ambiguous
  rw [h.1]
  exact Nat.not_succ_le_zero 1

/-- A load balancer with a pin is attached with an available address, which is the pinned one. -/
theorem joining_of_pin (hlinks : links networkId c b = []) (hfree : ¬PinMissing networkId c b)
    {address : String} (haddress : b.privateAddress = some address) :
    ∃ a ∈ c.privateAddresses, a.networkId = networkId ∧ a.holder = none ∧ a.address = address ∧
      joining networkId c b = .attach b.zone b.id networkId (some a.id) := by
  obtain ⟨a, ha⟩ := exists_lease hlinks hfree haddress
  obtain ⟨havailable, hpin⟩ := lease_eq_some ha
  obtain ⟨hmem, hnetwork, hholder⟩ := mem_availableIn.1 havailable
  refine ⟨a, hmem, hnetwork, hholder, Option.some.inj (hpin.symm.trans haddress), ?_⟩
  rw [joining, ha]
  rfl

/-- How a run ends whose walk has left the load balancers `after`. -/
inductive Ending (s : Scope) (networkId : String) (bs : List LoadBalancer) (c c' : Cloud) :
    (after : List LoadBalancer) → Except Failure (List LoadBalancer) → Prop
  | missing {b : LoadBalancer} {rest : List LoadBalancer} {address : String}
      (pin : b.privateAddress = some address) (missing : PinMissing networkId c b) :
      Ending s networkId bs c c' (b :: rest)
        (.error (.ofFault (.terminal (.pinnedPrivateAddressMissing address))))
  | several {b : LoadBalancer} {rest : List LoadBalancer} (ambiguous : Ambiguous networkId c b) :
      Ending s networkId bs c c' (b :: rest)
        (.error (severalLinks networkId (links networkId c b).length))
  | pending {b : LoadBalancer} (mem : b ∈ bs) (pending : ∃ x ∈ bs, Pending networkId c' x) :
      Ending s networkId bs c c' [] (.error (addressPending b))
  | returned (settled : ∀ b ∈ bs, ¬Pending networkId c' b) :
      Ending s networkId bs c c' [] (.ok (bs.map (Topology.settled s c')))

namespace Ending

variable {result : Except Failure (List LoadBalancer)}

/-- The walk that has an end before the list's ends at a load balancer that blocks it. -/
theorem blocked (h : Ending s networkId bs c c' after result) :
    ∀ b ∈ after.head?, Blocked networkId c b := by
  cases h with
  | missing _ hmissing =>
    rintro b ⟨⟩
    exact .inl hmissing
  | several hambiguous =>
    rintro b ⟨⟩
    exact .inr hambiguous
  | pending | returned => exact nofun

/-- The run ends terminally where the walk ends at a missing pin. -/
theorem raises_terminal (h : Ending s networkId bs c c' after result) :
    Raises result (· = .terminal) ↔ ∃ b ∈ after.head?, PinMissing networkId c b := by
  cases h with
  | missing _ hmissing => exact iff_of_true (raises_error.2 rfl) ⟨_, rfl, hmissing⟩
  | several hambiguous =>
    refine iff_of_false (fun h => nomatch raises_error.1 h) ?_
    rintro ⟨b, ⟨⟩, hmissing⟩
    exact hmissing.not_ambiguous hambiguous
  | pending => exact iff_of_false (fun h => nomatch raises_error.1 h) nofun
  | returned => exact iff_of_false not_raises_ok nofun

/-- The run ends with several found where the walk ends at an ambiguous attachment. -/
theorem raises_several (h : Ending s networkId bs c c' after result) :
    Raises result (· = .tooManyFound) ↔ ∃ b ∈ after.head?, Ambiguous networkId c b := by
  cases h with
  | missing _ hmissing =>
    refine iff_of_false (fun h => nomatch raises_error.1 h) ?_
    rintro ⟨b, ⟨⟩, hambiguous⟩
    exact hmissing.not_ambiguous hambiguous
  | several hambiguous => exact iff_of_true (raises_error.2 rfl) ⟨_, rfl, hambiguous⟩
  | pending => exact iff_of_false (fun h => nomatch raises_error.1 h) nofun
  | returned => exact iff_of_false not_raises_ok nofun

/-- The run is to be tried again where all are attached and one still waits for its address. -/
theorem raises_transient (h : Ending s networkId bs c c' after result) :
    Raises result (fun k => ∃ delay, k = .transient delay) ↔
      after = [] ∧ ∃ b ∈ bs, Pending networkId c' b := by
  cases h with
  | missing | several =>
    refine iff_of_false (fun h => ?_) nofun
    obtain ⟨_, hdelay⟩ := raises_error.1 h
    cases hdelay
  | pending _ hpending => exact iff_of_true (raises_error.2 ⟨_, rfl⟩) ⟨rfl, hpending⟩
  | returned hsettled =>
    refine iff_of_false not_raises_ok ?_
    rintro ⟨_, b, hb, hpending⟩
    exact hsettled b hb hpending

/-- The run returns where all are attached and none waits. -/
theorem returns (h : Ending s networkId bs c c' after result) :
    (∃ rs, result = .ok rs) ↔ after = [] ∧ ∀ b ∈ bs, ¬Pending networkId c' b := by
  cases h with
  | missing | several => exact iff_of_false nofun nofun
  | pending _ hpending =>
    refine iff_of_false nofun ?_
    obtain ⟨b, hb, hb'⟩ := hpending
    exact fun h => h.2 b hb hb'
  | returned hsettled => exact iff_of_true ⟨_, rfl⟩ ⟨rfl, hsettled⟩

/-- What is returned are the load balancers with their addresses: the pinned one, or one that they
hold. -/
theorem value (hnetwork : s.privateNetworkId = some networkId)
    (h : Ending s networkId bs c c' after result) {rs : List LoadBalancer} (hrs : result = .ok rs) :
    rs = bs.map (settled s c') ∧
      ∀ b ∈ bs, ∃ address, (settled s c' b).privateAddress = some address ∧
        (b.privateAddress = some address ∨ b.privateAddress = none ∧ ∃ a ∈ c'.privateAddresses,
          a.networkId = networkId ∧ a.holder = some b.id ∧ a.address = address) := by
  cases h with
  | missing | several | pending => cases hrs
  | returned hsettled =>
    cases hrs
    refine ⟨rfl, fun b hb => ?_⟩
    obtain ⟨address, haddress⟩ := Option.ne_none_iff_exists'.1
      (mt (pending_iff hnetwork).2 (hsettled b hb))
    exact ⟨address, haddress, settled_address hnetwork haddress⟩

/-- Where the walk ends and what comes of it says all about the run. -/
theorem connects {ks : List Request} (h : Ending s networkId bs c c' after result)
    (hnetwork : s.privateNetworkId = some networkId) (hsplit : bs = before ++ after)
    (hbefore : ∀ b ∈ before, ¬Blocked networkId c b)
    (hks : ks = (unlinked networkId c before).map (joining networkId c))
    (hattachments : c'.attachments =
        c.attachments ++ (unlinked networkId c before).map (joined networkId) ∧
      ∀ b ∈ before, IsAttached c' b.id networkId) :
    Connects s networkId bs c ks result c' := by
  -- The walk has come to its end exactly if nothing blocks it.
  have hfree : (∀ b ∈ bs, ¬Blocked networkId c b) ↔ after = [] := by
    rw [hsplit]
    constructor
    · intro hall
      cases after with
      | nil => rfl
      | cons b rest =>
        exact (hall b (List.mem_append_right _ List.mem_cons_self) (h.blocked b rfl)).elim
    · rintro rfl
      rwa [List.append_nil]
  constructor
  case attaches => exact ⟨before, after, hsplit, hbefore, h.blocked, hks, hattachments⟩
  case unpinned =>
    intro b _ hnone
    rw [joining, lease, hnone]
    rfl
  case pinned =>
    intro b _ hlinks hmissing address haddress
    exact joining_of_pin hlinks hmissing haddress
  case terminal =>
    rw [h.raises_terminal, hsplit]
    exact (exists_before_iff (fun b hb => not_or.1 (hbefore b hb)) h.blocked).symm
  case several =>
    rw [h.raises_several, hsplit]
    exact (exists_before_iff (fun b hb => (not_or.1 (hbefore b hb)).symm)
      fun b hb => (h.blocked b hb).symm).symm
  case transient =>
    rw [hfree]
    exact h.raises_transient
  case returns =>
    rw [hfree]
    exact h.returns
  case value => exact fun rs hrs => h.value hnetwork hrs

end Ending

/-- How ensuring a private network plays out. -/
theorem ensurePrivateNetwork_plays (hnetwork : s.privateNetworkId = some networkId)
    (hids : (bs.map (·.id)).Nodup) (hzones : ∀ b ∈ bs, b.zone ∈ s.site.zones)
    (hthere : ∀ b ∈ bs, ∃ owner ∈ c.balancers, owner.id = b.id) :
    ∃ ks result c', (ensurePrivateNetwork s bs).Plays c ks result c' ∧
      Connects s networkId bs c ks result c' := by
  obtain ⟨before, after, c', hsplit, hbefore, hattachments, hend⟩ :=
    attachAll_plays hids hzones hthere
  rw [ensurePrivateNetwork_of_some hnetwork]
  rcases hend with ⟨rfl, hattach⟩ |
    ⟨b, rest, e, rfl, hfails, ⟨hmissing, address, haddress, rfl⟩ | ⟨hambiguous, rfl⟩⟩
  · -- All are attached, and it is left to find their addresses.
    obtain ⟨result, hresolve, hresult⟩ := resolveHeld_plays hnetwork
    have hending : Ending s networkId bs c c' [] result := by
      rcases hresult with ⟨rfl, hall⟩ | ⟨hpending, x, hx, rfl⟩
      · exact .returned hall
      · exact .pending hx hpending
    refine ⟨_, result, c', hattach.bind hresolve, ?_⟩
    exact hending.connects hnetwork hsplit hbefore (List.append_nil _) hattachments
  · exact ⟨_, _, c', hfails.bind_fails,
      (Ending.missing haddress hmissing).connects hnetwork hsplit hbefore rfl hattachments⟩
  · exact ⟨_, _, c', hfails.bind_fails,
      (Ending.several hambiguous).connects hnetwork hsplit hbefore rfl hattachments⟩

/-- Load balancers of a cloud with distinct ids are attached to the private network of a cluster in
a live session, whatever the cloud: what the run sends and how it ends is decided by the cloud at
its start, and by what the load balancers hold at its end. -/
theorem ensurePrivateNetwork_connects {deadline : Option Seconds} {x : Session Cloud}
    (hnetwork : s.privateNetworkId = some networkId) (hids : (bs.map (·.id)).Nodup)
    (hzones : ∀ b ∈ bs, b.zone ∈ s.site.zones)
    (hthere : ∀ b ∈ bs, ∃ owner ∈ x.world.store.balancers, owner.id = b.id)
    (live : x.Live deadline) :
    ∃ calls result x', (ensurePrivateNetwork s bs).run Cloud.provider deadline x = (result, x') ∧
      x'.calls = x.calls ++ calls ∧
      Connects s networkId bs x.world.store
        ((calls.map (·.request)).filter (·.isMutation)) result x'.world.store := by
  obtain ⟨ks, result, c', hplays, hconnects⟩ :=
    ensurePrivateNetwork_plays hnetwork hids hzones hthere
  obtain ⟨calls, log, hrun, hks⟩ := hplays.run live
  rw [← hks] at hconnects
  exact ⟨calls, result, _, hrun, rfl, hconnects⟩

end

end Topology

namespace Sample

/-- A cloud with a load balancer that is attached to the private network and one that is not. -/
def quay : Cloud where
  balancers :=
    [{ id := "moored", zone := "fr-par-1", name := "demo", type := "lb-s"
       tags := Topology.primaryTags (scope []) },
     { id := "loose", zone := "fr-par-2", name := "demo-0", type := "lb-s"
       tags := Secondary.tags (scope []) }]
  attachments := [{ balancerId := "moored", zone := "fr-par-1", networkId := "net" }]
  privateAddresses :=
    [{ id := "taken", address := "172.16.0.10", networkId := "net", holder := some "moored" },
     { id := "spare", address := "172.16.0.99", networkId := "net" }]

/-- The load balancers of that cloud, the loose one with a pin. -/
def fleet : List LoadBalancer :=
  quay.balancers.map fun b =>
    if b.id = "loose" then { b with privateAddress := some "172.16.0.99" } else b

end Sample

namespace Topology

/-- The loose one is attached with the spare address, and both come out with theirs. -/
theorem sample_connects :
    ∃ calls rs x', (ensurePrivateNetwork (Sample.scope []) Sample.fleet).run Cloud.provider none
        (Sample.session Sample.quay) = (.ok rs, x') ∧ x'.calls = calls ∧
      Connects (Sample.scope []) "net" Sample.fleet Sample.quay
        ((calls.map (·.request)).filter (·.isMutation)) (.ok rs) x'.world.store := by
  obtain ⟨calls, result, x', hrun, hcalls, hconnects⟩ := ensurePrivateNetwork_connects
    (rfl : (Sample.scope []).privateNetworkId = some "net")
    (by decide +kernel : (Sample.fleet.map (·.id)).Nodup) (by decide +kernel) (by decide +kernel)
    (rfl : (Sample.session Sample.quay).Live none)
  have hok : ((ensurePrivateNetwork (Sample.scope []) Sample.fleet).run Cloud.provider none
      (Sample.session Sample.quay)).1.isOk = true := by decide +kernel
  rw [hrun] at hok
  cases result with
  | error e => cases hok
  | ok rs => exact ⟨calls, rs, x', hrun, hcalls, hconnects⟩

/-- A load balancer with two attachments: the run fails, but neither for a pin that is missing nor
for an address that is to come. -/
theorem two_links_are_neither : ¬∀ (s : Scope) (networkId : String) (bs : List LoadBalancer)
    (x : Session Cloud), s.privateNetworkId = some networkId → x.world.store.Sound →
      (bs.map (·.id)).Nodup → (∀ b ∈ bs, b ∈ x.world.store.balancers ∧ b.zone ∈ s.site.zones) →
      x.Live none →
      let result := ((ensurePrivateNetwork s bs).run Cloud.provider none x).1
      (Raises result (· = .terminal) ∧ ∃ b ∈ bs, PinMissing networkId x.world.store b) ∨
        Raises result (fun k => ∃ delay, k = .transient delay) ∨ ∃ rs, result = .ok rs := by
  intro hall
  let doubled : Cloud :=
    { Sample.joinedCloud with
      attachments := Sample.joinedCloud.attachments ++ Sample.joinedCloud.attachments }
  -- The cloud meets what the general statement asks for.
  have hsound : doubled.Sound := by
    refine ⟨?_, ?_, ?_, ?_, ?_, ?_⟩ <;> exact .of_foreign (by decide +kernel) (by decide +kernel)
  have hids : (doubled.balancers.map (·.id)).Nodup := by decide +kernel
  have hzones : ∀ b ∈ doubled.balancers, b.zone ∈ Sample.repinnedScope.site.zones := by
    decide +kernel
  obtain ⟨ks, result, c', hplays, hconnects⟩ := ensurePrivateNetwork_plays (c := doubled)
    (rfl : Sample.repinnedScope.privateNetworkId = some "net") hids hzones
    fun b hb => ⟨b, hb, rfl⟩
  have hplays' : (ensurePrivateNetwork Sample.repinnedScope doubled.balancers).Plays
    (Sample.session doubled).world.store ks result c' := hplays
  obtain ⟨_, _, hrun, _⟩ := hplays'.run (rfl : (Sample.session doubled).Live none)
  -- The run ends with a failure of a third kind, as the first load balancer is attached twice.
  have hseveral : Raises result (· = .tooManyFound) :=
    hconnects.several.2 ⟨[], _, [], rfl, by unfold Ambiguous; decide +kernel, nofun⟩
  obtain ⟨e, rfl, hkind⟩ := hseveral
  have hclaim := hall Sample.repinnedScope "net" doubled.balancers (Sample.session doubled) rfl
    hsound hids (fun b hb => ⟨hb, hzones b hb⟩) rfl
  rw [hrun] at hclaim
  rcases hclaim with ⟨hterminal, _⟩ | htransient | ⟨rs, hrs⟩
  · have hkind' : e.fault.kind = .terminal := raises_error.1 hterminal
    cases hkind.symm.trans hkind'
  · obtain ⟨delay, hdelay⟩ := raises_error.1 htransient
    cases hkind.symm.trans hdelay
  · cases hrs

end Topology

end ControlPlane
