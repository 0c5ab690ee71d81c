import ControlPlane.Proofs.Access.Drafts
import ControlPlane.Proofs.Topology.Joining
import ControlPlane.Proofs.Topology.Retyping

/-!
# A topology that is underway

Once all load balancers are there, a run attaches them, and makes their backends, their frontends
and the rules of these. `Underway` says how far this may have come, load balancer by load balancer:
nothing that a run makes is there twice or in a form in which a run would not make it. From any such
cloud each phase succeeds and stays within it, so that it does not matter where earlier runs were
cut short.
-/

namespace ControlPlane

open Program hiding ofExcept
open Cloud (numbered)

namespace Topology

/-- The load balancers of a cluster, once all have been created, on the cloud of that moment. No two
have one id or are pinned to one private address. -/
structure Fleet (s : Scope) where
  base : Cloud
  members : List LoadBalancer
  main : String
  there : ∀ y ∈ members, ∃ owner ∈ base.balancers, owner.id = y.id
  zones : ∀ y ∈ members, y.zone ∈ s.site.zones
  ids : ∀ x ∈ members, ∀ y ∈ members, x.id = y.id → x = y
  pins : ∀ x ∈ members, ∀ y ∈ members, ∀ address, x.privateAddress = some address →
    y.privateAddress = some address → x.id = y.id
  main_mem : main ∈ members.map (·.id)

/-- Whether a load balancer is one of the fleet, whatever its private address. -/
def Fleet.Lists {s : Scope} (fleet : Fleet s) (b : LoadBalancer) : Prop :=
  ∃ y ∈ fleet.members, y.id = b.id ∧ y.zone = b.zone

/-- The rules that shall be on the frontends of a fleet. -/
abbrev Fleet.desired {s : Scope} (fleet : Fleet s) : List DesiredRule :=
  Access.desiredOn s fleet.base

/-- How far a run, or several ones, may have come with a fleet. -/
structure Underway {s : Scope} (fleet : Fleet s) (c : Cloud) : Prop where
  sound : c.Sound
  balancers : c.balancers.map (·.untyped) = fleet.base.balancers.map (·.untyped)
  gateways : c.gateways = fleet.base.gateways
  books : c.booksAddresses = fleet.base.booksAddresses
  joining : ∀ networkId, s.privateNetworkId = some networkId →
    ∀ y ∈ fleet.members, Joining networkId y c
  pools : ∀ y ∈ fleet.members,
    (c.backends.filter fun k =>
      decide (k.name = backendName) && decide (k.balancerId = y.id)) = [] ∨
    ∃ k, HasBackend c y.id k ∧ k.zone ∈ s.site.zones ∧ k.pool = []
  ports : ∀ y ∈ fleet.members,
    (c.frontends.filter fun f =>
      decide (f.name = frontendName) && decide (f.balancerId = y.id)) = [] ∨
    ∃ f, HasFrontend c y.id f ∧ f.zone ∈ s.site.zones
  drafted : ∀ y ∈ fleet.members, ∀ f, HasFrontend c y.id f →
    Access.Drafted fleet.desired (Access.rulesOf c f.id)
  named : ∀ f, HasFrontend c fleet.main f → ((Access.rulesOf c f.id).map (·.name)).Nodup
  blank : ∀ n, c.nextId ≤ n → Access.rulesOf c (numbered "frontend" n) = []

variable {s : Scope} {fleet : Fleet s} {c c' : Cloud}

namespace Underway

/-- Nothing but attachments and private addresses counts for joining the network. -/
theorem joining_frame (h : Underway fleet c) (hattachments : c'.attachments = c.attachments)
    (hprivate : c'.privateAddresses = c.privateAddresses)
    (hbooks : c'.booksAddresses = c.booksAddresses) :
    ∀ networkId, s.privateNetworkId = some networkId →
      ∀ y ∈ fleet.members, Joining networkId y c' := fun networkId hnetwork y hy =>
  (h.joining networkId hnetwork y hy).frame hattachments hprivate hbooks

/-- The load balancers of the fleet are there all the time. -/
theorem there (h : Underway fleet c) {id : String} (hid : ∃ y ∈ fleet.members, y.id = id) :
    ∃ owner ∈ c.balancers, owner.id = id := by
  obtain ⟨y, hy, rfl⟩ := hid
  obtain ⟨owner, howner, hid⟩ := fleet.there y hy
  obtain ⟨owner', howner', huntyped⟩ := exists_untyped h.balancers.symm howner
  exact ⟨owner', howner', (LoadBalancer.id_eq_of_untyped huntyped).trans hid⟩

/-- Types do not matter. -/
theorem retyped (h : Underway fleet c) (hc : c.Retyped c') : Underway fleet c' := by
  have hsound := hc.sound h.sound
  have hbalancers := hc.balancers.trans h.balancers
  rw [hc.rest] at hsound hbalancers ⊢
  exact { h with
    sound := hsound
    balancers := hbalancers
    joining := h.joining_frame rfl rfl rfl }

/-! ## The private network -/

section

variable {networkId : String} {b : LoadBalancer} {bs : List LoadBalancer}

/-- A load balancer of the fleet is ready to join the private network. -/
theorem joining_of_mem (h : Underway fleet c) (hnetwork : s.privateNetworkId = some networkId)
    (hb : b.untyped ∈ fleet.members) : Joining networkId b c :=
  (h.joining networkId hnetwork _ hb).congr rfl rfl

/-- Another load balancer is attached. -/
theorem attach {zone : String} {addressId : Option String} (h : Underway fleet c)
    (hnetwork : s.privateNetworkId = some networkId) (hb : b.untyped ∈ fleet.members)
    (hfree : (c.attachments.filter fun a =>
      decide (a.networkId = networkId) && decide (a.balancerId = b.id)) = [])
    (hgranted : Granted networkId b c addressId)
    (hattach : c.attach zone b.id networkId addressId = (.ok (), c')) : Underway fleet c' := by
  -- The load balancer has joined, and no other one of the fleet is kept from joining by it.
  have hjoining : ∀ y ∈ fleet.members, Joining networkId y c' := by
    intro y hy
    by_cases hid : y.id = b.id
    · -- It held no address yet: it is not attached, so it has not joined.
      have hself : y = b.untyped := fleet.ids y hy b.untyped hb hid
      have hheld : Site.heldIn networkId [b.id] c = [] := by
        cases h.joining_of_mem hnetwork hb with
        | pending _ hheld _ => exact hheld
        | joined hattached _ _ =>
          obtain ⟨a, ha⟩ := hattached
          rw [hfree] at ha
          cases ha
      rw [hself]
      exact (Joining.attach_self hheld hfree hgranted hattach).congr rfl rfl
    · refine (h.joining networkId hnetwork y hy).attach_other hgranted h.sound hattach hid ?_
      exact fun address hy' hb' => hid (fleet.pins y hy b.untyped hb address hy' hb')
  have hsound : c'.Sound := by
    have hnext := h.sound.attach zone b.id networkId addressId
    rw [hattach] at hnext
    exact hnext
  have hnext : c.nextId ≤ c'.nextId := by
    have hle := Cloud.nextId_le_attach c zone b.id networkId addressId
    rw [hattach] at hle
    exact hle
  have hother : ∀ id, s.privateNetworkId = some id → ∀ y ∈ fleet.members, Joining id y c' := by
    intro id hid
    rw [hnetwork] at hid
    cases hid
    exact hjoining
  have heffect := (Cloud.attach_effect hattach).2.1
  rw [heffect] at hsound hother hnext ⊢
  exact { h with
    sound := hsound
    joining := hother
    blank := fun n hn => h.blank n (Nat.le_trans hnext hn) }

/-- A load balancer of the fleet can be attached, also if it is attached already. -/
theorem attachOne_achieves {known : Option (List PrivateAddress)} (h : Underway fleet c)
    (hnetwork : s.privateNetworkId = some networkId)
    (hbs : ∀ x ∈ b :: bs, x.untyped ∈ fleet.members) (hid : b.id ∉ bs.map (·.id))
    (hknows : Knows networkId (b :: bs) known c) :
    (attachOne s.site networkId known b).Achieves (Underway fleet) c fun known' c' =>
      Knows networkId bs known' c' := by
  obtain ⟨hb, hothers⟩ := List.forall_mem_cons.1 hbs
  have hzone : b.zone ∈ s.site.zones := fleet.zones b.untyped hb
  have hfound : ∀ r : Option Attachment, (c.attachments.filter fun a =>
        decide (a.networkId = networkId) && decide (a.balancerId = b.id)) = r.toList →
      (s.site.findAttachment b.zone b.id networkId).orNone.Returns c r c :=
    fun r hr => Site.findAttachment_returns.2 ⟨hzone, hr, rfl⟩
  obtain ⟨step, heq, hstep⟩ := attachOne_steps s.site networkId known b
  rw [heq]
  cases h.joining_of_mem hnetwork hb with
  | joined hattached _ _ =>
    obtain ⟨a, ha⟩ := hattached
    refine Site.findAttachment_readOnly.orNone.achieves_bind (hfound (some a) ha) ?_
    cases hstep (some a) with
    | attached _ hp =>
      rw [hp]
      exact achieves_done h fun as has x hx => hknows as has x (List.mem_cons_of_mem _ hx)
  | pending hfree _ _ =>
    have hjoining : ∀ x ∈ b :: bs, Joining networkId x c := fun x hx =>
      h.joining_of_mem hnetwork (hbs x hx)
    obtain ⟨addressId, known', hpinned, hgranted, hknows'⟩ := hknows.grants hjoining hfree
    obtain ⟨c1, hattach⟩ : ∃ c1, c.attach b.zone b.id networkId addressId = (.ok (), c1) :=
      hgranted.attach (h.there ⟨b.untyped, hb, rfl⟩)
    have hone := (Site.changesLast_in_zone _).achieves
      (Site.attach_returns.2 ⟨hzone, hattach⟩) h (h.attach hnetwork hb hfree hgranted hattach)
    -- No other one is pinned to the address that is given away.
    have hpins : ∀ x ∈ bs, ∀ address, x.privateAddress = some address →
        b.privateAddress ≠ some address := by
      intro x hx address hxpin hbpin
      have hsame : x.id = b.id :=
        fleet.pins x.untyped (hothers x hx) b.untyped hb address hxpin hbpin
      exact hid (hsame ▸ List.mem_map_of_mem hx)
    refine Site.findAttachment_readOnly.orNone.achieves_bind (hfound none hfree) ?_
    cases hstep none with
    | missing hp =>
      rw [hp]
      refine pinnedAddressId_readOnly.achieves_bind hpinned ?_
      refine hone.bind fun _ c2 _ h2 hend => achieves_done h2 ?_
      rw [hend.2]
      exact hknows'.attach hgranted h.sound hattach hpins

/-- Load balancers of the fleet can be attached one after the other. -/
theorem attachAll_achieves {known : Option (List PrivateAddress)} (h : Underway fleet c)
    (hnetwork : s.privateNetworkId = some networkId)
    (hbs : ∀ b ∈ bs, b.untyped ∈ fleet.members) (hids : (bs.map (·.id)).Nodup)
    (hknows : Knows networkId bs known c) :
    (attachAll s.site networkId known bs).Achieves (Underway fleet) c fun _ _ => True := by
  induction bs generalizing known c with
  | nil => exact achieves_done h trivial
  | cons b rest ih =>
    rw [List.map_cons, List.nodup_cons] at hids
    refine (h.attachOne_achieves hnetwork hbs hids.1 hknows).bind fun known' c1 _ h1 hknows' => ?_
    exact ih h1 (List.forall_mem_cons.1 hbs).2 hids.2 hknows'

/-- Load balancers of the fleet get their private addresses. -/
theorem ensurePrivateNetwork_achieves (h : Underway fleet c)
    (hbs : ∀ b ∈ bs, b.untyped ∈ fleet.members) (hids : (bs.map (·.id)).Nodup)
    (hbooks : ∀ networkId, s.privateNetworkId = some networkId →
      ∀ y ∈ fleet.members, y.privateAddress = none → fleet.base.booksAddresses = true) :
    (ensurePrivateNetwork s bs).Achieves (Underway fleet) c fun _ _ => True := by
  cases hnetwork : s.privateNetworkId with
  | none => exact ensurePrivateNetwork_of_none hnetwork bs ▸ achieves_done h trivial
  | some networkId =>
    rw [ensurePrivateNetwork_of_some hnetwork]
    have hattach : (attachAll s.site networkId none bs).Achieves (Underway fleet) c
        fun _ _ => True := h.attachAll_achieves hnetwork hbs hids nofun
    refine hattach.bind fun u c1 hreturns h1 _ => ?_
    have hsettled : ∀ b ∈ bs, (settled s c1 b).privateAddress ≠ none := by
      intro b hb
      refine (h1.joining_of_mem hnetwork (hbs b hb)).settled_ne_none hnetwork
        ((attachAll_spec hreturns).1 b hb).2 fun hnone => ?_
      rw [h1.books]
      exact hbooks networkId hnetwork b.untyped (hbs b hb) hnone
    have hresolve := (resolveHeld_returns (c := c1) hnetwork).2 ⟨rfl, rfl, hsettled⟩
    exact resolveHeld_readOnly.achieves hresolve h1 trivial

end

/-! ## Backends -/

section

variable {b : LoadBalancer} {bs : List LoadBalancer}

/-- A backend without servers is made. -/
theorem makeBackend (h : Underway fleet c)
    (hnone : (c.backends.filter fun k =>
      decide (k.name = backendName) && decide (k.balancerId = b.id)) = [])
    (hzone : b.zone ∈ s.site.zones) :
    Underway fleet { c with
      backends := c.backends ++
        [⟨numbered "backend" c.nextId, b.id, b.zone, backendName, serverPort, []⟩]
      nextId := c.nextId + 1 } := by
  refine { h with
    sound := h.sound.addBackend rfl
    joining := h.joining_frame rfl rfl rfl
    pools := fun y hy => ?_
    blank := fun n hn => h.blank n (Nat.le_of_succ_le hn) }
  by_cases hid : y.id = b.id
  · -- Its own pool is new, and empty as all pools of the fleet are.
    rw [hid]
    exact .inr ⟨_, hasBackend_of_append hnone rfl rfl, hzone, rfl⟩
  · rcases h.pools y hy with hfree | ⟨k, hk, hkzone, hpool⟩
    · refine .inl ?_
      show (c.backends ++ [_]).filter _ = _
      rw [List.filter_append, hfree]
      simp [Ne.symm hid]
    · exact .inr ⟨k, hk.append (Ne.symm hid), hkzone, hpool⟩

/-- A load balancer of the fleet gets a backend without servers. -/
theorem ensureBackend_achieves (update : Bool) (h : Underway fleet c) (hb : fleet.Lists b) :
    (ensureBackend s.site b [] update).Achieves (Underway fleet) c fun k _ =>
      (k.zone ∈ s.site.zones ∧ k.pool = []) ∧ k.balancerId = b.id := by
  obtain ⟨y, hy, hid, hyzone⟩ := hb
  have hzone : b.zone ∈ s.site.zones := hyzone ▸ fleet.zones y hy
  have hpools := h.pools y hy
  rw [hid] at hpools
  have hsort : sortTexts [] = [] := List.mergeSort_nil
  have hfound : ∀ r : Option Backend, (c.backends.filter fun k =>
        decide (k.name = backendName) && decide (k.balancerId = b.id)) = r.toList →
      (s.site.findBackend b.zone b.id backendName).orNone.Returns c r c :=
    fun r hr => Site.findBackend_returns.2 ⟨hzone, hr, rfl⟩
  obtain ⟨step, heq, hstep⟩ := ensureBackend_steps s.site b [] update
  rw [heq]
  rcases hpools with hnone | ⟨k, hk, hkzone, hpool⟩
  · -- There is no backend yet: one without servers is made.
    have hcreate : (s.site.createBackend b.zone b.id backendName [] serverPort).Returns c
        ⟨numbered "backend" c.nextId, b.id, b.zone, backendName, serverPort, []⟩ _ :=
      Site.change_returns.2 ⟨hzone, Cloud.createBackend_succeeds (h.there ⟨y, hy, hid⟩)⟩
    have hone := (Site.changesLast_in_zone _).achieves hcreate h
      (h.makeBackend (b := b) hnone hzone)
    refine Site.findBackend_readOnly.orNone.achieves_bind (hfound none hnone) ?_
    cases hstep none with
    | created hp =>
      rw [hp, hsort]
      refine hone.mono (fun _ hP => hP) fun k c' _ _ hend => ?_
      rw [hend.1]
      exact ⟨⟨hzone, rfl⟩, rfl⟩
  · -- There is one without servers, and there is nothing to update.
    refine Site.findBackend_readOnly.orNone.achieves_bind (hfound (some k) hk) ?_
    cases hstep (some k) with
    | updated _ _ hdiffer _ => exact absurd (hpool ▸ .refl []) hdiffer
    | kept _ _ hp => exact hp ▸ achieves_done h ⟨⟨hkzone, hpool⟩, hk.balancerId⟩

/-- Copying a pool without servers gives every load balancer of the list a backend. -/
theorem copyPool_achieves (h : Underway fleet c) (hbs : ∀ b ∈ bs, fleet.Lists b) :
    (copyPool s.site [] bs).Achieves (Underway fleet) c fun ks _ =>
      ∀ k ∈ ks, k.zone ∈ s.site.zones ∧ ∃ b ∈ bs, k.balancerId = b.id := by
  rw [copyPool_eq]
  have hall := Achieves.mapM' (fun b hb c (h : Underway fleet c) =>
    h.ensureBackend_achieves true (hbs b hb)) h
  refine hall.mono (fun _ hP => hP) fun ks _ _ _ hks k hk => ?_
  obtain ⟨b, hb, hmade, hid⟩ := hks k hk
  exact ⟨hmade.1, b, hb, hid⟩

/-- All load balancers of the fleet get backends without servers. -/
theorem ensureBackends_achieves (h : Underway fleet c)
    (hbs : ∀ x ∈ b :: bs, fleet.Lists x) :
    (ensureBackends s.site b bs).Achieves (Underway fleet) c fun ks _ =>
      ∀ k ∈ ks, k.zone ∈ s.site.zones ∧ ∃ x ∈ b :: bs, k.balancerId = x.id := by
  unfold ensureBackends
  refine (h.ensureBackend_achieves false (hbs b List.mem_cons_self)).bind fun k c1 _ h1 hk => ?_
  rw [hk.1.2]
  have hrest := h1.copyPool_achieves fun x hx => hbs x (List.mem_cons_of_mem _ hx)
  refine hrest.bind fun ks c2 _ h2 hks => achieves_done h2 ?_
  rintro k' (_ | ⟨_, hk'⟩)
  · exact ⟨hk.1.1, b, List.mem_cons_self, hk.2⟩
  · obtain ⟨hzone, x, hx, hid⟩ := hks k' hk'
    exact ⟨hzone, x, List.mem_cons_of_mem _ hx, hid⟩

end

/-! ## Frontends -/

section

variable {k : Backend} {ks : List Backend}

/-- A frontend is made, which has no rules. -/
theorem makeFrontend (h : Underway fleet c)
    (hnone : (c.frontends.filter fun f =>
      decide (f.name = frontendName) && decide (f.balancerId = k.balancerId)) = [])
    (hzone : k.zone ∈ s.site.zones) :
    Underway fleet { c with
      frontends := c.frontends ++
        [⟨numbered "frontend" c.nextId, k.balancerId, k.zone, frontendName, s.apiServerPort, k.id⟩]
      nextId := c.nextId + 1 } := by
  have hblank : Access.rulesOf c (numbered "frontend" c.nextId) = [] := h.blank _ (Nat.le_refl _)
  -- A frontend of a load balancer is the new one, or was there before.
  have hcases : ∀ id f, HasFrontend { c with
        frontends := c.frontends ++ [⟨numbered "frontend" c.nextId, k.balancerId, k.zone,
          frontendName, s.apiServerPort, k.id⟩]
        nextId := c.nextId + 1 } id f →
      f.id = numbered "frontend" c.nextId ∨ HasFrontend c id f := by
    intro id f hf
    by_cases hid : id = k.balancerId
    · subst hid
      refine .inl ?_
      rw [hf.unique (hasFrontend_of_append (f := ⟨numbered "frontend" c.nextId, k.balancerId,
        k.zone, frontendName, s.apiServerPort, k.id⟩) hnone rfl rfl)]
    · refine .inr ?_
      have hf' : (c.frontends ++ [_]).filter _ = [f] := hf
      rw [List.filter_append] at hf'
      simp only [List.filter_cons, List.filter_nil] at hf'
      rw [if_neg (by simp [Ne.symm hid]), List.append_nil] at hf'
      exact hf'
  constructor
  case sound => exact h.sound.addFrontend rfl
  case balancers => exact h.balancers
  case gateways => exact h.gateways
  case books => exact h.books
  case joining => exact h.joining_frame rfl rfl rfl
  case pools => exact h.pools
  case ports =>
    intro y hy
    by_cases hid : y.id = k.balancerId
    · rw [hid]
      exact .inr ⟨_, hasFrontend_of_append hnone rfl rfl, hzone⟩
    · rcases h.ports y hy with hfree | ⟨f, hf, hfzone⟩
      · refine .inl ?_
        show (c.frontends ++ [_]).filter _ = _
        rw [List.filter_append, hfree]
        simp [Ne.symm hid]
      · exact .inr ⟨f, hf.append (Ne.symm hid), hfzone⟩
  case drafted =>
    intro y hy f hf
    show Access.Drafted _ (Access.rulesOf c f.id)
    rcases hcases y.id f hf with hnew | hold
    · rw [hnew, hblank]
      exact nofun
    · exact h.drafted y hy f hold
  case named =>
    intro f hf
    show ((Access.rulesOf c f.id).map _).Nodup
    rcases hcases fleet.main f hf with hnew | hold
    · rw [hnew, hblank]
      exact List.nodup_nil
    · exact h.named f hold
  case blank => exact fun n hn => h.blank n (Nat.le_of_succ_le hn)

/-- A backend of a load balancer of the fleet gets its frontend. -/
theorem ensureFrontend_achieves (h : Underway fleet c) (hzone : k.zone ∈ s.site.zones)
    (hk : k.balancerId ∈ fleet.members.map (·.id)) (hmem : k ∈ c.backends) :
    (ensureFrontend s k).Achieves (Underway fleet) c fun _ _ => True := by
  obtain ⟨y, hy, hid⟩ := List.mem_map.1 hk
  have hfound : ∀ r : Option Frontend, (c.frontends.filter fun f =>
        decide (f.name = frontendName) && decide (f.balancerId = k.balancerId)) = r.toList →
      (s.site.findFrontend k.zone k.balancerId frontendName).orNone.Returns c r c :=
    fun r hr => Site.findFrontend_returns.2 ⟨hzone, hr, rfl⟩
  have hport := h.ports y hy
  rw [hid] at hport
  obtain ⟨step, heq, hstep⟩ := ensureFrontend_steps s k
  rw [heq]
  rcases hport with hnone | ⟨f, hf, _⟩
  · -- There is none, and its load balancer and backend are there to create it for.
    have hcreate : (s.site.createFrontend k.zone k.balancerId frontendName k.id
        s.apiServerPort).Returns c ⟨numbered "frontend" c.nextId, k.balancerId, k.zone,
          frontendName, s.apiServerPort, k.id⟩ _ :=
      Site.change_returns.2 ⟨hzone,
        Cloud.createFrontend_succeeds (h.there ⟨y, hy, hid⟩) ⟨k, hmem, rfl⟩⟩
    have hone := (Site.changesLast_in_zone _).achieves hcreate h (h.makeFrontend hnone hzone)
    refine Site.findFrontend_readOnly.orNone.achieves_bind (hfound none hnone) ?_
    cases hstep none with
    | created hp => exact hp ▸ hone.mono (fun _ hP => hP) fun _ _ _ _ _ => trivial
  · -- There is one, and its port is checked only.
    refine Site.findFrontend_readOnly.orNone.achieves_bind (hfound (some f) hf) ?_
    cases hstep (some f) with
    | kept _ hp =>
      rw [hp]
      exact ReadOnly.achieves_bind (a := ()) checkPort_orderly (checkPort_returns.2 rfl)
        (achieves_done h trivial)

/-- The backends of the fleet get frontends. -/
theorem ensureFrontends_achieves {known : FrontendMap} (h : Underway fleet c)
    (hks : ∀ k ∈ ks, k.zone ∈ s.site.zones ∧ k.balancerId ∈ fleet.members.map (·.id))
    (hmem : ∀ k ∈ ks, k ∈ c.backends) :
    (ensureFrontends s known ks).Achieves (Underway fleet) c fun _ _ => True := by
  rw [ensureFrontends_eq]
  -- No step touches a backend.
  have hsteps : ∀ m : FrontendMap, ∀ k ∈ ks, ∀ c', Underway fleet c' → c'.backends = c.backends →
      ((fun f => m.put k.balancerId f) <$> ensureFrontend s k).Achieves (Underway fleet) c'
        fun _ c'' => c''.backends = c.backends := by
    intro m k hk c' h' hsame
    obtain ⟨hzone, hid⟩ := hks k hk
    have hfirst := h'.ensureFrontend_achieves hzone hid (hsame ▸ hmem k hk)
    refine hfirst.bind fun f c1 hreturns h1 _ => achieves_done h1 ?_
    rw [changes_frontends ensureFrontend_orderly hreturns]
    exact hsame
  exact (Achieves.foldlM hsteps h rfl known).mono (fun _ hP => hP) fun _ _ _ _ _ => trivial

end

/-! ## Rules -/

section

variable {f g : Frontend} {d : DesiredRule} {ds : List DesiredRule} {m : FrontendMap}

/-- While a first run is underway, the rules that are desired are the fleet's. -/
theorem desired_eq (h : Underway fleet c) : Access.desiredOn s c = fleet.desired := by
  unfold Fleet.desired Access.desiredOn Access.gatewaySubnets Site.gatewaysWith
  rw [h.gateways]

/-- The rules of one frontend are others, which are desired. -/
theorem of_rules {rules : List Rule} {next : Nat} (h : Underway fleet c) (hg : g ∈ c.frontends)
    (hsound : { c with rules, nextId := next }.Sound) (hnext : c.nextId ≤ next)
    (hself : Access.Drafted fleet.desired
      (Access.rulesOf { c with rules, nextId := next } g.id))
    (hother : ∀ id, id ≠ g.id →
      Access.rulesOf { c with rules, nextId := next } id = Access.rulesOf c id)
    (hnamed : HasFrontend c fleet.main g →
      ((Access.rulesOf { c with rules, nextId := next } g.id).map (·.name)).Nodup) :
    Underway fleet { c with rules, nextId := next } := by
  refine { h with
    sound := hsound
    joining := h.joining_frame rfl rfl rfl
    drafted := fun y hy f hf => ?_
    named := fun f hf => ?_
    blank := fun n hn => ?_ }
  · by_cases hid : f.id = g.id
    · rw [hid]
      exact hself
    · rw [hother f.id hid]
      exact h.drafted y hy f hf
  · by_cases hid : f.id = g.id
    · have hfg : f = g := h.sound.frontends.inj hf.mem_filter.1 hg hid
      exact hfg ▸ hnamed (hfg ▸ hf)
    · rw [hother f.id hid]
      exact h.named f hf
  -- An id that is to come is not that of the frontend.
  · have hle : c.nextId ≤ n := Nat.le_trans hnext hn
    rw [hother]
    · exact h.blank n hle
    · exact fun hid => h.sound.frontends.fresh n hle (hid ▸ List.mem_map_of_mem hg)

/-- The primary gets a desired rule. -/
theorem ensureRule_achieves (h : Underway fleet c) (hf : HasFrontend c fleet.main f)
    (hzone : f.zone ∈ s.site.zones) (hd : d ∈ fleet.desired) :
    (Access.ensureRule s.site f d).Achieves (Underway fleet) c fun _ c' =>
      HasFrontend c' fleet.main f := by
  obtain ⟨y, hy, hid⟩ := List.mem_map.1 fleet.main_mem
  have hdrafted := h.drafted y hy f (hid ▸ hf)
  obtain ⟨hlow, hhigh⟩ := Access.index_of_desiredOn hd
  obtain ⟨c', hreturns, hc'⟩ :=
    Access.ensureRule_drafts hf.mem_filter.1 hzone (Access.nodup_desiredOn s fleet.base) hdrafted
      (h.named f hf) hd hlow hhigh
  have hdone : Underway fleet c' ∧ HasFrontend c' fleet.main f := by
    rcases hc' with rfl | ⟨hsubnets, hnone, hc'⟩
    · exact ⟨h, hf⟩
    -- A rule was added: it is a draft, its name was free, and other frontends keep theirs.
    have hself : Access.rulesOf c' f.id =
        Access.rulesOf c f.id ++ [⟨Access.sent d, numbered "acl" c.nextId, f.id⟩] := by
      rw [hc']
      unfold Access.rulesOf
      rw [List.filter_append]
      simp
    have hother : ∀ id, id ≠ f.id → Access.rulesOf c' id = Access.rulesOf c id := by
      intro id hne
      rw [hc']
      unfold Access.rulesOf
      rw [List.filter_append]
      simp [Ne.symm hne]
    have hsound := h.sound.returns hreturns
    rw [hc'] at hself hother hsound ⊢
    refine ⟨h.of_rules hf.mem_filter.1 hsound (Nat.le_succ _) ?_ hother fun _ => ?_, hf⟩
    · rw [hself]
      intro r hr
      rcases List.mem_append.1 hr with hold | hnew
      · exact hdrafted r hold
      · rw [List.mem_singleton.1 hnew]
        exact Access.mem_drafts.2 ⟨d, hd, hsubnets, rfl⟩
    · rw [hself, List.map_append, List.nodup_append]
      refine ⟨h.named f hf, List.nodup_singleton _, fun name hold new hnew hname => ?_⟩
      obtain ⟨r, hr, rfl⟩ := List.mem_map.1 hold
      rw [List.map_singleton, List.mem_singleton] at hnew
      refine List.filter_eq_nil_iff.1 hnone r hr (decide_eq_true ?_)
      rw [hname, hnew]
      rfl
  refine (Access.ensureRule_changesLast.achieves hreturns h hdone.1).mono (fun _ hP => hP) ?_
  intro _ c'' _ _ hend
  rw [hend.2]
  exact hdone.2

/-- Ensuring rules that the fleet desires leaves the frontend of the primary where it is. -/
theorem ensureRules_achieves (h : Underway fleet c) (hf : HasFrontend c fleet.main f)
    (hzone : f.zone ∈ s.site.zones) (hds : ∀ d ∈ ds, d ∈ fleet.desired) :
    (Access.ensureRules s.site f ds).Achieves (Underway fleet) c fun _ c' =>
      HasFrontend c' fleet.main f := by
  rw [Access.ensureRules_eq]
  exact Achieves.forM (fun d hd _ h1 hf1 => h1.ensureRule_achieves hf1 hzone (hds d hd)) h hf

/-- The frontend of another load balancer gets the rules of the primary. -/
theorem copyTo_achieves {rules : List Rule} {id : String} (h : Underway fleet c)
    (hrules : Access.Drafted fleet.desired rules) (hg : HasFrontend c id g)
    (hzone : g.zone ∈ s.site.zones) (hid : id ≠ fleet.main) :
    (Access.copyTo s.site rules g).Achieves (Underway fleet) c fun _ c' =>
      c'.frontends = c.frontends := by
  obtain ⟨step, heq, hstep⟩ := Access.copyTo_steps s.site rules g
  rw [heq]
  refine Site.listRules_readOnly.achieves_bind (Site.listRules_returns.2 ⟨hzone, rfl, rfl⟩) ?_
  cases hstep _ with
  | agreed _ hp => exact hp ▸ achieves_done h rfl
  | copied _ hp =>
    rw [hp]
    let specs := rules.map (·.toRuleSpec)
    obtain ⟨rs, c1, hanswer⟩ : ∃ rs c1, c.answer (.setRules g.zone g.id specs) = (.ok rs, c1) :=
      Cloud.setRules_succeeds ⟨g, hg.mem_filter.1, rfl⟩
    obtain ⟨new, n, hc1, hspecs, hnew⟩ := Cloud.setRules_effect hanswer
    have hreturns : (s.site.setRules g.zone g.id specs).Returns c rs c1 :=
      Site.change_returns.2 ⟨hzone, hanswer⟩
    have hreplaced := Access.rulesOf_replaced (c := c) (n := n) hnew
    have hsound := h.sound.returns hreturns
    have hnext := Cloud.nextId_le_of_returns hreturns
    have h1 : Underway fleet c1 ∧ c1.frontends = c.frontends := by
      rw [hc1] at hsound hnext ⊢
      refine ⟨h.of_rules hg.mem_filter.1 hsound hnext ?_ ?_ ?_, rfl⟩
      · rw [hreplaced, if_pos rfl]
        intro r hr
        have hspec : r.toRuleSpec ∈ specs := hspecs ▸ List.mem_map_of_mem hr
        obtain ⟨r', hr', heq⟩ := List.mem_map.1 hspec
        exact heq ▸ hrules r' hr'
      · exact fun id hne => by rw [hreplaced, if_neg hne]
      -- The frontend is not the primary's.
      · intro hmain
        exact absurd (hg.mem_filter.2.2.symm.trans hmain.mem_filter.2.2) hid
    have hone := (Site.changesLast_in_zone _).achieves hreturns h h1.1
    refine hone.bind fun _ c2 _ h2 hend => achieves_done h2 ?_
    rw [hend.2]
    exact h1.2

/-- The other frontends get the rules of the primary. -/
theorem copyRules_achieves {rules : List Rule} (h : Underway fleet c)
    (hrules : Access.Drafted fleet.desired rules)
    (hm : ∀ e ∈ m, HasFrontend c e.1 e.2 ∧ e.2.zone ∈ s.site.zones) :
    (Access.copyRules s.site fleet.main rules m).Achieves (Underway fleet) c
      fun _ _ => True := by
  rw [Access.copyRules_eq]
  have hsteps : ∀ e ∈ m.filter (·.1 ≠ fleet.main), ∀ c', Underway fleet c' →
      c'.frontends = c.frontends → (Access.copyTo s.site rules e.2).Achieves (Underway fleet) c'
        fun _ c'' => c''.frontends = c.frontends := by
    intro e he c' h' hsame
    rw [List.mem_filter, decide_eq_true_eq] at he
    obtain ⟨hg, hzone⟩ := hm e he.1
    unfold HasFrontend at hg
    rw [← hsame] at hg
    refine (h'.copyTo_achieves hrules hg hzone he.2).mono (fun _ hP => hP) fun _ _ _ _ hsame' => ?_
    rw [hsame', hsame]
  exact (Achieves.forM hsteps h rfl).mono (fun _ hP => hP) fun _ _ _ _ _ => trivial

/-- The rules are synced. -/
theorem sync_achieves (h : Underway fleet c) (hmaps : m.Maps c)
    (hkeys : ∀ id ∈ m.map (·.1), id ∈ fleet.members.map (·.id)) (hmain : fleet.main ∈ m.map (·.1)) :
    (Access.sync s fleet.main m).Achieves (Underway fleet) c fun _ _ => True := by
  -- The frontends of the map are those of the fleet, which are in its zones.
  have hm : ∀ e ∈ m, HasFrontend c e.1 e.2 ∧ e.2.zone ∈ s.site.zones := by
    intro e he
    refine ⟨hmaps e he, ?_⟩
    obtain ⟨y, hy, hid⟩ := List.mem_map.1 (hkeys e.1 (List.mem_map_of_mem he))
    have hport := h.ports y hy
    rw [hid] at hport
    rcases hport with hnone | ⟨f, hf, hzone⟩
    · exact absurd (hnone.symm.trans (hmaps e he)) (List.cons_ne_nil _ _).symm
    · exact (hmaps e he).unique hf ▸ hzone
  obtain ⟨f, hlookup, hmem⟩ := FrontendMap.exists_lookup hmain
  obtain ⟨hf, hzone⟩ := hm _ hmem
  rw [Access.sync_of_some hlookup]
  refine Access.desiredRules_readOnly.achieves_bind (Access.desiredRules_returns.2 ⟨rfl, rfl⟩) ?_
  have hensure : (Access.ensureRules s.site f (Access.desiredOn s c)).Achieves (Underway fleet) c
      fun _ c' => HasFrontend c' fleet.main f :=
    h.ensureRules_achieves hf hzone fun d hd => h.desired_eq ▸ hd
  refine hensure.bind fun _ c1 hreturns h1 hf1 => ?_
  cases Access.spread_steps s.site fleet.main f m with
  | alone _ hp => exact hp ▸ achieves_done h1 trivial
  | copied _ hp =>
    rw [hp]
    have hframe := Access.changes_rules Access.ensureRules_orderly hreturns
    obtain ⟨y, hy, hid⟩ := List.mem_map.1 fleet.main_mem
    refine Site.listRules_readOnly.achieves_bind (Site.listRules_returns.2 ⟨hzone, rfl, rfl⟩) ?_
    refine h1.copyRules_achieves (h1.drafted y hy f (hid ▸ hf1)) fun e he => ?_
    rw [hframe]
    exact hm e he

end

end Underway

end Topology

end ControlPlane
