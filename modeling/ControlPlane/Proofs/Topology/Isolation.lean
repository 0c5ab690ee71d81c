import ControlPlane.Proofs.Cloud.Ownership
import ControlPlane.Proofs.Provider.Confinement
import ControlPlane.Proofs.Topology.Convergence
import ControlPlane.Proofs.Topology.Jobs

/-!
# Nothing of others is touched

Whatever a cluster's programs do, and wherever they are cut off, every load balancer that does not
carry the cluster's ownership tags with those of a role is left as it was, with all that is under it
(`runs_in_isolation`). The argument follows the ids: each id that a program acts on was looked up by
the tags, was found under a load balancer that was, or was given to something the program made.
`Sparing` is that argument for one program, and every part of a reconciler has a lemma of it.

Two clusters have different tags as soon as their namespaces or their names differ, so that each is
foreign to the other.
-/

namespace ControlPlane

open Program hiding ofExcept

/-! ## What a cluster owns -/

/-- Whether tags are those of a load balancer of the cluster, in one of the roles. -/
def Scope.owns (s : Scope) (tags : List String) : Bool :=
  hasTags tags (Topology.primaryTags s) || hasTags tags (Secondary.tags s)

/-- The tags that load balancers made for the cluster get. -/
def Scope.madeWith (s : Scope) : List (List String) :=
  [Topology.primaryTags s, Secondary.tags s, Secondary.tags s ++ [Tag.managedAddress]]

/-- The cluster owns what it makes. -/
theorem Scope.owns_of_madeWith {s : Scope} {tags : List String} (h : tags ∈ s.madeWith) :
    s.owns tags = true := by
  unfold Scope.owns
  rw [Bool.or_eq_true, hasTags_iff, hasTags_iff]
  simp only [Scope.madeWith, List.mem_cons, List.not_mem_nil, or_false] at h
  rcases h with rfl | rfl | rfl
  · exact .inl fun _ ht => ht
  · exact .inr fun _ ht => ht
  · exact .inr fun _ ht => List.mem_append_left _ ht

/-! ## Sparing programs -/

section

variable {α β : Type} {s : Scope} {c0 : Cloud} {post : α → Prop}

/-- The program acts on nothing that is foreign to the cluster. -/
abbrev Sparing (s : Scope) (c0 : Cloud) (post : α → Prop) (p : Program α) : Prop :=
  p.Confined (Cloud.Spares s.owns c0) (Cloud.Intact s.owns c0) post

/-- The load balancer is none of the foreign ones. -/
abbrev OwnBalancer (s : Scope) (c0 : Cloud) (b : LoadBalancer) : Prop :=
  b.id ∉ c0.foreignIds s.owns

/-- The backend is none of the foreign ones, and is not under a foreign load balancer. -/
def OwnBackend (s : Scope) (c0 : Cloud) (k : Backend) : Prop :=
  k.balancerId ∉ c0.foreignIds s.owns ∧ k.id ∉ c0.foreignBackendIds s.owns

/-- The frontend is none of the foreign ones. -/
abbrev OwnFrontend (s : Scope) (c0 : Cloud) (f : Frontend) : Prop :=
  f.id ∉ c0.foreignFrontendIds s.owns

/-- Look-ups act on nothing. -/
theorem Program.ReadOnly.sparing {p : Program α} (hp : p.ReadOnly) :
    Sparing s c0 (fun _ => True) p := by
  refine hp.confined fun r hr => ?_
  cases r with
  | listBalancers | listAddresses | listBackends | listFrontends | listRules | listAttachments
  | listPrivateAddresses | listGateways => trivial
  | _ => cases hr

/-- A check acts on nothing. -/
theorem sparing_ofExcept {r : Except Failure α} :
    Sparing s c0 (fun _ => True) (Program.ofExcept r) :=
  ReadOnly.sparing (orderly_ofExcept r)

namespace Site

variable {site : Site} {zone : String}

/-- Before a request for a zone, the zone is checked. -/
theorem sparing_in_zone {p : Program α} (hp : Sparing s c0 post p) :
    Sparing s c0 post (site.checkZone zone >>= fun _ => p) :=
  sparing_ofExcept.bind fun _ _ => hp

/-- A change in a zone is sparing if its request is. -/
theorem sparing_change (r : Request) {post : r.Reply → Prop} (hr : Cloud.Spares s.owns c0 r)
    (h : ∀ c v c', Cloud.Intact s.owns c0 c → c.answer r = (.ok v, c') → post v) :
    Sparing s c0 post (site.checkZone zone >>= fun _ => request r) :=
  sparing_in_zone (confined_request hr h)

/-- A single resource that is found is among those listed, and passes the filter. -/
theorem sparing_single {items : Program (List α)} {p : α → Bool} {description : String}
    (h : Sparing s c0 (fun found => ∀ a ∈ found, p a = true → post a) items) :
    Sparing s c0 post (items >>= fun found =>
      Program.ofExcept (single (found.filter p) description)) := by
  refine h.bind fun found hfound => confined_ofExcept fun a ha => ?_
  have hmem : a ∈ found.filter p := by
    rw [single_eq_ok.1 ha]
    exact List.mem_singleton_self a
  exact hfound a (List.mem_of_mem_filter hmem) (List.mem_filter.1 hmem).2

/-- Load balancers that are found by the tags of a role are the cluster's. -/
theorem sparing_listBalancers {tags : List String}
    (htags : ∀ ts, hasTags ts tags = true → s.owns ts = true) :
    Sparing s c0 (fun found => ∀ b ∈ found, hasTags b.tags tags = true → OwnBalancer s c0 b)
      (request (.listBalancers zone tags)) := by
  refine confined_request trivial fun c v c' hc hv b hb hb' => ?_
  cases hv
  exact hc.own (List.mem_of_mem_filter hb) (htags _ hb')

/-- A load balancer that is found by tags that only the cluster uses is its own. -/
theorem sparing_findBalancer {tags : List String}
    (htags : ∀ ts, hasTags ts tags = true → s.owns ts = true) :
    Sparing s c0 (OwnBalancer s c0) (site.findBalancer zone tags) :=
  sparing_in_zone (sparing_ofExcept.bind fun _ _ => sparing_single (sparing_listBalancers htags))

/-- What is found zone by zone is the cluster's own, if it is so in each zone. -/
theorem sparing_inZones {zones : List String} {list : String → Program (List α)} {p : α → Bool}
    (h : ∀ zone, Sparing s c0 (fun found => ∀ a ∈ found, p a = true → post a) (list zone)) :
    Sparing s c0 (fun found => ∀ a ∈ found, post a) (inZones zones list p) := by
  induction zones with
  | nil => exact nofun
  | cons zone rest ih =>
    refine (h zone).bind fun found hfound => ih.bind fun more hmore a ha => ?_
    rcases List.mem_append.1 ha with ha | ha
    · exact hfound a (List.mem_of_mem_filter ha) (List.mem_filter.1 ha).2
    · exact hmore a ha

/-- All load balancers that are found by tags that only the cluster uses are its own. -/
theorem sparing_findBalancers {tags : List String}
    (htags : ∀ ts, hasTags ts tags = true → s.owns ts = true) :
    Sparing s c0 (fun bs => ∀ b ∈ bs, OwnBalancer s c0 b) (site.findBalancers tags) :=
  sparing_ofExcept.bind fun _ _ => sparing_inZones fun _ => sparing_listBalancers htags

/-- A new load balancer has a fresh id. -/
theorem sparing_createBalancer {name type : String} {addressId : Option String}
    {tags : List String} {isPrivate : Bool} (htags : tags ∈ s.madeWith) :
    Sparing s c0 (OwnBalancer s c0)
      (site.createBalancer zone name type addressId tags isPrivate) := by
  refine sparing_change (.createBalancer ..) (Scope.owns_of_madeWith htags) fun c v c' hc hv => ?_
  have hid : v.id = Cloud.numbered "lb" c.nextId :=
    congrArg LoadBalancer.id (Cloud.createBalancer_effect hv).1
  unfold OwnBalancer
  rw [hid]
  exact hc.sound.balancers.fresh_of_kept hc.balancers

/-- Bringing an own load balancer to another type spares foreign ones. -/
theorem sparing_migrateBalancer {b : LoadBalancer} {type : String} (hb : OwnBalancer s c0 b) :
    Sparing s c0 (OwnBalancer s c0) (site.migrateBalancer zone b.id type) := by
  refine sparing_change (.migrateBalancer ..) hb fun c v c' hc hv => ?_
  obtain ⟨⟨old, hold, rfl⟩, _⟩ := Cloud.migrateBalancer_effect hv
  have hid : old.id = b.id := by simpa using List.find?_some hold
  show old.id ∉ _
  rw [hid]
  exact hb

/-- Deleting an own load balancer spares foreign ones. -/
theorem sparing_deleteBalancer {b : LoadBalancer} {release : Bool} (hb : OwnBalancer s c0 b) :
    Sparing s c0 (fun _ => True) (site.deleteBalancer zone b.id release) :=
  sparing_change (.deleteBalancer ..) hb fun _ _ _ _ _ => trivial

/-- What is under a load balancer that is not foreign is not foreign either. -/
theorem sparing_findBackend {b : LoadBalancer} {name : String} (hb : OwnBalancer s c0 b) :
    Sparing s c0 (OwnBackend s c0) (site.findBackend zone b.id name) := by
  refine sparing_in_zone (sparing_single (confined_request trivial fun c v c' hc hv k hk _ => ?_))
  cases hv
  obtain ⟨hmem, hparent⟩ := List.mem_filter.1 hk
  have hown : k.balancerId ∉ c0.foreignIds s.owns := by
    rw [of_decide_eq_true hparent]
    exact hb
  exact ⟨hown, hc.sound.backends.not_mem_of_kept hc.backends hmem (decide_eq_false hown)⟩

/-- A backend that is made for an own load balancer is an own one. -/
theorem sparing_createBackend {b : LoadBalancer} {name : String} {servers : List String}
    {port : Int} (hb : OwnBalancer s c0 b) :
    Sparing s c0 (OwnBackend s c0) (site.createBackend zone b.id name servers port) := by
  refine sparing_change (.createBackend ..) hb fun c v c' hc hv => ?_
  obtain ⟨_, rfl, rfl⟩ := Cloud.createBackend_effect hv
  exact ⟨hb, hc.sound.backends.fresh_of_kept hc.backends⟩

/-- Replacing the pool of an own backend spares foreign ones. -/
theorem sparing_setServers {k : Backend} {servers : List String} (hk : OwnBackend s c0 k) :
    Sparing s c0 (OwnBackend s c0) (site.setServers zone k.id servers) := by
  refine sparing_change (.setServers ..) hk.2 fun c v c' hc hv => ?_
  obtain ⟨⟨old, hold, rfl⟩, _⟩ := Cloud.changePool_effect (f := fun _ => servers) hv
  have hid : old.id = k.id := by simpa using List.find?_some hold
  have hforeign : old.id ∉ c0.foreignBackendIds s.owns := by
    rw [hid]
    exact hk.2
  refine ⟨fun hparent => hforeign ?_, hforeign⟩
  -- A backend under a foreign load balancer would be one of the foreign backends.
  have hmem : old ∈ c.backends.filter (·.balancerId ∈ c0.foreignIds s.owns) :=
    List.mem_filter.2 ⟨List.mem_of_find?_eq_some hold, decide_eq_true hparent⟩
  rw [hc.backends] at hmem
  exact List.mem_map_of_mem hmem

/-- The frontend of a load balancer that is not foreign is not foreign. -/
theorem sparing_findFrontend {balancerId name : String}
    (hb : balancerId ∉ c0.foreignIds s.owns) :
    Sparing s c0 (OwnFrontend s c0) (site.findFrontend zone balancerId name) := by
  refine sparing_in_zone (sparing_single (confined_request trivial fun c v c' hc hv f hf _ => ?_))
  cases hv
  obtain ⟨hmem, hparent⟩ := List.mem_filter.1 hf
  have hown : f.balancerId ∉ c0.foreignIds s.owns := by
    rw [of_decide_eq_true hparent]
    exact hb
  exact hc.sound.frontends.not_mem_of_kept hc.frontends hmem (decide_eq_false hown)

/-- A frontend that is made for a load balancer that is not foreign is not foreign. -/
theorem sparing_createFrontend {balancerId name backendId : String} {port : Int}
    (hb : balancerId ∉ c0.foreignIds s.owns) :
    Sparing s c0 (OwnFrontend s c0)
      (site.createFrontend zone balancerId name backendId port) := by
  refine sparing_change (.createFrontend ..) hb fun c v c' hc hv => ?_
  obtain ⟨_, _, rfl, rfl⟩ := Cloud.createFrontend_effect hv
  exact hc.sound.frontends.fresh_of_kept hc.frontends

/-- A rule that is found on an own frontend is not foreign. -/
theorem sparing_findRule {f : Frontend} {name : String} (hf : OwnFrontend s c0 f) :
    Sparing s c0 (fun r => r.id ∉ c0.foreignRuleIds s.owns) (site.findRule zone f.id name) := by
  refine sparing_in_zone (sparing_single (confined_request trivial fun c v c' hc hv r hr _ => ?_))
  cases hv
  obtain ⟨hmem, hparent⟩ := List.mem_filter.1 hr
  have hown : r.frontendId ∉ c0.foreignFrontendIds s.owns := by
    rw [of_decide_eq_true hparent]
    exact hf
  exact hc.sound.rules.not_mem_of_kept hc.rules hmem (decide_eq_false hown)

/-- An address that nothing holds is none that a foreign load balancer holds. -/
theorem sparing_availableAddresses {networkId : String} :
    Sparing s c0 (fun as => ∀ a ∈ as, a.id ∉ c0.foreignAddressIds s.owns)
      (availableAddresses networkId) := by
  refine Confined.bind (P := fun found =>
      ∀ a ∈ found, a.holder = none → a.id ∉ c0.foreignAddressIds s.owns)
    (confined_request trivial fun c v c' hc hv a ha hnone => ?_) fun found hfound a ha => ?_
  · cases hv
    refine hc.sound.privateAddresses.not_mem_of_kept hc.privateAddresses ha ?_
    rw [hnone]
    rfl
  · obtain ⟨hmem, hnone⟩ := List.mem_filter.1 ha
    rw [Bool.and_eq_true, decide_eq_true_eq, decide_eq_true_eq] at hnone
    exact hfound a hmem hnone.2

end Site

/-! ## Load balancers -/

namespace Secondary

variable {live : List LoadBalancer} {wanted : List (String × List BalancerSpec)}
  {taken : List (String × String)}

/-- A secondary that is created is an own one. -/
theorem sparing_create {zone name : String} {d : BalancerSpec} :
    Sparing s c0 (OwnBalancer s c0) (create s zone name d) := by
  obtain ⟨step, heq, hstep⟩ := create_steps s zone name d
  rw [heq]
  refine sparing_ofExcept.bind fun zt _ => ?_
  cases hstep zt with
  | pinned address _ hp =>
    rw [hp]
    refine findAddressId_readOnly.sparing.bind fun _ _ => ?_
    exact (Site.sparing_createBalancer (by simp [Scope.madeWith])).bind fun b hb => hb
  | managed _ hp =>
    rw [hp]
    exact (Site.sparing_createBalancer (by simp [Scope.madeWith])).bind fun b hb => hb

/-- Updating an own secondary leaves it an own one. -/
theorem sparing_update {b : LoadBalancer} {d : BalancerSpec} (hb : OwnBalancer s c0 b) :
    Sparing s c0 (OwnBalancer s c0) (update s b d) := by
  cases update_steps s b d with
  | kept _ hp => exact hp ▸ hb
  | migrated t _ _ hp => exact hp ▸ (Site.sparing_migrateBalancer hb).bind fun b hb => hb

/-- Of own secondaries, own ones are kept. -/
theorem sparing_retain (hlive : ∀ b ∈ live, OwnBalancer s c0 b) :
    Sparing s c0 (fun bs => ∀ b ∈ bs, OwnBalancer s c0 b)
      ((reconciler s).retain wanted taken live) := by
  induction live generalizing taken with
  | nil => exact nofun
  | cons b rest ih =>
    obtain ⟨hb, hrest⟩ := List.forall_mem_cons.1 hlive
    have hdelete : Sparing s c0 (fun bs => ∀ b ∈ bs, OwnBalancer s c0 b)
        (delete s b >>= fun _ => (reconciler s).retain wanted taken rest) :=
      (Site.sparing_deleteBalancer hb).bind fun _ _ => ih hrest
    rw [retain_cons]
    split
    · exact hdelete
    · refine keeps_readOnly.sparing.bind fun kept _ => ?_
      split
      · refine (sparing_update hb).bind fun r hr => (ih hrest).bind fun more hmore => ?_
        exact List.forall_mem_cons.2 ⟨hr, hmore⟩
      · exact hdelete

/-- What is created where something is missing is one's own. -/
theorem sparing_createMissing {targets : List (String × String × BalancerSpec)} :
    Sparing s c0 (fun bs => ∀ b ∈ bs, OwnBalancer s c0 b)
      ((reconciler s).createMissing taken targets) := by
  rw [Reconciler.createMissing_eq]
  exact Confined.mapM' fun t _ => sparing_create

end Secondary

namespace Topology

/-- What has the tags of the primary is owned. -/
theorem owns_of_primaryTags {ts : List String} (h : hasTags ts (primaryTags s) = true) :
    s.owns ts = true := by
  unfold Scope.owns
  rw [h, Bool.true_or]

/-- What has the tags of a secondary is owned. -/
theorem owns_of_secondaryTags {ts : List String} (h : hasTags ts (Secondary.tags s) = true) :
    s.owns ts = true := by
  unfold Scope.owns
  rw [h, Bool.or_true]

/-- Ensuring the secondaries, or that there are none, gives own ones. -/
theorem sparing_ensureSecondaries {deletion : Bool} :
    Sparing s c0 (fun bs => ∀ b ∈ bs, OwnBalancer s c0 b) (ensureSecondaries s deletion) := by
  unfold ensureSecondaries
  rw [Secondary.ensure_eq]
  split
  · trivial
  · refine Confined.bind (Site.sparing_findBalancers fun _ => owns_of_secondaryTags) ?_
    intro live hlive
    refine (Secondary.sparing_retain hlive).bind fun kept hkept => ?_
    refine Secondary.sparing_createMissing.bind fun created hcreated => ?_
    exact List.forall_mem_append.2 ⟨hkept, hcreated⟩

/-- Ensuring the primary gives an own one. -/
theorem sparing_ensurePrimary : Sparing s c0 (OwnBalancer s c0) (ensurePrimary s) := by
  have hcreate : ∀ {zone type : String} {addressId : Option String},
      Sparing s c0 (OwnBalancer s c0) (s.site.createBalancer zone (s.resourceName []) type addressId
        (primaryTags s) s.balancersPrivate >>= fun b =>
          done { b with privateAddress := s.primary.privateAddress }) :=
    (Site.sparing_createBalancer (by simp [Scope.madeWith])).bind fun b hb => hb
  obtain ⟨step, heq, hstep⟩ := ensurePrimary_steps s
  rw [heq]
  refine sparing_ofExcept.bind fun zt _ => ?_
  refine (Site.sparing_findBalancer fun _ => owns_of_primaryTags).orNone.bind fun found hfound => ?_
  cases hstep zt found with
  | pinned address _ hp => exact hp ▸ findAddressId_readOnly.sparing.bind fun _ _ => hcreate
  | created _ hp => exact hp ▸ hcreate
  | kept b _ hp => exact hp ▸ hfound b rfl
  | migrated b _ hp =>
    rw [hp]
    exact (Site.sparing_migrateBalancer (hfound b rfl)).bind fun b hb => hb

/-- Deleting it spares foreign ones. -/
theorem sparing_deletePrimary : Sparing s c0 (fun _ => True) (deletePrimary s) := by
  cases hresolve : s.primary.resolve s.site.region with
  | error e => exact deletePrimary_of_error hresolve ▸ trivial
  | ok zt =>
    obtain ⟨step, heq, hstep⟩ := deletePrimary_steps hresolve
    rw [heq]
    refine (Site.sparing_findBalancer fun _ => owns_of_primaryTags).orNone.bind
      fun found hfound => ?_
    cases hstep found with
    | gone hp => exact hp ▸ trivial
    | deleted b hp => exact hp ▸ Site.sparing_deleteBalancer (hfound b rfl)

/-! ## The private network -/

/-- What is known to be available is nothing that a foreign load balancer holds. -/
def KnownSpare (s : Scope) (c0 : Cloud) (known : Option (List PrivateAddress)) : Prop :=
  ∀ as ∈ known, ∀ a ∈ as, a.id ∉ c0.foreignAddressIds s.owns

/-- An address that a pin finds is not held by a foreign load balancer. -/
theorem sparing_pinnedAddressId {networkId : String} {b : LoadBalancer}
    {known : Option (List PrivateAddress)} (h : KnownSpare s c0 known) :
    Sparing s c0 (fun r => (∀ a ∈ r.1, a ∉ c0.foreignAddressIds s.owns) ∧ KnownSpare s c0 r.2)
      (pinnedAddressId networkId b known) := by
  unfold pinnedAddressId
  split
  · exact ⟨nofun, h⟩
  · refine Confined.bind (P := fun as => ∀ a ∈ as, a.id ∉ c0.foreignAddressIds s.owns) ?_
      fun as has => ?_
    · unfold availableOnce
      split
      · -- The list is the one that an earlier step has got.
        exact h _ rfl
      · exact Site.sparing_availableAddresses
    · split
      · trivial
      · next a ha =>
        refine ⟨?_, ?_⟩
        · rintro _ ⟨⟩
          exact has a (List.mem_of_find?_eq_some ha)
        · rintro _ ⟨⟩
          exact has

/-- Attaching an own load balancer spares foreign ones, and what is known stays spare. -/
theorem sparing_attachOne {site : Site} {networkId : String} {b : LoadBalancer}
    {known : Option (List PrivateAddress)} (hb : OwnBalancer s c0 b)
    (hknown : KnownSpare s c0 known) :
    Sparing s c0 (KnownSpare s c0) (attachOne site networkId known b) := by
  obtain ⟨step, heq, hstep⟩ := attachOne_steps site networkId known b
  rw [heq]
  refine Site.findAttachment_readOnly.orNone.sparing.bind fun found _ => ?_
  cases hstep found with
  | attached _ hp => exact hp ▸ hknown
  | missing hp =>
    rw [hp]
    refine (sparing_pinnedAddressId hknown).bind fun r hr => ?_
    have hattach : Sparing s c0 (fun _ => True) (site.attach b.zone b.id networkId r.1) :=
      Site.sparing_change (.attach ..) ⟨hb, hr.1⟩ fun _ _ _ _ _ => trivial
    exact hattach.bind fun _ _ => hr.2

/-- Attaching several own load balancers spares foreign ones. -/
theorem sparing_attachAll {site : Site} {networkId : String} {bs : List LoadBalancer}
    {known : Option (List PrivateAddress)} (hbs : ∀ b ∈ bs, OwnBalancer s c0 b)
    (hknown : KnownSpare s c0 known) :
    Sparing s c0 (fun _ => True) (attachAll site networkId known bs) := by
  rw [attachAll_eq]
  exact Confined.discard
    (Confined.foldlM (fun known hknown b hb => sparing_attachOne (hbs b hb) hknown) hknown)

/-- Private addresses are added to the load balancers that there are. -/
theorem resolveAll_ids {held : List PrivateAddress} {bs rs : List LoadBalancer}
    (h : resolveAll held bs = .ok rs) : rs.map (·.id) = bs.map (·.id) := by
  induction bs generalizing rs with
  | nil => cases h; rfl
  | cons b rest ih =>
    -- Whichever branch it takes, the first one keeps its id.
    have hcons : ∀ b' : LoadBalancer, b'.id = b.id →
        (resolveAll held rest >>= fun more => .ok (b' :: more)) = .ok rs →
          rs.map (·.id) = (b :: rest).map (·.id) := by
      intro b' hid hrs
      obtain ⟨more, hmore, hrs⟩ := bind_eq_ok.1 hrs
      cases hrs
      rw [List.map_cons, List.map_cons, ih hmore, hid]
    unfold resolveAll at h
    dsimp only at h
    split at h
    · exact hcons _ rfl h
    · split at h
      · next address _ => exact hcons { b with privateAddress := some address } rfl h
      · cases h

/-- The network phase gives back own load balancers. -/
theorem sparing_ensurePrivateNetwork {bs : List LoadBalancer}
    (hbs : ∀ b ∈ bs, OwnBalancer s c0 b) :
    Sparing s c0 (fun rs => ∀ b ∈ rs, OwnBalancer s c0 b) (ensurePrivateNetwork s bs) := by
  cases hnetwork : s.privateNetworkId with
  | none => exact ensurePrivateNetwork_of_none hnetwork bs ▸ hbs
  | some networkId =>
    rw [ensurePrivateNetwork_of_some hnetwork]
    refine (sparing_attachAll hbs (fun _ h => by cases h)).bind fun _ _ => ?_
    cases resolveHeld_steps networkId bs with
    | resolved _ hp => exact hp ▸ hbs
    | listed _ hp =>
      rw [hp]
      refine Site.heldAddresses_readOnly.sparing.bind fun held _ => ?_
      refine confined_ofExcept fun rs hrs b hb => ?_
      have hid : b.id ∈ bs.map (·.id) := by
        rw [← resolveAll_ids hrs]
        exact List.mem_map_of_mem hb
      obtain ⟨b', hb', hid'⟩ := List.mem_map.1 hid
      unfold OwnBalancer
      rw [← hid']
      exact hbs b' hb'

/-! ## Backends and frontends -/

/-- Ensuring the backend of an own load balancer gives an own one. -/
theorem sparing_ensureBackend {site : Site} {b : LoadBalancer} {servers : List String}
    {update : Bool} (hb : OwnBalancer s c0 b) :
    Sparing s c0 (OwnBackend s c0) (ensureBackend site b servers update) := by
  obtain ⟨step, heq, hstep⟩ := ensureBackend_steps site b servers update
  rw [heq]
  refine (Site.sparing_findBackend hb).orNone.bind fun found hfound => ?_
  cases hstep found with
  | created hp => exact hp ▸ Site.sparing_createBackend hb
  | updated k _ _ hp => exact hp ▸ Site.sparing_setServers (hfound k rfl)
  | kept k _ hp => exact hp ▸ hfound k rfl

/-- Copying a pool to own load balancers gives own backends. -/
theorem sparing_copyPool {site : Site} {servers : List String} {bs : List LoadBalancer}
    (hbs : ∀ b ∈ bs, OwnBalancer s c0 b) :
    Sparing s c0 (fun ks => ∀ k ∈ ks, OwnBackend s c0 k) (copyPool site servers bs) := by
  rw [copyPool_eq]
  exact Confined.mapM' fun b hb => sparing_ensureBackend (hbs b hb)

/-- The backend phase gives own backends. -/
theorem sparing_ensureBackends {site : Site} {b : LoadBalancer} {bs : List LoadBalancer}
    (hb : OwnBalancer s c0 b) (hbs : ∀ b ∈ bs, OwnBalancer s c0 b) :
    Sparing s c0 (fun ks => ∀ k ∈ ks, OwnBackend s c0 k) (ensureBackends site b bs) := by
  refine (sparing_ensureBackend hb).bind fun k hk => ?_
  refine (sparing_copyPool hbs).bind fun more hmore => ?_
  exact List.forall_mem_cons.2 ⟨hk, hmore⟩

/-- None of the frontends of a map is foreign. -/
def OwnFrontends (s : Scope) (c0 : Cloud) (m : FrontendMap) : Prop :=
  ∀ kf ∈ m, OwnFrontend s c0 kf.2

/-- A map of own frontends takes one more. -/
theorem OwnFrontends.put {m : FrontendMap} {key : String} {f : Frontend}
    (hm : OwnFrontends s c0 m) (hf : OwnFrontend s c0 f) : OwnFrontends s c0 (m.put key f) := by
  induction m with
  | nil => exact List.forall_mem_singleton.2 hf
  | cons kg rest ih =>
    obtain ⟨hg, hrest⟩ := List.forall_mem_cons.1 hm
    unfold FrontendMap.put
    split
    · exact List.forall_mem_cons.2 ⟨hf, hrest⟩
    · exact List.forall_mem_cons.2 ⟨hg, ih hrest⟩

/-- Ensuring the frontend of an own backend gives an own one. -/
theorem sparing_ensureFrontend {k : Backend} (hk : OwnBackend s c0 k) :
    Sparing s c0 (OwnFrontend s c0) (ensureFrontend s k) := by
  obtain ⟨step, heq, hstep⟩ := ensureFrontend_steps s k
  rw [heq]
  refine (Site.sparing_findFrontend hk.1).orNone.bind fun found hfound => ?_
  cases hstep found with
  | created hp => exact hp ▸ Site.sparing_createFrontend hk.1
  | kept f hp =>
    rw [hp]
    refine Confined.bind (P := fun _ => True) ?_ fun _ _ => hfound f rfl
    unfold checkPort
    split <;> trivial

/-- The frontend phase gives own frontends. -/
theorem sparing_ensureFrontends {m : FrontendMap} {ks : List Backend}
    (hm : OwnFrontends s c0 m) (hks : ∀ k ∈ ks, OwnBackend s c0 k) :
    Sparing s c0 (OwnFrontends s c0) (ensureFrontends s m ks) := by
  rw [ensureFrontends_eq]
  exact Confined.foldlM (fun m hm k hk => (sparing_ensureFrontend (hks k hk)).map fun f hf =>
    hm.put hf) hm

end Topology

/-! ## Rules -/

namespace Access

/-- Ensuring a rule on an own frontend spares foreign rules. -/
theorem sparing_ensureRule {site : Site} {f : Frontend} {desired : DesiredRule}
    (hf : OwnFrontend s c0 f) : Sparing s c0 (fun _ => True) (ensureRule site f desired) := by
  obtain ⟨step, heq, hstep⟩ := ensureRule_steps site f desired
  rw [heq]
  refine (Site.sparing_findRule hf).orNone.bind fun found hfound => ?_
  cases hstep found with
  | removed r _ hp =>
    exact hp ▸ Site.sparing_change (.deleteRule ..) (hfound r rfl) fun _ _ _ _ _ => trivial
  | created _ hp =>
    rw [hp]
    refine Confined.discard (P := fun _ => True) (Site.sparing_in_zone ?_)
    exact sparing_ofExcept.bind fun spec _ => confined_request hf fun _ _ _ _ _ => trivial
  | replaced r _ _ hp =>
    rw [hp]
    refine Confined.discard (P := fun _ => True) (Site.sparing_in_zone ?_)
    exact sparing_ofExcept.bind fun spec _ => confined_request (hfound r rfl) fun _ _ _ _ _ => trivial
  | absent _ hp | kept _ _ _ hp => exact hp ▸ trivial

/-- Ensuring several rules on an own frontend spares foreign rules. -/
theorem sparing_ensureRules {site : Site} {f : Frontend} {desired : List DesiredRule}
    (hf : OwnFrontend s c0 f) : Sparing s c0 (fun _ => True) (ensureRules site f desired) := by
  rw [ensureRules_eq]
  exact (confined_closed _ _).forM fun d _ => sparing_ensureRule hf

/-- Copying rules to an own frontend spares foreign rules. -/
theorem sparing_copyTo {site : Site} {rules : List Rule} {f : Frontend} (hf : OwnFrontend s c0 f) :
    Sparing s c0 (fun _ => True) (copyTo site rules f) := by
  obtain ⟨step, heq, hstep⟩ := copyTo_steps site rules f
  rw [heq]
  refine Site.listRules_readOnly.sparing.bind fun others _ => ?_
  cases hstep others with
  | agreed _ hp => exact hp ▸ trivial
  | copied _ hp =>
    rw [hp]
    exact Confined.discard (P := fun _ => True)
      (Site.sparing_change (.setRules ..) hf fun _ _ _ _ _ => trivial)

/-- Copying rules to several own frontends spares foreign rules. -/
theorem sparing_copyRules {site : Site} {primaryId : String} {rules : List Rule}
    {m : FrontendMap} (hm : Topology.OwnFrontends s c0 m) :
    Sparing s c0 (fun _ => True) (copyRules site primaryId rules m) := by
  rw [copyRules_eq]
  exact (confined_closed _ _).forM fun e he => sparing_copyTo (hm e (List.mem_of_mem_filter he))

/-- The rules phase spares foreign rules. -/
theorem sparing_sync {primaryId : String} {m : FrontendMap}
    (hm : Topology.OwnFrontends s c0 m) :
    Sparing s c0 (fun _ => True) (sync s primaryId m) := by
  cases hf : m.lookup primaryId with
  | none => exact sync_of_none hf ▸ trivial
  | some f =>
    rw [sync_of_some hf]
    have hown : OwnFrontend s c0 f := by
      obtain ⟨_, _, rfl, _⟩ := List.lookup_eq_some_iff.1 hf
      exact hm _ (List.mem_append_right _ List.mem_cons_self)
    refine desiredRules_readOnly.sparing.bind fun desired _ => ?_
    refine (sparing_ensureRules hown).bind fun _ _ => ?_
    cases spread_steps s.site primaryId f m with
    | alone _ hp => exact hp ▸ trivial
    | copied _ hp => exact hp ▸ Site.listRules_readOnly.sparing.bind fun _ _ => sparing_copyRules hm

end Access

/-! ## Whole runs -/

/-- A run for a cluster acts on nothing foreign. -/
theorem Topology.sparing_reconcile :
    Sparing s c0 (fun _ => True) (Topology.reconcile s) := by
  unfold Topology.reconcile
  refine sparing_ensurePrimary.bind fun primary hprimary => ?_
  refine sparing_ensureSecondaries.bind fun secondaries hsecondaries => ?_
  refine sparing_ofExcept.bind fun _ _ => ?_
  have hall : ∀ b ∈ secondaries ++ [primary], OwnBalancer s c0 b :=
    List.forall_mem_append.2 ⟨hsecondaries, List.forall_mem_singleton.2 hprimary⟩
  refine (sparing_ensurePrivateNetwork hall).bind fun resolved hresolved => ?_
  -- The primary is the last of those that the network step hands on.
  have hlast : OwnBalancer s c0 (resolved.getLastD primary) := by
    rcases List.eq_nil_or_concat resolved with rfl | ⟨_, b, rfl⟩
    · exact hprimary
    · rw [List.concat_eq_append, List.getLastD_concat]
      exact hresolved b (by simp)
  have hothers : ∀ b ∈ resolved.dropLast, OwnBalancer s c0 b :=
    fun b hb => hresolved b (List.dropLast_subset _ hb)
  refine (sparing_ensureBackends hlast hothers).bind fun backends hbackends => ?_
  refine (sparing_ensureFrontends (List.forall_mem_nil _) hbackends).bind fun frontends hfrontends => ?_
  refine (Access.sparing_sync hfrontends).bind fun _ _ => ?_
  unfold publish
  refine sparing_ofExcept.bind fun main _ => ?_
  exact sparing_ofExcept.bind fun others _ => trivial

/-- The deletion of a cluster acts on nothing foreign. -/
theorem Topology.sparing_delete : Sparing s c0 (fun _ => True) (Topology.delete s) :=
  sparing_deletePrimary.bind fun _ _ => sparing_ensureSecondaries.discard

namespace Member

variable {bs : List LoadBalancer}

/-- The load balancers that a member finds are the cluster's own. -/
theorem sparing_findBalancers (m : Member) :
    Sparing m.scope c0 (fun bs => ∀ b ∈ bs, OwnBalancer m.scope c0 b) m.findBalancers := by
  refine sparing_ofExcept.bind fun zone _ => ?_
  refine (Site.sparing_findBalancer fun _ => Topology.owns_of_primaryTags).bind
    fun primary hprimary => ?_
  refine (Site.sparing_findBalancers fun _ => Topology.owns_of_secondaryTags).bind
    fun secondaries hsecondaries => ?_
  exact List.forall_mem_append.2 ⟨hsecondaries, List.forall_mem_singleton.2 hprimary⟩

/-- Acting on own load balancers that are live spares foreign ones if the single actions do. -/
theorem sparing_eachLive {act : LoadBalancer → Program Unit}
    (hact : ∀ b, OwnBalancer s c0 b → Sparing s c0 (fun _ => True) (act b))
    (hbs : ∀ b ∈ bs, OwnBalancer s c0 b) : Sparing s c0 (fun _ => True) (eachLive act bs) := by
  rw [eachLive_eq]
  exact (confined_closed _ _).forM fun b hb => hact b (hbs b (List.mem_of_mem_filter hb))

/-- Registering a node with the pool of an own load balancer spares foreign ones. -/
theorem sparing_ensureServer {site : Site} {node : String} {deletion : Bool} {b : LoadBalancer}
    (hb : OwnBalancer s c0 b) :
    Sparing s c0 (fun _ => True) (ensureServer site node deletion b) := by
  obtain ⟨step, heq, hstep⟩ := ensureServer_steps site node deletion b
  rw [heq]
  refine (Site.sparing_findBackend hb).bind fun k hk => ?_
  cases hstep k with
  | removed _ _ hp => exact hp ▸ Site.sparing_change (.removeServer ..) hk.2 fun _ _ _ _ _ => trivial
  | added _ _ hp => exact hp ▸ Site.sparing_change (.addServer ..) hk.2 fun _ _ _ _ _ => trivial
  | kept _ hp => exact hp ▸ trivial

/-- Ensuring the rule of a member at an own load balancer spares foreign ones. -/
theorem sparing_ensureRule (m : Member) {addresses : List String} {deletion : Bool}
    {b : LoadBalancer} (hb : OwnBalancer m.scope c0 b) :
    Sparing m.scope c0 (fun _ => True) (m.ensureRule addresses deletion b) := by
  have hfind : Sparing m.scope c0 (fun found => ∀ f ∈ found, OwnFrontend m.scope c0 f)
      ((some <$> m.scope.site.findFrontend b.zone b.id Topology.frontendName).handle fun e =>
        if deletion && e.isIgnored [.notFound] then .done none else .fail e) := by
    refine Confined.handle ((Site.sparing_findFrontend hb).map fun f hf => ?_) fun e => ?_
    · rintro _ ⟨⟩
      exact hf
    · split
      · exact nofun
      · trivial
  refine hfind.bind fun found hfound => ?_
  cases found with
  | none => trivial
  | some f => exact Access.sparing_ensureRule (hfound f rfl)

/-- A run that registers a member acts on nothing foreign. -/
theorem sparing_reconcile (m : Member) (node : String) (addresses : List String) :
    Sparing m.scope c0 (fun _ => True) (m.reconcile node addresses) := by
  refine m.sparing_findBalancers.bind fun bs hbs => ?_
  refine (sparing_eachLive (fun b hb => sparing_ensureServer hb) hbs).bind fun _ _ => ?_
  exact sparing_eachLive (fun b hb => m.sparing_ensureRule hb) hbs

/-- A run that removes a member acts on nothing foreign. -/
theorem sparing_delete (m : Member) (node : String) :
    Sparing m.scope c0 (fun _ => True) (m.delete node) := by
  refine m.sparing_findBalancers.orNone.bind fun found hfound => ?_
  have hbs : ∀ b ∈ found.getD [], OwnBalancer m.scope c0 b := by
    cases found with
    | none => exact nofun
    | some bs => exact hfound bs rfl
  refine (sparing_eachLive (fun b hb => m.sparing_ensureRule hb) hbs).bind fun _ _ => ?_
  exact sparing_eachLive (fun b hb => sparing_ensureServer hb) hbs

end Member

/-- No job acts on anything foreign. -/
theorem Job.sparing (j : Job) : Sparing s c0 (fun _ => True) (j.program s) := by
  cases j with
  | reconcile => exact Topology.sparing_reconcile
  | delete => exact Topology.sparing_delete
  | register name node addresses => exact Member.sparing_reconcile ⟨s, name⟩ node addresses
  | remove name node => exact Member.sparing_delete ⟨s, name⟩ node

end

/-! ## Other clusters -/

/-- Texts are different if their first characters are. -/
theorem append_ne_of_take {a b x y : String} (n : Nat) (ha : n ≤ a.toList.length)
    (hb : n ≤ b.toList.length) (h : a.toList.take n ≠ b.toList.take n) : a ++ x ≠ b ++ y := by
  intro heq
  have hlists := congrArg (List.take n) (congrArg String.toList heq)
  rw [String.toList_append, String.toList_append, List.take_append_of_le_length ha,
    List.take_append_of_le_length hb] at hlists
  exact h hlists

/-- The tags that every resource of a cluster has tell its namespace and its name. -/
theorem Scope.eq_of_tags_subset {s s' : Scope} (h : s.tags [] ⊆ s'.tags []) :
    (s.cluster.namespaceName, s.cluster.name) =
      (s'.cluster.namespaceName, s'.cluster.name) := by
  have hcreated : Tag.createdBy = "created-by=" ++ "cluster-provisioner" := by decide +kernel
  have hnamespace : "cluster-namespace=" ++ s.cluster.namespaceName ∈ s'.tags [] :=
    h (by simp [Scope.tags])
  have hname : "cluster-name=" ++ s.cluster.name ∈ s'.tags [] := h (by simp [Scope.tags])
  simp only [Scope.tags, List.append_nil, List.mem_cons, List.not_mem_nil, or_false, hcreated]
    at hnamespace hname
  -- The keys differ within as many characters as the shorter one has.
  have hother : ∀ x y, "cluster-namespace=" ++ x ≠ "cluster-name=" ++ y := fun _ _ =>
    append_ne_of_take 13 (by decide +kernel) (by decide +kernel) (by decide +kernel)
  have hfirst : ∀ x y, "cluster-namespace=" ++ x ≠ "created-by=" ++ y := fun _ _ =>
    append_ne_of_take 2 (by decide +kernel) (by decide +kernel) (by decide +kernel)
  have hsecond : ∀ x y, "cluster-name=" ++ x ≠ "created-by=" ++ y := fun _ _ =>
    append_ne_of_take 2 (by decide +kernel) (by decide +kernel) (by decide +kernel)
  rw [Prod.mk.injEq]
  constructor
  · rcases hnamespace with heq | heq | heq
    · exact (hfirst _ _ heq).elim
    · exact (String.append_right_inj _).1 heq
    · exact (hother _ _ heq).elim
  · rcases hname with heq | heq | heq
    · exact (hsecond _ _ heq).elim
    · exact (hother _ _ heq.symm).elim
    · exact (String.append_right_inj _).1 heq

/-- What is made for a cluster is not owned by one of another namespace or name. -/
theorem Scope.owns_eq_false_of_ne {s s' : Scope}
    (h : (s.cluster.namespaceName, s.cluster.name) ≠
      (s'.cluster.namespaceName, s'.cluster.name)) {tags : List String}
    (htags : tags ∈ s'.madeWith) : s.owns tags = false := by
  rw [Bool.eq_false_iff]
  intro howns
  -- The tags of either role contain those that name the cluster.
  have hall : ∀ t ∈ s.tags [], t ∈ tags := by
    intro t ht
    unfold Scope.owns at howns
    rw [Bool.or_eq_true, hasTags_iff, hasTags_iff] at howns
    exact howns.elim (fun h => h t (List.mem_append_left _ ht))
      fun h => h t (List.mem_append_left _ ht)
  -- The other cluster adds tags of roles, and these start differently from one that names a
  -- cluster.
  obtain ⟨more, rfl, hmore⟩ :
      ∃ more, tags = s'.tags [] ++ more ∧ ∀ t ∈ more, t.toList.head? = some 'l' := by
    simp only [Scope.madeWith, List.mem_cons, List.not_mem_nil, or_false] at htags
    rcases htags with rfl | rfl | rfl
    · exact ⟨[Tag.primary], rfl, by decide +kernel⟩
    · exact ⟨[Tag.secondary], rfl, by decide +kernel⟩
    · exact ⟨[Tag.secondary, Tag.managedAddress], rfl, by decide +kernel⟩
  refine h (Scope.eq_of_tags_subset fun t ht => ?_)
  refine (List.mem_append.1 (hall t ht)).resolve_right fun hl => ?_
  exact Topology.tag_ne s (hmore t hl) ht

/-- A run for a cluster from `c` to `c'` leaves everything alone that is not the cluster's: the load
balancers without its ownership tags or without those of a role, and in particular those that were
made for a cluster of another namespace or name, with all that is under them. -/
structure Isolated (s : Scope) (c c' : Cloud) : Prop where
  balancers : (c'.balancers.filter fun b => !s.owns b.tags) =
    c.balancers.filter fun b => !s.owns b.tags
  foreign : ∀ b ∈ c.balancers, s.owns b.tags = false → Cloud.Keeps b c c'
  neighbours : ∀ s' : Scope, (s.cluster.namespaceName, s.cluster.name) ≠
      (s'.cluster.namespaceName, s'.cluster.name) →
    ∀ b ∈ c.balancers, b.tags ∈ s'.madeWith → Cloud.Keeps b c c'

/-- Every run of every job is isolated, however it is disturbed, returning or not. -/
theorem runs_in_isolation (s : Scope) (j : Job) (deadline : Option Seconds) (x : Session Trial)
    (hx : x.cloud.Sound) :
    Isolated s x.cloud ((j.program s).run Trial.provider deadline x).2.cloud := by
  have hintact : Cloud.Intact s.owns x.cloud
      ((j.program s).run Trial.provider deadline x).2.cloud :=
    j.sparing.run (fun _ _ hr hc => hc.answer hr) (Cloud.Intact.refl hx)
  have hforeign : ∀ b ∈ x.cloud.balancers, s.owns b.tags = false → Cloud.Keeps b x.cloud _ :=
    fun b hb hb' => hintact.keeps hb hb'
  exact ⟨hintact.balancers, hforeign, fun s' hne b hb htags =>
    hforeign b hb (Scope.owns_eq_false_of_ne hne htags)⟩

/-- A cluster of the same name as the sample, in another namespace. -/
def Sample.neighbour : Scope where
  site := (Sample.scope []).site
  cluster := { (Sample.scope []).cluster with namespaceName := "other" }

/-- A session on the sample's cloud in which no backend can be made. -/
def Sample.withoutBackends : Session Trial where
  world :=
    { now := 0
      canceled := false
      store :=
        { cloud := Sample.cloud
          disturbances := [{
            endpoint := "create_backend", failure := some (.ofFault ⟨.general, .noTags⟩) }] } }

/-- The neighbour's run fails midway, and leaves the sample alone. -/
theorem sample_run_in_isolation :
    let run := (Job.reconcile.program Sample.neighbour).run Trial.provider none
      Sample.withoutBackends
    run.1.isOk = false ∧ Isolated Sample.neighbour Sample.cloud run.2.cloud :=
  ⟨by decide +kernel, runs_in_isolation _ .reconcile none Sample.withoutBackends Sample.cloud_sound⟩

end ControlPlane
