import ControlPlane.Proofs.Provider.Tracking
import ControlPlane.Proofs.Topology.Undergrowth

/-!
# How load balancers are made and removed

`Handles` says under which circumstances a job makes a load balancer or removes one. A primary is
made by a reconciliation only, in the zone and under the address that are declared then. A secondary
is made under an address that is declared for it, or with a mark that it is given one. A primary is
removed by a deletion only, with its address unless one is declared then; a secondary may be removed
by either, with its address if it has the mark.

`Job.tracked` says that every job keeps to this, whatever fails on the way: also a look-up that
fails as if nothing was found, so that a second primary is made.
-/

namespace ControlPlane

open Program hiding ofExcept

/-! ## What a request does to load balancers -/

namespace Cloud

variable {c : Cloud} {b : LoadBalancer} {r : Request}

/-- After a request, a load balancer is an old one, but for its type, or it has been made. -/
theorem origin_answer (hb : b ∈ (c.answer r).2.balancers) :
    (∃ b0 ∈ c.balancers, b = { b0 with type := b.type }) ∨
      ∃ zone name type addressId isPrivate tags,
        r = .createBalancer zone name type addressId isPrivate tags ∧
        c.createBalancer zone name type addressId isPrivate tags = (.ok b, (c.answer r).2) := by
  have hsame : (c.answer r).2.balancers = c.balancers → ∃ b0 ∈ c.balancers,
      b = { b0 with type := b.type } := fun heq => ⟨b, heq ▸ hb, rfl⟩
  by_cases hr : r.LeavesBalancers
  · exact .inl (hsame (Cloud.balancers_answer hr c))
  rcases hv : c.answer r with ⟨e | v, c'⟩
  · rw [hv] at hsame
    exact .inl (hsame (congrArg (fun c => c.balancers) (eq_of_refused hv)))
  rw [hv] at hb
  cases r with
  | createBalancer zone name type addressId isPrivate tags =>
    -- It is an old one, or the one that the request has made.
    have hbalancers : c'.balancers = c.balancers ++ [v] :=
      congrArg Cloud.balancers (createBalancer_effect hv).2.2
    rw [hbalancers, List.mem_append, List.mem_singleton] at hb
    rcases hb with hold | rfl
    · exact .inl ⟨b, hold, rfl⟩
    · exact .inr ⟨zone, name, type, addressId, isPrivate, tags, rfl, hv⟩
  | migrateBalancer zone id type =>
    rw [(migrateBalancer_effect hv).2] at hb
    obtain ⟨b0, hb0, rfl⟩ := List.mem_map.1 hb
    refine .inl ⟨b0, hb0, ?_⟩
    split <;> rfl
  | deleteBalancer zone id release =>
    rw [(deleteBalancer_effect hv).2] at hb
    exact .inl ⟨b, List.mem_of_mem_filter hb, rfl⟩
  | _ => exact absurd trivial hr

/-- A load balancer stays, but for its type, unless its deletion is asked for. -/
theorem persists_answer (hb : b ∈ c.balancers)
    (hkept : ∀ zone release, r ≠ .deleteBalancer zone b.id release) :
    ∃ type, { b with type } ∈ (c.answer r).2.balancers := by
  have hsame : (c.answer r).2.balancers = c.balancers →
      ∃ type, { b with type } ∈ (c.answer r).2.balancers := fun heq => ⟨b.type, heq ▸ hb⟩
  by_cases hr : r.LeavesBalancers
  · exact hsame (Cloud.balancers_answer hr c)
  rcases hv : c.answer r with ⟨e | v, c'⟩
  · rw [hv] at hsame
    exact hsame (congrArg (fun c => c.balancers) (eq_of_refused hv))
  show ∃ type, { b with type } ∈ c'.balancers
  cases r with
  | createBalancer =>
    have hbalancers : c'.balancers = c.balancers ++ [v] :=
      congrArg Cloud.balancers (createBalancer_effect hv).2.2
    rw [hbalancers]
    exact ⟨b.type, List.mem_append_left _ hb⟩
  | migrateBalancer zone id type =>
    -- The type of one load balancer changes, maybe of this one.
    rw [(migrateBalancer_effect hv).2]
    refine ⟨if b.id = id then type else b.type, List.mem_map.2 ⟨b, hb, ?_⟩⟩
    split <;> rfl
  | deleteBalancer zone id release =>
    -- Another one is deleted.
    have hne : b.id ≠ id := fun heq => hkept zone release (heq ▸ rfl)
    rw [(deleteBalancer_effect hv).2]
    exact ⟨b.type, List.mem_filter.2 ⟨hb, decide_eq_true hne⟩⟩
  | _ => exact absurd trivial hr

end Cloud

namespace Topology

variable {s : Scope} {j : Job} {c c' : Cloud}

/-! ## Requests -/

/-- A request with which a job makes or removes a load balancer as it should, or any other. -/
def Handles (s : Scope) (j : Job) (c : Cloud) : Request → Prop
  | .createBalancer zone _ _ addressId _ tags => zone ∈ s.site.zones ∧
      ((j = .reconcile ∧ tags = primaryTags s ∧ s.site.region.resolve s.primary.zone = .ok zone ∧
          FoundFor c s.primary.address addressId) ∨
        ∃ address more, tags = Secondary.tags s ++ more ∧
          more = (if address = none then [Tag.managedAddress] else []) ∧
          FoundFor c address addressId)
  | .deleteBalancer zone id release => ∀ b ∈ c.balancers, b.id = id →
      (j = .delete ∧ hasTags b.tags (primaryTags s) = true ∧ b.zone = zone ∧
          release = decide (s.primary.address = none)) ∨
        (hasTags b.tags (Secondary.tags s) = true ∧ release = decide (Tag.managedAddress ∈ b.tags))
  | _ => True

/-- A look-up makes and removes nothing. -/
theorem handles_of_lookup {r : Request} (h : r.isMutation = false) : Handles s j c r := by
  cases r <;> first
    | exact trivial
    | cases h

/-- A request that leaves load balancers makes and removes none. -/
theorem handles_of_leavesBalancers {r : Request} (h : r.LeavesBalancers) : Handles s j c r := by
  cases r <;> first
    | exact trivial
    | exact h.elim

/-- Ids name resources, and no load balancer has two roles. -/
structure Tidy (s : Scope) (c : Cloud) : Prop where
  sound : c.Sound
  roles : RolesApart s c

/-- The program makes and removes load balancers as the job should, as long as the clouds that it
goes on are tidy. -/
abbrev Handling (s : Scope) (j : Job) {α : Type} (P : α → Cloud → Prop) (p : Program α)
    (c : Cloud) : Prop :=
  p.Tracked (Handles s j) (Tidy s) P c

/-- Before a request for a zone, the zone is checked. -/
theorem handling_checked {site : Site} {zone : String} {r : Request} (hc : Tidy s c)
    (hr : zone ∈ site.zones → Handles s j c r) :
    Handling s j (fun v c' => c.answer r = (.ok v, c'))
      (site.checkZone zone >>= fun _ => request r) c := by
  refine (tracked_ofExcept _).bind hc ?_
  rintro _ c1 _ ⟨hcheck, rfl⟩
  exact tracked_request (hr (Region.checkZone_eq_ok.1 hcheck))

/-- What is found is there, and is as it was looked for. -/
theorem handling_findBalancer {site : Site} {zone : String} {tags : List String} (hc : Tidy s c) :
    Handling s j (fun b c' => b ∈ c'.balancers ∧ hasTags b.tags tags = true ∧ b.zone = zone)
      (site.findBalancer zone tags) c := by
  refine (tracked_ofExcept _).bind hc ?_
  rintro _ c1 _ ⟨_, rfl⟩
  refine (tracked_ofExcept _).bind hc ?_
  rintro _ c2 _ ⟨_, rfl⟩
  refine (tracked_request (handles_of_lookup rfl)).bind hc ?_
  rintro found c3 _ ⟨⟩
  refine (tracked_ofExcept _).mono hc ?_
  rintro b c' _ ⟨hsingle, rfl⟩
  have hmem : b ∈ (c'.balancers.filter (·.zone = zone)).filter (hasTags ·.tags tags) :=
    single_eq_ok.1 hsingle ▸ List.mem_singleton_self b
  obtain ⟨hzone, htags⟩ := List.mem_filter.1 hmem
  obtain ⟨hmem, hzone⟩ := List.mem_filter.1 hzone
  exact ⟨hmem, htags, of_decide_eq_true hzone⟩

/-- The id that is found is that of the declared address. -/
theorem handling_findAddressId {site : Site} {zone address : String} (hc : Tidy s c) :
    Handling s j (fun id c' => FoundFor c' (some address) (some id))
      (findAddressId site zone address) c := by
  -- What the look-up finds is an address of the cloud.
  have hfind : Handling s j (fun a c' => a ∈ c'.addresses ∧ a.address = address)
      (site.findAddress zone address) c := by
    refine (tracked_ofExcept _).bind hc ?_
    rintro _ c1 _ ⟨_, rfl⟩
    refine (tracked_request (handles_of_lookup rfl)).bind hc ?_
    rintro found c2 _ ⟨⟩
    refine (tracked_ofExcept _).mono hc ?_
    rintro a c' _ ⟨hsingle, rfl⟩
    have hmem : a ∈ (c'.addresses.filter (·.zone = zone)).filter (·.address = address) :=
      single_eq_ok.1 hsingle ▸ List.mem_singleton_self a
    obtain ⟨hzone, haddress⟩ := List.mem_filter.1 hmem
    exact ⟨List.mem_of_mem_filter hzone, of_decide_eq_true haddress⟩
  refine (hfind.handle hc fun e c' _ => ?_).map hc ?_
  · split <;> trivial
  · rintro a c' _ ⟨ha, rfl⟩
    refine ⟨rfl, ?_⟩
    rintro _ ⟨⟩
    exact ⟨a, ha, rfl, rfl⟩

/-! ## The primary -/

/-- Ensuring the primary leaves one, whatever has failed to be found. -/
theorem handling_ensurePrimary (hc : Tidy s c) :
    Handling s .reconcile (fun _ c' => ∃ b ∈ c'.balancers, IsPrimary s b) (ensurePrimary s) c := by
  obtain ⟨step, heq, hstep⟩ := ensurePrimary_steps s
  rw [heq]
  refine (tracked_ofExcept _).bind hc ?_
  rintro zt _ _ ⟨hok, rfl⟩
  have hzone := (BalancerSpec.resolve_eq_ok hok).1
  -- It is made under the address that has been found, if one is declared.
  have hmake : ∀ addressId c1, Tidy s c1 → FoundFor c1 s.primary.address addressId →
      Handling s .reconcile (fun _ c' => ∃ b ∈ c'.balancers, IsPrimary s b)
        (s.site.createBalancer zt.1 (s.resourceName []) zt.2 addressId (primaryTags s)
          s.balancersPrivate >>= fun b =>
            done { b with privateAddress := s.primary.privateAddress }) c1 := by
    intro addressId c1 h1 haddress
    refine Tracked.bind (P := fun _ c' => ∃ b ∈ c'.balancers, IsPrimary s b) ?_ h1
      fun _ _ _ h => h
    refine (handling_checked (r := .createBalancer _ _ _ _ _ _) h1 fun hmem =>
      ⟨hmem, .inl ⟨rfl, rfl, hzone, haddress⟩⟩).mono h1 fun b c2 _ hb => ?_
    obtain ⟨heq, _, hc2⟩ := Cloud.createBalancer_effect hb
    have hbzone : b.zone = zt.1 := congrArg LoadBalancer.zone heq
    have hbtags : b.tags = primaryTags s := congrArg LoadBalancer.tags heq
    have hbalancers : c2.balancers = c1.balancers ++ [b] := congrArg Cloud.balancers hc2
    refine ⟨b, hbalancers ▸ List.mem_append_right _ (List.mem_singleton_self b), ?_, ?_⟩
    · rw [hbzone]
      exact hzone
    · rw [hbtags]
      exact hasTags_iff.2 fun _ ht => ht
  refine ((handling_findBalancer hc).orNone hc).bind hc fun found c1 h1 hfound => ?_
  cases hstep zt found with
  -- There is none, or the look-up has failed as if there were none.
  | pinned address haddress hp =>
    rw [hp]
    refine (handling_findAddressId h1).bind h1 fun id c2 h2 h => ?_
    exact hmake (some id) c2 h2 (haddress ▸ h)
  | created haddress hp => exact hp ▸ hmake none c1 h1 ⟨by rw [haddress], nofun⟩
  | kept b _ hp =>
    obtain ⟨hmem, htags, hbzone⟩ := hfound b rfl
    rw [hp]
    exact ⟨b, hmem, hbzone ▸ hzone, htags⟩
  | migrated b _ hp =>
    obtain ⟨hmem, htags, hbzone⟩ := hfound b rfl
    rw [hp]
    refine Tracked.bind (P := fun _ c' => ∃ b ∈ c'.balancers, IsPrimary s b) ?_ h1
      fun _ _ _ h => h
    refine (handling_checked (r := .migrateBalancer _ _ _) h1 fun _ => trivial).mono h1
      fun q c2 _ hq => ?_
    obtain ⟨type, hq'⟩ := Cloud.persists_answer (r := .migrateBalancer zt.1 b.id (Text.lower zt.2))
      hmem nofun
    rw [hq] at hq'
    exact ⟨_, hq', hbzone ▸ hzone, htags⟩

/-- When a cluster is deleted, its primary is removed as it should be. -/
theorem handling_deletePrimary (hc : Tidy s c) :
    Handling s .delete (fun _ _ => True) (deletePrimary s) c := by
  cases hresolve : s.primary.resolve s.site.region with
  | error e => exact deletePrimary_of_error hresolve ▸ trivial
  | ok zt =>
    obtain ⟨step, heq, hstep⟩ := deletePrimary_steps hresolve
    rw [heq]
    refine ((handling_findBalancer hc).orNone hc).bind hc fun found c1 h1 hfound => ?_
    cases hstep found with
    | gone hp => exact hp ▸ trivial
    | deleted b hp =>
      rw [hp]
      obtain ⟨hmem, htags, hzone⟩ := hfound b rfl
      refine (handling_checked (r := .deleteBalancer _ _ _) h1 fun _ x hx hid => ?_).mono h1
        fun _ _ _ _ => trivial
      -- Whatever has the id is what has been found.
      rw [h1.sound.balancers.inj hx hmem hid]
      exact .inl ⟨rfl, htags, hzone, rfl⟩

end Topology

/-! ## The secondaries -/

namespace Secondary

open ControlPlane.Topology
open ControlPlane.Topology.Reversible (Listed)

variable {s : Scope} {j : Job} {c c' : Cloud} {b : LoadBalancer} {d : BalancerSpec}
  {wanted : List (String × List BalancerSpec)} {taken : List (String × String)}
  {live : List LoadBalancer}

/-- What has not been made was there before, but for its type. -/
theorem origin_of_answer {r : Request} {v : r.Reply} (hv : c.answer r = (.ok v, c'))
    (hr : r.MakesNone) :
    ∀ x ∈ c'.balancers, ∃ x0 ∈ c.balancers, x = { x0 with type := x.type } := by
  intro x hx
  have hx' : x ∈ (c.answer r).2.balancers := by rwa [hv]
  refine (Cloud.origin_answer hx').resolve_right ?_
  rintro ⟨_, _, _, _, _, _, rfl, _⟩
  exact hr

/-- A listed load balancer is removed as it should be, and those that stay keep all but their type.
-/
theorem handling_delete (hc : Tidy s c) (hb : Listed s c b) :
    Handling s j (fun _ c' => ∀ x ∈ c'.balancers, ∃ x0 ∈ c.balancers, x = { x0 with type := x.type })
      (delete s b) c := by
  refine (handling_checked (r := .deleteBalancer _ _ _) hc fun _ x hx hid => ?_).mono hc
    fun _ c' _ hv => origin_of_answer hv trivial
  have htags := hb.2 x hx hid
  rw [htags]
  exact .inr ⟨hb.1, rfl⟩

/-- Updating keeps all of the load balancers but their type. -/
theorem handling_update (hc : Tidy s c) :
    Handling s j (fun _ c' => ∀ x ∈ c'.balancers, ∃ x0 ∈ c.balancers, x = { x0 with type := x.type })
      (update s b d) c := by
  have hself : ∀ x ∈ c.balancers, ∃ x0 ∈ c.balancers, x = { x0 with type := x.type } :=
    fun x hx => ⟨x, hx, rfl⟩
  cases update_steps s b d with
  | kept _ hp => exact hp ▸ hself
  | migrated t _ _ hp =>
    rw [hp]
    refine Tracked.bind (P := fun _ c' => ∀ x ∈ c'.balancers, ∃ x0 ∈ c.balancers,
      x = { x0 with type := x.type }) ?_ hc fun _ _ _ h => h
    exact (handling_checked (r := .migrateBalancer _ _ _) hc fun _ => trivial).mono hc
      fun _ c' _ hv => origin_of_answer hv trivial

/-- What is listed has its tags until it is deleted, since nothing is made before the end. -/
theorem handling_retain (hc : Tidy s c) (hlive : ∀ b ∈ live, Listed s c b) :
    Handling s j (fun _ _ => True) ((reconciler s).retain wanted taken live) c := by
  induction live generalizing c taken with
  | nil => trivial
  | cons b rest ih =>
    obtain ⟨hb, hrest⟩ := List.forall_mem_cons.1 hlive
    -- It goes this way if nothing matches, and if what matches is not fit.
    have hdelete : Handling s j (fun _ _ => True)
        (delete s b >>= fun _ => (reconciler s).retain wanted taken rest) c :=
      (handling_delete hc hb).bind hc fun _ c1 h1 horigin =>
        ih h1 fun x hx => (hrest x hx).of_origin horigin
    rw [retain_cons]
    split
    · exact hdelete
    · refine (keeps_readOnly.tracked fun _ _ h => handles_of_lookup h).bind hc ?_
      rintro kept c1 _ rfl
      split
      · refine (handling_update hc).bind hc fun r c2 h2 horigin => ?_
        exact (ih h2 fun x hx => (hrest x hx).of_origin horigin).bind h2 fun _ _ _ _ => trivial
      · exact hdelete

/-- A secondary is made under an address that has been found, or with the mark. -/
theorem handling_create (hc : Tidy s c) {zone name : String} :
    Handling s j (fun _ _ => True) (create s zone name d) c := by
  -- The two ways to create one differ in the address that is bound and in the tags.
  have hmake : ∀ (type : String) addressId more c1, Tidy s c1 → FoundFor c1 d.address addressId →
      more = (if d.address = none then [Tag.managedAddress] else []) →
      Handling s j (fun _ _ => True)
        (s.site.createBalancer zone name type addressId (tags s ++ more) s.balancersPrivate >>=
          fun b => done { b with privateAddress := d.privateAddress }) c1 := by
    intro type addressId more c1 h1 haddress hmore
    refine Tracked.bind (P := fun _ _ => True) ?_ h1 fun _ _ _ _ => trivial
    exact (handling_checked (r := .createBalancer _ _ _ _ _ _) h1 fun hzone =>
      ⟨hzone, .inr ⟨d.address, more, rfl, hmore, haddress⟩⟩).mono h1 fun _ _ _ _ => trivial
  obtain ⟨step, heq, hstep⟩ := create_steps s zone name d
  rw [heq]
  refine (tracked_ofExcept _).bind hc ?_
  rintro zt c1 _ ⟨_, rfl⟩
  cases hstep zt with
  | pinned address haddress hp =>
    rw [hp]
    refine (handling_findAddressId hc).bind hc fun addressId c2 h2 hfound => ?_
    have hbare := hmake zt.2 (some addressId) [] c2 h2 (haddress ▸ hfound) (by rw [haddress]; rfl)
    rwa [List.append_nil] at hbare
  | managed haddress hp =>
    rw [hp]
    exact hmake zt.2 none [Tag.managedAddress] c1 hc ⟨by rw [haddress], nofun⟩ (if_pos haddress).symm

/-- The secondaries that are missing are made as they should be. -/
theorem handling_createMissing (hc : Tidy s c) {targets : List (String × String × BalancerSpec)} :
    Handling s j (fun _ _ => True) ((reconciler s).createMissing taken targets) c := by
  rw [Reconciler.createMissing_eq]
  exact (tracked_closed (Handles s j) (Tidy s)).mapM' (fun _ _ _ h => handling_create h) c hc

/-- What is listed is there and has the tags. -/
theorem handling_inZones (hc : Tidy s c) {zones wanted : List String} :
    Handling s j (fun bs c' => c' = c ∧ ∀ b ∈ bs, b ∈ c.balancers ∧ hasTags b.tags wanted = true)
      (Site.inZones zones (fun zone => request (.listBalancers zone wanted)) (hasTags ·.tags wanted))
      c := by
  induction zones with
  | nil => exact ⟨rfl, List.forall_mem_nil _⟩
  | cons zone rest ih =>
    refine (tracked_request (handles_of_lookup rfl)).bind hc ?_
    rintro found c1 _ ⟨⟩
    refine ih.bind hc ?_
    rintro more c2 _ ⟨rfl, hmore⟩
    refine ⟨rfl, List.forall_mem_append.2 ⟨fun b hb => ?_, hmore⟩⟩
    obtain ⟨hmem, htags⟩ := List.mem_filter.1 hb
    exact ⟨List.mem_of_mem_filter hmem, htags⟩

/-- Ensuring the secondaries makes and removes load balancers as it should. -/
theorem handling_ensure (hc : Tidy s c) {desired : List BalancerSpec} :
    Handling s j (fun _ _ => True) (ensure s desired) c := by
  rw [ensure_eq]
  split
  · trivial
  · refine ((tracked_ofExcept _).bind hc ?_).bind (P := fun bs c' => c' = c ∧
      ∀ b ∈ bs, b ∈ c.balancers ∧ hasTags b.tags (tags s) = true) hc ?_
    · rintro _ c1 _ ⟨_, rfl⟩
      exact handling_inZones hc
    · rintro live c1 _ ⟨rfl, hlisted⟩
      -- Ids name load balancers, so what has the id of a listed one has its tags.
      have hlive : ∀ b ∈ live, Listed s c1 b := by
        intro b hb
        obtain ⟨hmem, htags⟩ := hlisted b hb
        refine ⟨htags, fun x hx hid => ?_⟩
        rw [hc.sound.balancers.inj hx hmem hid]
      refine (handling_retain hc hlive).bind hc fun kept c2 h2 _ => ?_
      exact (handling_createMissing h2).bind h2 fun _ _ _ _ => trivial

end Secondary

/-! ## Whole jobs -/

namespace Topology

variable {s : Scope} {j : Job} {c : Cloud}

/-- No request of a job but a deletion takes a primary away. -/
theorem primary_stays (hj : j ≠ .delete) {r : Request} (hc : Tidy s c) (hr : Handles s j c r)
    {b : LoadBalancer} (hb : b ∈ c.balancers) (hprimary : hasTags b.tags (primaryTags s) = true) :
    ∃ type, { b with type } ∈ (c.answer r).2.balancers := by
  refine Cloud.persists_answer hb fun zone release heq => ?_
  rw [heq] at hr
  rcases hr b hb rfl with ⟨hdelete, _⟩ | ⟨hsec, _⟩
  · exact hj hdelete
  · exact Bool.false_ne_true ((hc.roles b hb hprimary).symm.trans hsec)

/-- A reconciliation that returns leaves a primary. -/
theorem handling_reconcile (hc : Tidy s c) :
    Handling s .reconcile (fun _ c' => ∃ b ∈ c'.balancers, IsPrimary s b) (reconcile s) c := by
  have hlater : ∀ {α : Type} {p : Program α} {allowed : Request → Prop} {c : Cloud},
      p.Orderly allowed → (∀ r, allowed r → r.LeavesBalancers) →
        Handling s .reconcile (fun _ _ => True) p c := fun hp h =>
    hp.tracked fun _ r hr => handles_of_leavesBalancers (h r hr)
  unfold reconcile
  refine (handling_ensurePrimary hc).bind hc fun primary c1 h1 hprimary => ?_
  have hkeep : ∀ c r, Tidy s c → Handles s .reconcile c r → (∃ b ∈ c.balancers, IsPrimary s b) →
      ∃ b ∈ (c.answer r).2.balancers, IsPrimary s b := by
    rintro c r hc hr ⟨b, hb, hprimary⟩
    obtain ⟨type, hmem⟩ := primary_stays (j := .reconcile) nofun hc hr hb hprimary.2
    exact ⟨_, hmem, hprimary⟩
  -- The primary is there, and so it is enough to follow what comes next without it.
  refine Tracked.mono (P := fun _ c' => True ∧ ∃ b ∈ c'.balancers, IsPrimary s b)
    (Tracked.keep ?_ hkeep h1 hprimary) h1 fun _ _ _ h => h.2
  refine (Secondary.handling_ensure h1).bind h1 fun secondaries c2 h2 _ => ?_
  refine (tracked_ofExcept _).bind h2 fun _ c3 h3 _ => ?_
  refine (hlater ensurePrivateNetwork_orderly fun _ => leavesBalancers_of_network).bind h3
    fun resolved c4 h4 _ => ?_
  refine (hlater ensureBackends_orderly fun r hr => ?_).bind h4 fun backends c5 h5 _ => ?_
  · cases r <;> trivial
  refine (hlater ensureFrontends_orderly fun r hr => ?_).bind h5 fun frontends c6 h6 _ => ?_
  · cases r <;> trivial
  refine (hlater Access.sync_orderly fun r hr => ?_).bind h6 fun _ c7 h7 _ => ?_
  · cases r <;> trivial
  -- Publishing sends no request.
  refine (tracked_ofExcept _).bind h7 fun main c8 h8 _ => ?_
  exact (tracked_ofExcept _).bind h8 fun others c9 _ _ => trivial

/-- When a cluster is deleted, its load balancers are removed as they should be. -/
theorem handling_deletion (hc : Tidy s c) :
    Handling s .delete (fun _ _ => True) (Topology.delete s) c :=
  (handling_deletePrimary hc).bind hc fun _ _ h1 _ => (Secondary.handling_ensure h1).discard h1

end Topology

open ControlPlane.Topology in
/-- Whatever fails on the way, a job makes and removes load balancers as it should. -/
theorem Job.tracked (s : Scope) (j : Job) {c : Cloud} (hc : Tidy s c) :
    Handling s j (fun _ _ => True) (j.program s) c := by
  have hbelow : ∀ {p : Program Unit}, p.Orderly Request.IsBelow →
      Handling s j (fun _ _ => True) p c := fun hp => hp.tracked fun _ r hr => by
    cases r <;> first
      | exact trivial
      | exact hr.elim
  cases j with
  | reconcile => exact (handling_reconcile hc).mono hc fun _ _ _ _ => trivial
  | delete => exact handling_deletion hc
  | register => exact hbelow Member.reconcile_orderly
  | remove => exact hbelow Member.delete_orderly

end ControlPlane
