import ControlPlane.Proofs.Topology.Teardown

/-!
# Secondaries that outlive a run

What is declared for a secondary is looked at twice. Its zone is checked before anything is read, so
that nothing is deleted for a declaration that cannot be met. The public address that it may pin is
only looked up when a load balancer is made for it, and by then all those that cannot be kept are
gone.

Which ones are kept does not depend on how the run ends (`retain_survivors`): at each place the
first that suits what is declared there. If a pinned address is missing, the run fails for good
(`createMissing_fails`). So a declaration that cannot be met destroys every secondary but these
(`missing_pin_spares_iff`).
-/

namespace ControlPlane

open Program hiding ofExcept
open Cloud (numbered)

/-! ## Creations -/

/-- Load balancers have only been added, under ids that were still to be given out. -/
structure Cloud.Grown (c v : Cloud) : Prop where
  nextId : c.nextId ≤ v.nextId
  kept : ∀ x ∈ c.balancers, x ∈ v.balancers
  origin : ∀ x ∈ v.balancers, x ∈ c.balancers ∨ ∃ n, c.nextId ≤ n ∧ x.id = numbered "lb" n

namespace Cloud.Grown

variable {c v : Cloud}

/-- A cloud has grown out of itself. -/
theorem refl (c : Cloud) : c.Grown c := ⟨Nat.le_refl _, fun _ hx => hx, fun _ hx => .inl hx⟩

/-- Answered or refused, a request that is sent to create a load balancer lets a cloud only grow. -/
theorem answer (h : c.Grown v) {r : Request} (hr : r.IsCreation) : c.Grown (v.answer r).2 := by
  cases r with
  | listAddresses => exact h
  | createBalancer zone name type addressId isPrivate tags =>
    rcases hv : v.answer (.createBalancer zone name type addressId isPrivate tags) with ⟨e | b, v'⟩
    -- A refusal uses up an id.
    · have hv' : v.createBalancer zone name type addressId isPrivate tags = (.error e, v') := hv
      unfold createBalancer withFirst at hv'
      cases addressId with
      | some addressId =>
        dsimp only at hv'
        split at hv' <;> cases hv'
        exact ⟨h.nextId.trans (Nat.le_succ _), h.kept, h.origin⟩
      | none =>
        dsimp only at hv'
        split at hv' <;> cases hv'
    · obtain ⟨hb, hnext, hv'⟩ := createBalancer_effect hv
      dsimp only
      rw [hv']
      refine ⟨h.nextId.trans hnext.le, fun x hx => List.mem_append_left _ (h.kept x hx), ?_⟩
      intro x hx
      rcases List.mem_append.1 hx with hx | hx
      · exact h.origin x hx
      · rw [List.mem_singleton.1 hx]
        exact .inr ⟨v.nextId, h.nextId, congrArg LoadBalancer.id hb⟩
  | _ => exact hr.elim

/-- A program of requests that are sent to create load balancers lets a cloud only grow, whether it
returns or fails. -/
theorem of_orderly {α : Type} {p : Program α} (hp : p.Orderly Request.IsCreation) (c : Cloud) :
    c.Grown (p.exec c).2 :=
  hp.upholds (fun _ _ hr h => h.answer hr) (refl c) _ (p.exec_mem_visits c)

/-- An id that was not to be given out any more is that of a load balancer if it was before. -/
theorem exists_iff (h : c.Grown v) {id : String} (hid : ∀ n, c.nextId ≤ n → id ≠ numbered "lb" n) :
    (∃ x ∈ v.balancers, x.id = id) ↔ ∃ x ∈ c.balancers, x.id = id := by
  constructor
  · rintro ⟨x, hx, rfl⟩
    rcases h.origin x hx with hx | ⟨n, hn, heq⟩
    · exact ⟨x, hx, rfl⟩
    · exact absurd heq (hid n hn)
  · rintro ⟨x, hx, rfl⟩
    exact ⟨x, h.kept x hx, rfl⟩

end Cloud.Grown

namespace Secondary

variable {s : Scope} {c c' : Cloud} {b : LoadBalancer} {d : BalancerSpec}
  {desired : List BalancerSpec} {wanted : List (String × List BalancerSpec)}
  {taken : List (String × String)} {live : List LoadBalancer}

/-! ## Which ones are kept -/

/-- On a cloud, a load balancer can be kept for what is declared at its place. -/
def suits (s : Scope) (desired : List BalancerSpec) (c : Cloud) (b : LoadBalancer) : Bool :=
  (declared s desired b).any fun d =>
    (s.balancersPrivate || addressFits b d) && fitsPrivately s c b d

/-- Whether a load balancer can be kept does not change while it is untouched. -/
theorem suits_of_untouched (h : Cloud.Untouched b.id c c') :
    suits s desired c' b = suits s desired c b := by
  unfold suits
  congr 1
  funext d
  rw [fitsPrivately_of_untouched h]

/-- Where a public address is pinned, only a load balancer that holds it suits. -/
theorem holds_of_suits (hpublic : s.balancersPrivate = false) {address : String}
    (hd : declared s desired b = some d) (ha : d.address = some address)
    (h : suits s desired c b = true) : b.holds address = true := by
  unfold suits at h
  rw [hd, Option.any_some, hpublic, Bool.false_or, Bool.and_eq_true, addressFits, ha,
    Bool.and_eq_true] at h
  exact h.1.2

/-- A load balancer is the first at its place that will do, and the place is not taken. -/
def Chosen (fit : LoadBalancer → Bool) (taken : List (String × String)) (live : List LoadBalancer)
    (b : LoadBalancer) : Prop :=
  place b ∉ taken ∧ live.find? (fun x => decide (place x = place b) && fit x) = some b

variable {fit : LoadBalancer → Bool}

/-- What is chosen is one of the live load balancers. -/
theorem Chosen.mem (h : Chosen fit taken live b) : b ∈ live := List.mem_of_find?_eq_some h.2

/-- What is chosen will do. -/
theorem Chosen.fits (h : Chosen fit taken live b) : fit b = true := by
  have hfound := List.find?_some h.2
  rw [Bool.and_eq_true] at hfound
  exact hfound.2

/-- One that will not do, or whose place is taken, is not chosen and keeps no other from it. -/
theorem chosen_cons_of_refused (h : place b ∈ taken ∨ fit b = false) {x : LoadBalancer} :
    Chosen fit taken (b :: live) x ↔ Chosen fit taken live x := by
  refine and_congr_right fun hfree => ?_
  have hskip : (decide (place b = place x) && fit b) = false := by
    rcases h with htaken | hok
    · have hplace : place b ≠ place x := fun heq => hfree (heq ▸ htaken)
      rw [decide_eq_false hplace, Bool.false_and]
    · rw [hok, Bool.and_false]
  rw [List.find?_cons, hskip]

/-- One that will do is chosen, and no other at its place is. -/
theorem chosen_cons_of_kept (hfree : place b ∉ taken) (hok : fit b = true) {x : LoadBalancer} :
    Chosen fit taken (b :: live) x ↔ x = b ∨ Chosen fit (place b :: taken) live x := by
  unfold Chosen
  rw [List.find?_cons, hok, Bool.and_true, List.mem_cons, not_or]
  -- Having been chosen, the first one takes its place from all that come later.
  by_cases hplace : place b = place x
  · rw [decide_eq_true hplace]
    constructor
    · rintro ⟨-, h⟩
      exact .inl (Option.some.inj h).symm
    · rintro (rfl | ⟨⟨hne, -⟩, -⟩)
      · exact ⟨hfree, rfl⟩
      · exact absurd hplace.symm hne
  · rw [decide_eq_false hplace]
    constructor
    · rintro ⟨hx, h⟩
      exact .inr ⟨⟨fun heq => hplace heq.symm, hx⟩, h⟩
    · rintro (rfl | ⟨⟨-, hx⟩, h⟩)
      · exact absurd rfl hplace
      · exact ⟨hx, h⟩

/-- All are chosen exactly if all will do and no two are at one place. -/
theorem forall_chosen_iff (hlive : live.Nodup) :
    (∀ b ∈ live, Chosen fit [] live b) ↔ (∀ b ∈ live, fit b = true) ∧ (live.map place).Nodup := by
  constructor
  · refine fun h => ⟨fun b hb => (h b hb).fits, hlive.map_on fun x hx y hy hplace => ?_⟩
    have hfirst := (h x hx).2
    rw [hplace, (h y hy).2] at hfirst
    exact (Option.some.inj hfirst).symm
  · rintro ⟨hok, hplaces⟩ b hb
    refine ⟨List.not_mem_nil, ?_⟩
    obtain ⟨x, hx⟩ := Cloud.exists_find? (p := fun x => decide (place x = place b) && fit x) hb
      (by rw [decide_eq_true rfl, hok b hb]; rfl)
    have hplace := List.find?_some hx
    rw [Bool.and_eq_true, decide_eq_true_eq] at hplace
    rw [hx, List.inj_on_of_nodup_map hplaces (List.mem_of_find?_eq_some hx) hb hplace.1]

/-- A load balancer that is there can be updated. -/
theorem update_succeeds (hb : b ∈ c.balancers) (hzone : b.zone ∈ s.site.zones) :
    ∃ r c', (update s b d).Returns c r c' := by
  cases update_steps s b d with
  | kept _ hp => exact ⟨_, c, hp ▸ returns_done.2 ⟨rfl, rfl⟩⟩
  | migrated t _ _ hp =>
    obtain ⟨old, hold⟩ := Cloud.exists_find? (p := fun x : LoadBalancer => decide (x.id = b.id)) hb
      (decide_eq_true rfl)
    have hanswer : ∃ r c', c.migrateBalancer b.id (Text.lower t) = (.ok r, c') := by
      unfold Cloud.migrateBalancer Cloud.withFirst
      rw [hold]
      exact ⟨_, _, rfl⟩
    obtain ⟨r, c', hr⟩ := hanswer
    rw [hp]
    exact ⟨_, c', returns_bind.2 ⟨r, c', Site.migrateBalancer_returns.2 ⟨hzone, hr⟩,
      returns_done.2 ⟨rfl, rfl⟩⟩⟩

/-- A load balancer that does not suit, or whose place is taken, is deleted. -/
theorem retain_refuses (hw : (reconciler s).groups desired = .ok wanted)
    (h : place b ∈ taken ∨ suits s desired c b = false) {c1 : Cloud} {kept : List LoadBalancer}
    (hdelete : (delete s b).Returns c () c1)
    (hrest : ((reconciler s).retain wanted taken live).Returns c1 kept c') :
    ((reconciler s).retain wanted taken (b :: live)).Returns c kept c' := by
  have hnext : (delete s b >>= fun _ => (reconciler s).retain wanted taken live).Returns c kept c' :=
    returns_bind.2 ⟨(), c1, hdelete, hrest⟩
  rw [retain_cons]
  rcases hmatch : (reconciler s).match? wanted taken b with _ | d
  · exact hnext
  · obtain ⟨hfree, hd⟩ := (Reconciler.match?_eq_some hw).1 hmatch
    have hunfit := h.resolve_left hfree
    have hd' : declared s desired b = some d := hd
    unfold suits at hunfit
    rw [hd'] at hunfit
    exact returns_bind.2 ⟨false, c, keeps_returns.2 ⟨hunfit.symm, rfl⟩, hnext⟩

/-- A load balancer that suits is updated, if its place is not taken. -/
theorem retain_keeps (hw : (reconciler s).groups desired = .ok wanted) (hfree : place b ∉ taken)
    (h : suits s desired c b = true) : ∃ d, ∀ {live more : List LoadBalancer} {r : LoadBalancer}
      {c1 c' : Cloud},
      (update s b d).Returns c r c1 →
      ((reconciler s).retain wanted (place b :: taken) live).Returns c1 more c' →
      ((reconciler s).retain wanted taken (b :: live)).Returns c (r :: more) c' := by
  unfold suits at h
  rcases hd : declared s desired b with _ | d
  · rw [hd] at h
    cases h
  · rw [hd] at h
    refine ⟨d, fun {live more r c1 c'} hupdate hrest => ?_⟩
    rw [retain_cons, (Reconciler.match?_eq_some hw).2 ⟨hfree, hd⟩]
    exact returns_bind.2 ⟨true, c, keeps_returns.2 ⟨h.symm, rfl⟩,
      returns_bind.2 ⟨r, c1, hupdate, returns_bind.2 ⟨more, c', hrest, returns_done.2 ⟨rfl, rfl⟩⟩⟩⟩

/-- Whatever there is, the first that suits at each place is retained, and no other. -/
theorem retain_survivors (taken : List (String × String))
    (hw : (reconciler s).groups desired = .ok wanted) (hc : c.Sound) (hids : (live.map (·.id)).Nodup)
    (hlive : ∀ b ∈ live, b ∈ c.balancers ∧ b.zone ∈ s.site.zones)
    (hfit : ∀ b ∈ live, suits s desired c b = fit b) :
    ∃ kept c', ((reconciler s).retain wanted taken live).Returns c kept c' ∧
      ∀ id, id ∈ kept.map (·.id) ↔ ∃ b, Chosen fit taken live b ∧ b.id = id := by
  induction live generalizing c taken with
  | nil => exact ⟨[], c, returns_done.2 ⟨rfl, rfl⟩, fun id => iff_of_false List.not_mem_nil nofun⟩
  | cons b rest ih =>
    obtain ⟨⟨hb, hzone⟩, hrest⟩ := List.forall_mem_cons.1 hlive
    obtain ⟨hfitb, hfitrest⟩ := List.forall_mem_cons.1 hfit
    obtain ⟨hid, hrestIds⟩ := List.nodup_cons.1 hids
    have hne : ∀ x ∈ rest, x.id ≠ b.id := fun x hx heq => hid (List.mem_map.2 ⟨x, hx, heq⟩)
    -- What becomes of the first one leaves the others as they are.
    have hnext : ∀ {c1 : Cloud}, (∀ x ∈ c.balancers, x.id ≠ b.id → x ∈ c1.balancers) →
        (∀ x ∈ rest, Cloud.Untouched x.id c c1) →
        (∀ x ∈ rest, x ∈ c1.balancers ∧ x.zone ∈ s.site.zones) ∧
          ∀ x ∈ rest, suits s desired c1 x = fit x := fun hothers huntouched =>
      ⟨fun x hx => ⟨hothers x (hrest x hx).1 (hne x hx), (hrest x hx).2⟩,
        fun x hx => (suits_of_untouched (huntouched x hx)).trans (hfitrest x hx)⟩
    by_cases hkept : place b ∉ taken ∧ fit b = true
    · obtain ⟨hfree, hok⟩ := hkept
      obtain ⟨d, hkeeps⟩ := retain_keeps hw hfree (hfitb.trans hok)
      obtain ⟨r, c1, hupdate⟩ := update_succeeds (d := d) hb hzone
      obtain ⟨t, rfl, -, hc1⟩ := update_returns hc hb hupdate
      obtain ⟨-, -, hothers⟩ := update_changes hupdate
      obtain ⟨hrest1, hfit1⟩ := hnext hothers fun x _ => by
        rw [hc1]
        exact ⟨rfl, rfl, rfl, rfl⟩
      obtain ⟨more, c', hretain, hmore⟩ :=
        ih (place b :: taken) (hc.returns hupdate) hrestIds hrest1 hfit1
      refine ⟨_, c', hkeeps hupdate hretain, fun id => ?_⟩
      rw [List.map_cons, List.mem_cons, hmore id]
      simp only [chosen_cons_of_kept hfree hok, or_and_right, exists_or, exists_eq_left]
      exact or_congr_left eq_comm
    · have hrefused : place b ∈ taken ∨ fit b = false := by
        rw [not_and_or, not_not, Bool.not_eq_true] at hkept
        exact hkept
      obtain ⟨c1, hdelete⟩ := delete_succeeds hb hzone
      have hc1 := delete_returns hdelete
      have hothers : ∀ x ∈ c.balancers, x.id ≠ b.id → x ∈ c1.balancers := fun x hx hxb => by
        rw [hc1]
        exact List.mem_filter.2 ⟨hx, decide_eq_true hxb⟩
      obtain ⟨hrest1, hfit1⟩ := hnext hothers fun x hx => by
        rw [hc1]
        exact Cloud.untouched_removeBalancer (hne x hx)
      obtain ⟨kept, c', hretain, hkept'⟩ := ih taken (hc.returns hdelete) hrestIds hrest1 hfit1
      refine ⟨kept, c', retain_refuses hw (hrefused.imp_right hfitb.trans) hdelete hretain,
        fun id => ?_⟩
      rw [hkept' id]
      exact exists_congr fun x => and_congr_left' (chosen_cons_of_refused hrefused).symm

/-! ## Pinned addresses -/

/-- The zones and addresses of the flexible addresses that are pinned. -/
def pinnedThere (pins : List String) (addresses : List FlexibleAddress) : List (String × String) :=
  (addresses.map fun a => (a.zone, a.address)).filter fun p => decide (p.2 ∈ pins)

/-- No pinned address is among those that are still to be given out. -/
def PinsOld (pins : List String) (c : Cloud) : Prop :=
  ∀ n, c.nextPublic ≤ n → "51.15.0." ++ toString n ∉ pins

/-- No flexible address has come to be a pinned one, and none will. -/
structure NoMorePins (pins : List String) (c c' : Cloud) : Prop where
  old : PinsOld pins c'
  sublist : (pinnedThere pins c'.addresses).Sublist (pinnedThere pins c.addresses)

variable {pins : List String}

/-- A change of addresses that leaves their zones and texts adds no pinned one. -/
theorem pinnedThere_map {addresses : List FlexibleAddress}
    {change : FlexibleAddress → FlexibleAddress}
    (hsame : ∀ a, ((change a).zone, (change a).address) = (a.zone, a.address)) :
    (pinnedThere pins (addresses.map change)).Sublist (pinnedThere pins addresses) := by
  have hkeys : (addresses.map change).map (fun a => (a.zone, a.address)) =
      addresses.map fun a => (a.zone, a.address) := by
    rw [List.map_map]
    exact List.map_congr_left fun a _ => hsame a
  unfold pinnedThere
  rw [hkeys]

/-- An address that is not pinned adds none either. -/
theorem pinnedThere_concat {addresses : List FlexibleAddress} {a : FlexibleAddress}
    (ha : a.address ∉ pins) :
    (pinnedThere pins (addresses ++ [a])).Sublist (pinnedThere pins addresses) := by
  unfold pinnedThere
  rw [List.map_append, List.filter_append, List.map_singleton,
    List.filter_cons_of_neg (by simpa using ha), List.filter_nil, List.append_nil]

/-- What is created or deleted brings in no pinned address. -/
theorem noMorePins_of_answer {r : Request} {v : r.Reply} (hr : r.IsStructural)
    (h : PinsOld pins c) (hv : c.answer r = (.ok v, c')) : NoMorePins pins c c' := by
  cases r with
  | createBalancer zone name type addressId isPrivate tags =>
    have hv' : c.createBalancer zone name type addressId isPrivate tags = (.ok v, c') := hv
    unfold Cloud.createBalancer Cloud.withFirst at hv'
    cases addressId with
    | some addressId =>
      dsimp only at hv'
      split at hv' <;> cases hv'
      refine ⟨h, pinnedThere_map fun a => ?_⟩
      split <;> rfl
    | none =>
      -- A new address is the next to be given out, and so not pinned.
      dsimp only at hv'
      split at hv' <;> cases hv'
      · exact ⟨h, .refl _⟩
      · exact ⟨fun n hn => h n (Nat.le_of_succ_le hn),
          pinnedThere_concat (h c.nextPublic (Nat.le_refl _))⟩
  | deleteBalancer zone id release =>
    -- Addresses go, or lose their load balancer.
    have hv' : c.deleteBalancer id release = (.ok v, c') := hv
    unfold Cloud.deleteBalancer Cloud.withFirst at hv'
    split at hv' <;> cases hv'
    refine ⟨h, ?_⟩
    unfold Cloud.removeBalancer Cloud.dropAddresses
    dsimp only
    split
    · exact (List.filter_sublist.map _).filter _
    · refine pinnedThere_map fun a => ?_
      split <;> rfl
  | migrateBalancer =>
    obtain ⟨-, hc'⟩ := Cloud.migrateBalancer_effect hv
    rw [hc']
    exact ⟨h, .refl _⟩
  | listBalancers | listAddresses | listBackends | listFrontends | listRules | listAttachments
  | listPrivateAddresses | listGateways =>
    cases hv
    exact ⟨h, .refl _⟩
  | _ => cases hr

/-- A program about load balancers that returns brings no pinned address into being. -/
theorem NoMorePins.of_returns {α : Type} {p : Program α} {a : α}
    (hp : p.Orderly Request.IsStructural) (h : PinsOld pins c) (hreturns : p.Returns c a c') :
    NoMorePins pins c c' := by
  refine hp.changes (R := fun c c' => PinsOld pins c → NoMorePins pins c c') hreturns ?_ ?_ ?_ h
  · exact fun c hc => ⟨hc, .refl _⟩
  · intro c c1 c2 h1 h2 hc
    exact ⟨(h2 (h1 hc).old).old, (h2 (h1 hc).old).sublist.trans (h1 hc).sublist⟩
  · exact fun r c v c' hr hv hc => noMorePins_of_answer hr hc hv

/-- A pinned address is there in a zone if a flexible address has it in that zone. -/
theorem mem_pinnedThere {zone address : String} (ha : address ∈ pins) :
    (zone, address) ∈ pinnedThere pins c.addresses ↔
      ∃ x ∈ c.addresses, x.zone = zone ∧ x.address = address := by
  unfold pinnedThere
  rw [List.mem_filter, decide_eq_true_eq, and_iff_left ha, List.mem_map]
  simp only [Prod.mk.injEq]

/-- A missing address is a misconfiguration. -/
theorem findAddressId_fails {site : Site} {zone address : String} (hzone : zone ∈ site.zones)
    (hmissing : ¬∃ x ∈ c.addresses, x.zone = zone ∧ x.address = address) :
    ∃ e, (findAddressId site zone address).exec c = (.error e, c) ∧ e.fault.kind = .terminal := by
  have hnone : (c.addresses.filter (·.zone = zone)).filter (·.address = address) = [] := by
    rw [List.filter_filter, List.filter_eq_nil_iff]
    intro x hx h
    rw [Bool.and_eq_true, decide_eq_true_eq, decide_eq_true_eq] at h
    exact hmissing ⟨x, hx, h.2, h.1⟩
  have hfind : (site.findAddress zone address).exec c =
      (raise ⟨.notFound, .noneFound ("IPs with address " ++ address)⟩, c) := by
    unfold Site.findAddress
    rw [exec_bind, Site.checkZone_exec hzone]
    show (Program.ofExcept (single ((c.addresses.filter (·.zone = zone)).filter
      (·.address = address)) _)).exec c = _
    rw [hnone]
    rfl
  unfold findAddressId
  rw [map_eq_bind, exec_bind, exec_handle, hfind]
  refine ⟨_, rfl, ?_⟩
  exact congrArg Fault.kind (Failure.fault_causedBy _ _)

/-- An address that there is once is found. -/
theorem findAddressId_succeeds {site : Site} {zone address : String} (hzone : zone ∈ site.zones)
    (ha : address ∈ pins) (hpins : (pinnedThere pins c.addresses).Nodup)
    (hthere : ∃ x ∈ c.addresses, x.zone = zone ∧ x.address = address) :
    ∃ x ∈ c.addresses, (findAddressId site zone address).Returns c x.id c := by
  obtain ⟨x, hx, hxzone, hxaddress⟩ := hthere
  let found := c.addresses.filter fun a => decide (a.address = address) && decide (a.zone = zone)
  have hfound : ∀ a, a ∈ found ↔ a ∈ c.addresses ∧ a.address = address ∧ a.zone = zone := fun a => by
    simp only [found, List.mem_filter, Bool.and_eq_true, decide_eq_true_eq]
  have hkeys : (found.map fun a => (a.zone, a.address)).Nodup := by
    have hpinned : ∀ p ∈ found.map fun a => (a.zone, a.address), decide (p.2 ∈ pins) = true :=
      List.forall_mem_map.2 fun a h => decide_eq_true (((hfound a).1 h).2.1.symm ▸ ha)
    rw [← List.filter_eq_self.2 hpinned]
    exact hpins.sublist ((List.filter_sublist.map _).filter _)
  obtain ⟨y, hy⟩ : ∃ y, found = [y] := by
    rcases hlist : found with _ | ⟨y, _ | ⟨z, rest⟩⟩
    · exact absurd ((hfound x).2 ⟨hx, hxaddress, hxzone⟩) (hlist ▸ List.not_mem_nil)
    · exact ⟨y, rfl⟩
    -- Two of them would have the same zone and address.
    · obtain ⟨-, hyaddress, hyzone⟩ := (hfound y).1 (hlist ▸ List.mem_cons_self)
      obtain ⟨-, hzaddress, hzzone⟩ := (hfound z).1
        (hlist ▸ List.mem_cons_of_mem _ List.mem_cons_self)
      rw [hlist, List.map_cons, List.map_cons, hyaddress, hyzone, hzaddress, hzzone] at hkeys
      exact absurd List.mem_cons_self (List.nodup_cons.1 hkeys).1
  have hfind : (site.findAddress zone address).Returns c y c :=
    Site.findAddress_returns.2 ⟨hzone, hy, rfl⟩
  refine ⟨y, ((hfound y).1 (hy ▸ List.mem_singleton_self y)).1, ?_⟩
  unfold findAddressId
  refine returns_map.2 ⟨y, ?_, rfl⟩
  unfold Returns at hfind ⊢
  rw [exec_handle, hfind]

/-- A load balancer can be created if the address that is given for it exists. -/
theorem createBalancer_succeeds {zone name type : String} {addressId : Option String}
    {isPrivate : Bool} {tags : List String}
    (h : ∀ id ∈ addressId, ∃ x ∈ c.addresses, x.id = id) :
    ∃ b c', c.createBalancer zone name type addressId isPrivate tags = (.ok b, c') := by
  unfold Cloud.createBalancer
  cases addressId with
  | some id =>
    obtain ⟨x, hx, hid⟩ := h id rfl
    obtain ⟨a, ha⟩ := Cloud.exists_find? (p := fun a : FlexibleAddress => decide (a.id = id)) hx
      (decide_eq_true hid)
    unfold Cloud.withFirst
    dsimp only [Cloud.freshId]
    rw [ha]
    exact ⟨_, _, rfl⟩
  | none =>
    dsimp only
    split <;> exact ⟨_, _, rfl⟩

/-- A creation succeeds if the address that it pins is there, and fails for good if not. -/
theorem create_ends {zone : String} (name : String)
    (hresolve : s.site.region.resolve d.zone = .ok zone)
    (hzone : zone ∈ s.site.zones) (hpin : ∀ a ∈ d.address, a ∈ pins)
    (hpins : (pinnedThere pins c.addresses).Nodup) :
    (∃ r c', (create s zone name d).Returns c r c' ∧
        ∀ a ∈ d.address, (zone, a) ∈ pinnedThere pins c.addresses) ∨
      ∃ e, (create s zone name d).exec c = (.error e, c) ∧ e.fault.kind = .terminal := by
  have hresolved : d.resolve s.site.region = .ok (zone, d.resolvedType) := by
    unfold BalancerSpec.resolve
    rw [hresolve]
    rfl
  -- With an address that exists, or none to look up, the creation succeeds.
  have hcreates : ∀ (addressId : Option String) (tags : List String),
      (∀ id ∈ addressId, ∃ x ∈ c.addresses, x.id = id) →
      ∃ r c', (s.site.createBalancer zone name d.resolvedType addressId tags s.balancersPrivate >>=
        fun b => done { b with privateAddress := d.privateAddress }).Returns c r c' := by
    intro addressId tags h
    obtain ⟨b, c', hb⟩ := createBalancer_succeeds h
    exact ⟨_, c', returns_bind.2 ⟨b, c', Site.createBalancer_returns.2 ⟨hzone, hb⟩,
      returns_done.2 ⟨rfl, rfl⟩⟩⟩
  obtain ⟨step, heq, hstep⟩ := create_steps s zone name d
  rw [heq, hresolved]
  show (∃ r c', (step (zone, d.resolvedType)).Returns c r c' ∧ _) ∨
    ∃ e, (step (zone, d.resolvedType)).exec c = (.error e, c) ∧ _
  cases hstep (zone, d.resolvedType) with
  | managed ha hp =>
    obtain ⟨r, c', h⟩ := hcreates none (tags s ++ [Tag.managedAddress]) nofun
    refine .inl ⟨r, c', hp ▸ h, fun a hsome => ?_⟩
    rw [ha] at hsome
    cases hsome
  | pinned a ha hp =>
    rw [hp]
    have hpin := hpin a ha
    -- A pin that is there is found, and one that is not ends the creation.
    by_cases hthere : ∃ x ∈ c.addresses, x.zone = zone ∧ x.address = a
    · obtain ⟨x, hx, hfind⟩ := findAddressId_succeeds hzone hpin hpins hthere
      obtain ⟨r, c', h⟩ := hcreates (some x.id) (tags s) (by rintro _ ⟨⟩; exact ⟨x, hx, rfl⟩)
      refine .inl ⟨r, c', returns_bind.2 ⟨x.id, c, hfind, h⟩, fun a' hsome => ?_⟩
      rw [ha] at hsome
      cases hsome
      exact (mem_pinnedThere hpin).2 hthere
    · obtain ⟨e, hfails, hterminal⟩ := findAddressId_fails hzone hthere
      refine .inr ⟨e, ?_, hterminal⟩
      rw [exec_bind, hfails]

/-- Not all targets can be created if a pinned address is not there. -/
theorem createAll_fails {targets : List (String × String × BalancerSpec)}
    (htargets : ∀ t ∈ targets, s.site.region.resolve t.2.2.zone = .ok t.1 ∧ t.1 ∈ s.site.zones ∧
      ∀ a ∈ t.2.2.address, a ∈ pins)
    (hold : PinsOld pins c) (hpins : (pinnedThere pins c.addresses).Nodup)
    (hmissing : ∃ t ∈ targets, ∃ a ∈ t.2.2.address, (t.1, a) ∉ pinnedThere pins c.addresses) :
    ∃ e c', (targets.mapM' fun t => (reconciler s).create t.1 t.2.1 t.2.2).exec c =
      (.error e, c') ∧ e.fault.kind = .terminal := by
  induction targets generalizing c with
  | nil =>
    obtain ⟨t, ht, -⟩ := hmissing
    exact absurd ht List.not_mem_nil
  | cons t rest ih =>
    obtain ⟨⟨hresolve, hzone, hpin⟩, hrest⟩ := List.forall_mem_cons.1 htargets
    obtain ⟨zone, name, d⟩ := t
    show ∃ e c', (create s zone name d >>= _).exec c = (.error e, c') ∧ _
    rw [exec_bind]
    rcases create_ends name hresolve hzone hpin hpins with ⟨r, c1, hr, hthere⟩ | ⟨e, he, hterminal⟩
    · -- The first one is created: its pin was there, so a missing one is still to come.
      have hmore : NoMorePins pins c c1 :=
        .of_returns (create_orderly.mono fun _ => Request.IsCreation.isStructural) hold hr
      have hlater : ∃ t ∈ rest, ∃ a ∈ t.2.2.address, (t.1, a) ∉ pinnedThere pins c1.addresses := by
        obtain ⟨t, ht, a, ha, hgone⟩ := hmissing
        rcases List.mem_cons.1 ht with rfl | ht
        · exact absurd (hthere a ha) hgone
        · exact ⟨t, ht, a, ha, fun hmem => hgone (hmore.sublist.subset hmem)⟩
      obtain ⟨e, c', he, hterminal⟩ := ih hrest hmore.old (hpins.sublist hmore.sublist) hlater
      have hr' : (create s zone name d).exec c = (.ok r, c1) := hr
      rw [hr']
      dsimp only
      rw [exec_bind, he]
      exact ⟨e, c', rfl, hterminal⟩
    · rw [he]
      exact ⟨e, c, rfl, hterminal⟩

/-- What is missing cannot all be created if a pinned address is not there. -/
theorem createMissing_fails {targets : List (String × String × BalancerSpec)}
    (htargets : ∀ t ∈ targets, s.site.region.resolve t.2.2.zone = .ok t.1 ∧ t.1 ∈ s.site.zones ∧
      ∀ a ∈ t.2.2.address, a ∈ pins)
    (hold : PinsOld pins c) (hpins : (pinnedThere pins c.addresses).Nodup)
    (hmissing : ∃ t ∈ targets, (t.1, t.2.1) ∉ taken ∧
      ∃ a ∈ t.2.2.address, (t.1, a) ∉ pinnedThere pins c.addresses) :
    ∃ e c', ((reconciler s).createMissing taken targets).exec c = (.error e, c') ∧
      e.fault.kind = .terminal := by
  rw [Reconciler.createMissing_eq]
  refine createAll_fails (fun t ht => htargets t (List.mem_of_mem_filter ht)) hold hpins ?_
  obtain ⟨t, ht, hfree, hgone⟩ := hmissing
  exact ⟨t, List.mem_filter.2 ⟨ht, decide_eq_true hfree⟩, hgone⟩

/-! ## Whole runs -/

/-- Where all zones can be used, a run gets to what is missing, whatever becomes of that. -/
theorem ensure_reaches (hc : c.Sound) (hzones : s.site.zones.Nodup)
    (husable : ∀ d ∈ desired, ∃ zone, desiredZone s d = .ok zone) :
    ∃ wanted kept c1, (reconciler s).groups desired = .ok wanted ∧
      ((reconciler s).retain wanted [] (listed s c)).Returns c kept c1 ∧
      (∀ id, id ∈ kept.map (·.id) ↔
        ∃ b, Chosen (suits s desired c) [] (listed s c) b ∧ b.id = id) ∧
      (ensure s desired).exec c =
        ((reconciler s).createMissing (kept.map place) ((reconciler s).targets wanted) >>=
          fun created => done (kept ++ created)).exec c1 := by
  obtain ⟨wanted, hw⟩ := Reconciler.exists_groups (r := reconciler s) husable
  obtain ⟨kept, c1, hretain, hkept⟩ := retain_survivors [] hw hc (nodup_listed hc hzones)
    (fun b hb => (mem_listed.1 hb).imp_right (·.1)) fun _ _ => rfl
  refine ⟨wanted, kept, c1, hw, hretain, hkept, ?_⟩
  have hlist : (list s).exec c = (.ok (listed s c), c) :=
    (Site.findBalancers_returns (tags_ne_nil s)).2 ⟨rfl, rfl⟩
  have hretain' : ((reconciler s).retain wanted [] (listed s c)).exec c = (.ok kept, c1) := hretain
  -- The run is evaluated up to where it starts to create.
  rw [ensure_eq, hw]
  dsimp only
  rw [exec_bind, hlist]
  dsimp only
  rw [exec_bind, hretain']

/-- Whether the run returns or fails, the first secondary that suits at each place is there still,
and no other. -/
theorem ensure_survivors (hc : c.Sound) (hzones : s.site.zones.Nodup)
    (husable : ∀ d ∈ desired, ∃ zone, desiredZone s d = .ok zone) (hb : b ∈ listed s c) :
    (∃ x ∈ ((ensure s desired).exec c).2.balancers, x.id = b.id) ↔
      Chosen (suits s desired c) [] (listed s c) b := by
  obtain ⟨wanted, kept, c1, hw, hretain, hkept, hexec⟩ := ensure_reaches hc hzones husable
  have hids := nodup_listed hc hzones
  obtain ⟨stored, rfl, hretains⟩ :=
    retain_spec hw hc hids (fun x hx => (mem_listed.1 hx).1) hretain
  -- What is created comes under other ids.
  have hgrown : c1.Grown ((ensure s desired).exec c).2 := by
    rw [hexec]
    refine .of_orderly (createMissing_orderly.bind fun _ => ?_) c1
    trivial
  have hnext : c.nextId ≤ c1.nextId := (hc.restructures_of_returns retain_orderly hretain).nextId
  have hfresh : ∀ n, c1.nextId ≤ n → b.id ≠ numbered "lb" n := fun n hn heq =>
    hc.balancers.fresh n (hnext.trans hn)
      (heq ▸ List.mem_map_of_mem (f := (·.id)) (mem_listed.1 hb).1)
  have hchosen : (∃ x, Chosen (suits s desired c) [] (listed s c) x ∧ x.id = b.id) ↔
      Chosen (suits s desired c) [] (listed s c) b := by
    refine ⟨?_, fun h => ⟨b, h, rfl⟩⟩
    rintro ⟨x, hx, hid⟩
    exact List.inj_on_of_nodup_map hids hx.mem hb hid ▸ hx
  rw [hgrown.exists_iff hfresh, ← hchosen, ← hkept]
  constructor
  · rintro ⟨x, hx, hid⟩
    exact hid ▸ (retain_covers hretain).2.covered x hx
      (hid ▸ List.mem_map_of_mem (f := (·.id)) hb)
  · rw [map_id_pinned]
    intro hmem
    obtain ⟨x, hx, hid⟩ := List.mem_map.1 hmem
    exact ⟨x, hretains.mem x hx, hid⟩

/-- A pinned address that is missing is found to be only when a load balancer is made for it. -/
theorem ensure_fails (hc : c.Sound) (hzones : s.site.zones.Nodup)
    (hpublic : s.balancersPrivate = false)
    (husable : ∀ d ∈ desired, ∃ zone, desiredZone s d = .ok zone) {zone name address : String}
    (hd : (reconciler s).desiredAt desired zone name = some d) (ha : d.address = some address)
    (hmissing : ∀ x ∈ c.addresses, x.zone = zone → x.address ≠ address)
    (hunheld : ∀ b ∈ listed s c, place b = (zone, name) → b.holds address = false)
    (hold : PinsOld (desired.filterMap (·.address)) c)
    (hpins : (pinnedThere (desired.filterMap (·.address)) c.addresses).Nodup) :
    ∃ e c', (ensure s desired).exec c = (.error e, c') ∧ e.fault.kind = .terminal := by
  obtain ⟨wanted, kept, c1, hw, hretain, hkept, hexec⟩ := ensure_reaches hc hzones husable
  have hmore := NoMorePins.of_returns retain_orderly hold hretain
  have htargets : ∀ t ∈ (reconciler s).targets wanted,
      s.site.region.resolve t.2.2.zone = .ok t.1 ∧ t.1 ∈ s.site.zones ∧
        ∀ a ∈ t.2.2.address, a ∈ desired.filterMap (·.address) := by
    rintro ⟨z, n, d'⟩ ht
    obtain ⟨i, hi, -⟩ := (Reconciler.mem_targets hw).1 ht
    have hmem := List.mem_of_getElem? hi
    obtain ⟨hresolve, hzone⟩ := desiredZone_eq_ok.1 (Reconciler.desiredZone_of_mem hmem)
    exact ⟨hresolve, hzone, fun a ha =>
      List.mem_filterMap.2 ⟨d', (List.mem_filter.1 hmem).1, ha⟩⟩
  obtain ⟨i, hi, hname⟩ := Reconciler.desiredAt_eq_some hd
  have htarget : (zone, name, d) ∈ (reconciler s).targets wanted :=
    (Reconciler.mem_targets hw).2 ⟨i, hi, hname⟩
  have hpin := (htargets _ htarget).2.2 address ha
  -- Nothing is kept at the place, since what is kept there would hold the address.
  have hfree : (zone, name) ∉ kept.map place := by
    intro hplace
    obtain ⟨r, hr, hplace⟩ := List.mem_map.1 hplace
    obtain ⟨x0, hx0, hid, hplace0⟩ := retain_kept (fun x hx => ⟨x, hx, rfl⟩)
      (fun b hb => (mem_listed.1 hb).1) hretain r hr
    obtain ⟨x, hx, hxid⟩ := (hkept r.id).1 (List.mem_map_of_mem hr)
    obtain rfl := hc.balancers.inj (mem_listed.1 hx.mem).1 hx0 (hxid.trans hid)
    have hunheld' := hunheld x hx.mem (hplace0.symm.trans hplace)
    obtain ⟨rfl, rfl⟩ := Prod.mk.inj (hplace0.symm.trans hplace)
    exact Bool.false_ne_true (hunheld'.symm.trans (holds_of_suits hpublic hd ha hx.fits))
  have hgone : (zone, address) ∉ pinnedThere (desired.filterMap (·.address)) c1.addresses := by
    intro hmem
    obtain ⟨x, hx, hxzone, hxaddress⟩ := (mem_pinnedThere hpin).1 (hmore.sublist.subset hmem)
    exact hmissing x hx hxzone hxaddress
  obtain ⟨e, c', hfails, hterminal⟩ := createMissing_fails htargets hmore.old
    (hpins.sublist hmore.sublist) ⟨_, htarget, hfree, address, ha, hgone⟩
  rw [hexec, exec_bind, hfails]
  exact ⟨e, c', rfl, hterminal⟩

/-- What a declaration destroys that pins a public address which is not there. All zones can be
used, and no secondary at the place of the pin holds the address. Then the run fails for good, if
the pinned addresses can be told apart from each other and from new ones. By then each secondary is
gone that is not the first at its place to suit what is declared there. So those at the place of the
pin are gone, and all are spared exactly if every one suits and no two are at one place. -/
theorem missing_pin_spares_iff (hc : c.Sound) (hzones : s.site.zones.Nodup)
    (hpublic : s.balancersPrivate = false)
    (husable : ∀ d ∈ desired, ∃ zone, desiredZone s d = .ok zone) {zone name address : String}
    (hd : (reconciler s).desiredAt desired zone name = some d) (ha : d.address = some address)
    (hmissing : ∀ x ∈ c.addresses, x.zone = zone → x.address ≠ address)
    (hunheld : ∀ b ∈ listed s c, place b = (zone, name) → b.holds address = false) :
    let left := ((ensure s desired).exec c).2.balancers
    (PinsOld (desired.filterMap (·.address)) c →
        (pinnedThere (desired.filterMap (·.address)) c.addresses).Nodup →
        ∃ e c', (ensure s desired).exec c = (.error e, c') ∧ e.fault.kind = .terminal) ∧
      (∀ b ∈ listed s c, (∃ x ∈ left, x.id = b.id) ↔
        Chosen (suits s desired c) [] (listed s c) b) ∧
      (∀ b ∈ listed s c, place b = (zone, name) → ¬∃ x ∈ left, x.id = b.id) ∧
      ((∀ b ∈ listed s c, ∃ x ∈ left, x.id = b.id) ↔
        (∀ b ∈ listed s c, suits s desired c b = true) ∧ ((listed s c).map place).Nodup) := by
  intro left
  have hsurvivors : ∀ b ∈ listed s c, (∃ x ∈ left, x.id = b.id) ↔
      Chosen (suits s desired c) [] (listed s c) b := fun b hb =>
    ensure_survivors hc hzones husable hb
  refine ⟨ensure_fails hc hzones hpublic husable hd ha hmissing hunheld, hsurvivors, ?_, ?_⟩
  · -- One that survives at the place of the pin would hold the address.
    intro b hb hplace hsurvives
    have hsuits := ((hsurvivors b hb).1 hsurvives).fits
    have hunheld' := hunheld b hb hplace
    obtain ⟨rfl, rfl⟩ := Prod.mk.inj hplace
    exact Bool.false_ne_true (hunheld'.symm.trans (holds_of_suits hpublic hd ha hsuits))
  · rw [← forall_chosen_iff (.of_map _ (nodup_listed hc hzones))]
    exact forall₂_congr hsurvivors

end Secondary

namespace Sample

/-- An address that the provider allocated for a load balancer. -/
def allocated : FlexibleAddress where
  id := "allocated"
  address := "51.15.1.1"
  zone := "fr-par-1"
  balancerId := some "first"

/-- A cloud with a secondary that holds an allocated address. -/
def unpinned : Cloud where
  balancers :=
    [{ id := "first", zone := "fr-par-1", name := "demo-0", type := "lb-s"
       tags := Secondary.tags (scope []) ++ [Tag.managedAddress], addresses := [allocated] }]
  addresses := [allocated]

/-- The cloud of the example is sound. -/
theorem unpinned_sound : unpinned.Sound := by
  refine ⟨?_, ?_, ?_, ?_, ?_, ?_⟩ <;> exact .of_foreign (by decide +kernel) (by decide +kernel)

end Sample

/-- A secondary is to get an address that is not there, and loses the one that it has. -/
theorem Secondary.sample_missing_pin :
    let p := ensure (Sample.scope []) [{ address := some "51.15.99.9" }]
    (∃ e c', p.exec Sample.unpinned = (.error e, c') ∧ e.fault.kind = .terminal) ∧
      ¬∃ x ∈ (p.exec Sample.unpinned).2.balancers, x.id = "first" := by
  intro p
  have hold : PinsOld ["51.15.99.9"] Sample.unpinned := by
    intro n _ hmem
    have hstart := congrArg (·.toList.take 8) (List.mem_singleton.1 hmem)
    rw [String.toList_append, List.take_append_of_le_length (by decide)] at hstart
    exact absurd hstart (by decide)
  have hmissing : ∀ x ∈ Sample.unpinned.addresses, x.zone = "fr-par-1" →
      x.address ≠ "51.15.99.9" := by decide +kernel
  have hunheld : ∀ b ∈ listed (Sample.scope []) Sample.unpinned, place b = ("fr-par-1", "demo-0") →
      b.holds "51.15.99.9" = false := by decide +kernel
  have husable : ∀ d ∈ [({ address := some "51.15.99.9" } : BalancerSpec)], ∃ zone,
      desiredZone (Sample.scope []) d = .ok zone := List.forall_mem_singleton.2 ⟨"fr-par-1", rfl⟩
  obtain ⟨hfails, -, hlost, -⟩ := missing_pin_spares_iff Sample.unpinned_sound
    (by decide +kernel) rfl husable rfl rfl hmissing hunheld
  exact ⟨hfails hold (by decide +kernel), hlost _ List.mem_cons_self rfl⟩

end ControlPlane
