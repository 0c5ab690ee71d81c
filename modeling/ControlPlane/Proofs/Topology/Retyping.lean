import ControlPlane.Proofs.Provider.Progress
import ControlPlane.Proofs.Topology.Phases

/-!
# Clouds that differ in types

A run may bring load balancers that are there to other types, and that is the only change that it
makes to them as long as they can be kept. `Cloud.Retyped` says that two clouds differ in nothing
else. Nothing but the look-up of the primary, and the listing of the secondaries, looks at load
balancers at all: what is created is the same on retyped clouds (`Orderly.retyped`).

Where the primary is there, and every secondary that is listed can be kept, the first steps of a run
succeed and retype (`ensurePrimary_achieves`, `retain_achieves`).
-/

namespace ControlPlane

open Program hiding ofExcept

/-- A load balancer without its type. -/
def LoadBalancer.untyped (b : LoadBalancer) : LoadBalancer := { b with type := "" }

/-- Load balancers that differ in their types alone have the same id. -/
theorem LoadBalancer.id_eq_of_untyped {x y : LoadBalancer} (h : x.untyped = y.untyped) :
    x.id = y.id :=
  (LoadBalancer.mk.inj h).1

/-- Load balancers that differ in their types alone still do so when both are pinned to the same
address. -/
theorem LoadBalancer.pin_untyped {x y : LoadBalancer} (h : x.untyped = y.untyped)
    (pin : Option String) : ({ x with privateAddress := pin } : LoadBalancer).untyped =
      ({ y with privateAddress := pin } : LoadBalancer).untyped :=
  congrArg (fun b : LoadBalancer => { b with privateAddress := pin }) h

/-- Load balancers that differ in their types alone are at the same place. -/
theorem Secondary.place_eq_of_untyped {x y : LoadBalancer} (h : x.untyped = y.untyped) :
    place x = place y :=
  show place x.untyped = place y.untyped from congrArg place h

/-- Of two lists that differ in types alone, each element of one stands in the other with some type.
-/
theorem exists_untyped {xs ys : List LoadBalancer}
    (h : xs.map (·.untyped) = ys.map (·.untyped)) {x : LoadBalancer} (hx : x ∈ xs) :
    ∃ y ∈ ys, y.untyped = x.untyped := by
  have hmem : x.untyped ∈ xs.map (·.untyped) := List.mem_map_of_mem hx
  rw [h] at hmem
  exact List.mem_map.1 hmem

/-- Two such lists have the same ids. -/
theorem map_id_of_untyped {xs ys : List LoadBalancer}
    (h : xs.map (·.untyped) = ys.map (·.untyped)) : xs.map (·.id) = ys.map (·.id) := by
  have hids := congrArg (List.map LoadBalancer.id) h
  rw [List.map_map, List.map_map] at hids
  exact hids

namespace Cloud

/-- The clouds differ in nothing but the types of load balancers. -/
structure Retyped (c c' : Cloud) : Prop where
  balancers : c'.balancers.map (·.untyped) = c.balancers.map (·.untyped)
  rest : c' = { c with balancers := c'.balancers }

variable {c c' c'' : Cloud}

/-- A cloud is itself, with no type changed. -/
theorem Retyped.refl (c : Cloud) : Retyped c c := ⟨rfl, rfl⟩

/-- Types may be changed again. -/
theorem Retyped.trans (h : Retyped c c') (h' : Retyped c' c'') : Retyped c c'' := by
  refine ⟨h'.balancers.trans h.balancers, ?_⟩
  conv_lhs => rw [h'.rest, h.rest]

/-- Setting the type of one load balancer changes nothing but types. -/
theorem Retyped.of_type (c : Cloud) (id type : String) :
    Retyped c { c with balancers := c.balancers.map fun x =>
      if x.id = id then { x with type } else x } := by
  refine ⟨?_, rfl⟩
  dsimp only
  rw [List.map_map]
  refine List.map_congr_left fun x _ => ?_
  dsimp only [Function.comp_apply]
  split <;> rfl

/-- A sound cloud stays sound when types change. -/
theorem Retyped.sound (h : Retyped c c') (hc : c.Sound) : c'.Sound := by
  have hids : Ids "lb" c.nextId (c'.balancers.map (·.id)) := by
    rw [map_id_of_untyped h.balancers]
    exact hc.balancers
  rw [h.rest]
  exact { hc with balancers := hids }

end Cloud

/-! ## The same requests on retyped clouds -/

namespace Cloud

variable {c c' : Cloud}

/-- What is created does not depend on the types of load balancers. -/
theorem Retyped.answer (h : Retyped c c') {r : Request} (hr : r.IsCreation) :
    (c'.answer r).1 = (c.answer r).1 ∧ Retyped (c.answer r).2 (c'.answer r).2 := by
  have hconcat : ∀ b : LoadBalancer, (c'.balancers ++ [b]).map LoadBalancer.untyped =
      (c.balancers ++ [b]).map LoadBalancer.untyped := by
    intro b
    rw [List.map_append, List.map_append, h.balancers]
  have hrest := h.rest
  -- The two clouds differ in their load balancers only.
  generalize c'.balancers = balancers at hrest hconcat
  subst hrest
  cases r with
  | listAddresses zone address => exact ⟨rfl, h⟩
  | createBalancer zone name type addressId isPrivate tags =>
    dsimp only [Cloud.answer]
    unfold createBalancer
    cases addressId with
    | some addressId =>
      dsimp only [freshId, withFirst]
      split
      · exact ⟨rfl, hconcat _, rfl⟩
      · exact ⟨rfl, h.balancers, rfl⟩
    | none =>
      cases isPrivate
      · exact ⟨rfl, hconcat _, rfl⟩
      · exact ⟨rfl, hconcat _, rfl⟩
  | _ => exact hr.elim

end Cloud

namespace Program

variable {α : Type} {c c' : Cloud} {p : Program α}

/-- What a creation does on a cloud, it does on a retyped one. -/
theorem Orderly.exec_retyped (hp : p.Orderly Request.IsCreation) (h : c.Retyped c') :
    (p.exec c').1 = (p.exec c).1 ∧ (p.exec c).2.Retyped (p.exec c').2 := by
  induction p generalizing c c' with
  | done a => exact ⟨rfl, h⟩
  | fail e => exact ⟨rfl, h⟩
  | send r next ih =>
    obtain ⟨hr, _, hnext⟩ := hp
    obtain ⟨hanswer, hafter⟩ := h.answer hr
    unfold exec
    rw [hanswer]
    exact ih _ (hnext _) hafter
  | report e next ih =>
    cases e with
    | log level line => exact ih hp h
    | address | secondaryAddresses | condition => exact hp.elim

/-- What a creation visits is, on a retyped cloud, retyped. -/
theorem Orderly.visits_retyped (hp : p.Orderly Request.IsCreation) (h : c.Retyped c') :
    ∀ v ∈ p.visits c', ∃ u ∈ p.visits c, u.Retyped v := by
  induction p generalizing c c' with
  | done a => exact nofun
  | fail e => exact nofun
  | send r next ih =>
    obtain ⟨hr, _, hnext⟩ := hp
    obtain ⟨hanswer, hafter⟩ := h.answer hr
    intro v hv
    rcases List.mem_cons.1 hv with rfl | hv
    · exact ⟨_, List.mem_cons_self, hafter⟩
    · rw [hanswer] at hv
      obtain ⟨u, hu, huv⟩ := ih _ (hnext _) hafter v hv
      exact ⟨u, List.mem_cons_of_mem _ hu, huv⟩
  | report e next ih =>
    cases e with
    | log level line => exact ih hp h
    | address | secondaryAddresses | condition => exact hp.elim

/-- A creation that succeeds on a cloud succeeds on a retyped one, and what it passes through and
leaves there is retyped. -/
theorem Achieves.retyped {P : Cloud → Prop} {Q : α → Cloud → Prop} (h : p.Achieves P c Q)
    (hp : p.Orderly Request.IsCreation) (hc : c.Retyped c') :
    p.Achieves (fun v => ∃ u, P u ∧ u.Retyped v) c' fun a v => ∃ u, Q a u ∧ u.Retyped v := by
  constructor
  · intro v hv
    rcases List.mem_cons.1 hv with rfl | hv
    · exact ⟨c, h.upholds c List.mem_cons_self, hc⟩
    · obtain ⟨u, hu, huv⟩ := hp.visits_retyped hc v hv
      exact ⟨u, h.upholds u (List.mem_cons_of_mem _ hu), huv⟩
  · obtain ⟨a, c1, hreturns, hQ⟩ := h.returns
    obtain ⟨hvalue, hafter⟩ := hp.exec_retyped hc
    have hexec : p.exec c = (.ok a, c1) := hreturns
    rw [hexec] at hvalue hafter
    exact ⟨a, (p.exec c').2, Prod.ext hvalue rfl, c1, hQ, hafter⟩

end Program

/-! ## What is there is kept -/

variable {c e : Cloud} {s : Scope}

/-- Migrating a load balancer that is there succeeds. -/
theorem Site.migrateBalancer_achieves {site : Site} {zone : String} {b : LoadBalancer}
    (type : String) (he : e.Sound) (h : e.Retyped c) (hzone : zone ∈ site.zones)
    (hb : b ∈ e.balancers) :
    (site.migrateBalancer zone b.id type).Achieves e.Retyped c fun r _ =>
      r.untyped = b.untyped := by
  obtain ⟨y, hy, hyb⟩ := exists_untyped h.balancers.symm hb
  have hid : y.id = b.id := LoadBalancer.id_eq_of_untyped hyb
  obtain ⟨old, hold⟩ : ∃ old, c.balancers.find? (·.id = b.id) = some old :=
    Cloud.exists_find? hy (decide_eq_true hid)
  have hsound : c.Sound := h.sound he
  -- The identifier finds the one that stands for it on the other cloud.
  have hself : old = y := by
    rw [← hid] at hold
    exact hsound.balancers.eq_of_find? hy hold
  subst hself
  have hanswer : c.migrateBalancer b.id (Text.lower type) =
      (.ok { old with type := Text.lower type }, { c with balancers := c.balancers.map fun x =>
          if x.id = b.id then { x with type := Text.lower type } else x }) := by
    unfold Cloud.migrateBalancer Cloud.withFirst
    rw [hold]
  have hreturns := Site.migrateBalancer_returns.2 ⟨hzone, hanswer⟩
  have hone := (Site.changesLast_in_zone _).achieves hreturns h (h.trans (.of_type c _ _))
  refine hone.mono (fun _ hP => hP) fun r c' _ _ hend => ?_
  rw [hend.1]
  exact hyb

namespace Topology

/-- The primary that there is is found, and brought to its type. -/
theorem ensurePrimary_achieves {q : LoadBalancer} (hc : c.Sound) (hq : HasPrimary s q c)
    (hzone : q.zone ∈ s.site.zones) :
    (ensurePrimary s).Achieves c.Retyped c fun _ _ => True := by
  have hresolve : s.primary.resolve s.site.region = .ok (q.zone, s.primary.resolvedType) := by
    unfold BalancerSpec.resolve
    rw [hq.primary.1]
    rfl
  have hfind : (s.site.findBalancer q.zone (primaryTags s)).orNone.Returns c (some q) c :=
    (Site.findBalancer_returns (primaryTags_ne_nil s)).2 ⟨hzone, hq.filter hc, rfl⟩
  obtain ⟨step, heq, hstep⟩ := ensurePrimary_steps s
  rw [heq]
  refine ReadOnly.achieves_bind (orderly_ofExcept _) (returns_ofExcept.2 ⟨hresolve, rfl⟩) ?_
  refine ReadOnly.achieves_bind Site.findBalancer_readOnly.orNone hfind ?_
  -- None is created where one is found.
  cases hstep (q.zone, s.primary.resolvedType) (some q) with
  | kept _ _ hp => exact hp ▸ achieves_done (.refl c) trivial
  | migrated _ _ hp =>
    have hmigrate :=
      Site.migrateBalancer_achieves s.primary.resolvedType hc (.refl c) hzone hq.mem
    exact hp ▸ hmigrate.bind fun r c' _ hP _ => achieves_done hP trivial

end Topology

namespace Secondary

variable {wanted : List (String × List BalancerSpec)} {desired : List BalancerSpec}
  {taken : List (String × String)} {live : List LoadBalancer}

/-- Updating a load balancer that was there before types were changed succeeds, changes only types,
and leaves it at its place. -/
theorem update_achieves {b : LoadBalancer} {d : BalancerSpec} (he : e.Sound) (h : e.Retyped c)
    (hzone : b.zone ∈ s.site.zones) (hb : b ∈ e.balancers) :
    (update s b d).Achieves e.Retyped c fun r _ => place r = place b := by
  cases update_steps s b d with
  | kept _ hp => exact hp ▸ achieves_done h rfl
  | migrated type _ _ hp =>
    rw [hp]
    have hmigrate := Site.migrateBalancer_achieves type he h hzone hb
    refine hmigrate.bind fun r c' _ hP hr => achieves_done hP ?_
    have hplace : place r = place b := place_eq_of_untyped hr
    exact hplace

/-- A load balancer of a cloud that can be kept for what is declared at its place, whatever its
type. -/
structure Keepable (s : Scope) (desired : List BalancerSpec) (e : Cloud) (b : LoadBalancer) :
    Prop where
  mem : b ∈ e.balancers
  zone : b.zone ∈ s.site.zones
  fits : ∃ d, declared s desired b = some d ∧ (s.balancersPrivate || addressFits b d) = true ∧
    fitsPrivately s e b d = true

/-- Load balancers that can be kept are kept. -/
theorem retain_achieves (hw : (reconciler s).groups desired = .ok wanted) (he : e.Sound)
    (h : e.Retyped c) (hplaces : (live.map place).Nodup) (htaken : ∀ b ∈ live, place b ∉ taken)
    (hlive : ∀ b ∈ live, Keepable s desired e b) :
    ((reconciler s).retain wanted taken live).Achieves e.Retyped c fun kept _ =>
      kept.map place = live.map place := by
  induction live generalizing c taken with
  | nil => exact achieves_done h rfl
  | cons b live ih =>
    obtain ⟨hb, hzone, d, hd, haddress, hprivate⟩ := hlive b List.mem_cons_self
    -- The first one is at a free place, and can be kept for what is declared there.
    have hmatch : (reconciler s).match? wanted taken b = some d :=
      (Reconciler.match?_eq_some hw).2 ⟨htaken b List.mem_cons_self, hd⟩
    have hprivate' : fitsPrivately s c b d = true := by
      rw [h.rest]
      exact hprivate
    have hkeeps : (keeps s b d).Returns c true c := by
      refine keeps_returns.2 ⟨?_, rfl⟩
      rw [haddress, hprivate']
      rfl
    rw [List.map_cons, List.nodup_cons] at hplaces
    -- The others are at other places than it.
    have htaken' : ∀ x ∈ live, place x ∉ place b :: taken := by
      intro x hx hmem
      rcases List.mem_cons.1 hmem with heq | hmem
      · exact hplaces.1 (heq ▸ List.mem_map_of_mem hx)
      · exact htaken x (List.mem_cons_of_mem _ hx) hmem
    rw [retain_cons, hmatch]
    refine keeps_readOnly.achieves_bind hkeeps ?_
    rw [if_pos rfl]
    refine (update_achieves he h hzone hb).bind fun r c1 _ hP hplace => ?_
    have hrest := ih hP hplaces.2 htaken' fun x hx => hlive x (List.mem_cons_of_mem _ hx)
    refine hrest.bind fun more c2 _ hP' hmore => achieves_done hP' ?_
    rw [List.map_cons, List.map_cons, hplace, hmore]

end Secondary

end ControlPlane
