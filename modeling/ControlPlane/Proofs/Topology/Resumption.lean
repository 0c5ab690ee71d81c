import ControlPlane.Proofs.Topology.Jobs
import ControlPlane.Proofs.Topology.Launch

/-!
# Runs that are interrupted

Wherever runs of a declaration are cut short, the next one that is not interrupted ends as the first
one would have, if it had not been interrupted (`reconcile_resumes`).

A run makes the primary first, then the secondaries in the order of their declarations, and then the
rest. So however many runs there were, the cloud is still the one at the start, or one of those on
which the undisturbed run had made some of the load balancers (`Begun`), or all of these are there
and the rest is underway. From each of them every phase finds what it needs, and stays among them
(`reconcile_achieves`).
-/

namespace ControlPlane

open Program hiding ofExcept

namespace Topology

open Secondary (Filled FilledInPart Target listed)

variable {s : Scope} {q x y : LoadBalancer} {wanted : List (String × List BalancerSpec)}
  {new : List LoadBalancer} {filled rest : List Target} {c0 c1 c2 v e e' : Cloud}
  {b : LoadBalancer} {bs : List LoadBalancer}

/-! ## Where a run may start -/

namespace Launch

/-- The primary is there, and some of the secondaries or all and more. Types do not matter. -/
def Begun (h : Launch s q wanted new c0 c1 c2) (e : Cloud) : Prop :=
  (∃ v, FilledInPart s ((Secondary.reconciler s).targets wanted) c1 c2 v ∧ v.Retyped e) ∨
    Underway h.fleet e

/-- A cloud that runs may have left. -/
def Reached (h : Launch s q wanted new c0 c1 c2) (e : Cloud) : Prop := e = c0 ∨ h.Begun e

variable {h : Launch s q wanted new c0 c1 c2}

/-- What has begun is not undone by a change of types. -/
theorem Begun.retyped (he : h.Begun e) (hretyped : e.Retyped e') : h.Begun e' := by
  rcases he with ⟨v, hv, hve⟩ | hunderway
  · exact .inl ⟨v, hv, hve.trans hretyped⟩
  · exact .inr (hunderway.retyped hretyped)

/-- The load balancers are those of the undisturbed run at some point. -/
theorem Begun.exists_filled (he : h.Begun e) : ∃ filled rest v,
    (Secondary.reconciler s).targets wanted = filled ++ rest ∧ Filled s filled rest c1 c2 v ∧
      e.Sound ∧ e.balancers.map (·.untyped) = v.balancers.map (·.untyped) := by
  rcases he with ⟨v, ⟨filled, rest, htargets, hv⟩, hve⟩ | hunderway
  · obtain ⟨created, hcreated⟩ := hv.before
    have hsound : v.Sound := h.course.sound.returns hcreated
    exact ⟨filled, rest, v, htargets, hv, hve.sound hsound, hve.balancers⟩
  · exact ⟨_, [], c2, (List.append_nil _).symm, h.course.ends, hunderway.sound,
      hunderway.balancers⟩

end Launch

/-! ## Load balancers -/

/-- Where there is no primary, ensuring it ends with its creation. -/
theorem ensurePrimary_changesLast : (ensurePrimary s).ChangesLast := by
  have hsilent : ∀ (b : LoadBalancer) (c : Cloud),
      (done { b with privateAddress := s.primary.privateAddress }).visits c = [] := fun _ _ => rfl
  obtain ⟨step, heq, hstep⟩ := ensurePrimary_steps s
  rw [heq]
  refine ReadOnly.changesLast_bind (orderly_ofExcept _) fun zt => ?_
  refine Site.findBalancer_readOnly.orNone.changesLast_bind fun found => ?_
  cases hstep zt found with
  | pinned address _ hp =>
    rw [hp]
    refine findAddressId_readOnly.changesLast_bind fun _ => ?_
    exact (Site.changesLast_in_zone _).bind_silent hsilent
  | kept b _ hp => exact hp ▸ trivial
  | created _ hp | migrated _ _ hp =>
    exact hp ▸ (Site.changesLast_in_zone _).bind_silent hsilent

namespace Launch

variable {h : Launch s q wanted new c0 c1 c2}

/-- The primary is made, or it is there already. -/
theorem ensurePrimary_achieves (he : h.Reached e) :
    (ensurePrimary s).Achieves h.Reached e fun r e' =>
      h.Begun e' ∧ r.untyped = (pinnedPrimary s q).untyped := by
  rcases he with rfl | hbegun
  · have hfirst : h.Begun c1 :=
      .inl ⟨c1, ⟨[], _, rfl, h.course.begins⟩, .refl c1⟩
    have hcreate := ensurePrimary_changesLast.achieves h.primary (P := h.Reached) (.inl rfl)
      (.inr hfirst)
    refine hcreate.mono (fun _ hP => hP) fun r e' _ _ hend => ?_
    rw [hend.1, hend.2]
    exact ⟨hfirst, rfl⟩
  · obtain ⟨filled, rest, v, htargets, hv, hsound, hsame⟩ := hbegun.exists_filled
    obtain ⟨q', hq', hqq'⟩ := h.course.exists_primary htargets hv hsound hsame
    have hzone : q'.untyped.zone = q.untyped.zone := congrArg LoadBalancer.zone hqq'
    have hzones : q'.untyped.zone ∈ s.site.zones := hzone ▸ h.course.zone
    refine (Topology.ensurePrimary_achieves hsound hq' hzones).mono
      (fun e' he' => .inr (hbegun.retyped he')) fun r e' hreturns he' _ => ?_
    refine ⟨hbegun.retyped he', ?_⟩
    obtain ⟨q'', rfl, hq''⟩ := ensurePrimary_spec hsound hreturns
    -- It is the primary that was there, of another type perhaps.
    obtain ⟨x, hx, hxq⟩ := exists_untyped he'.balancers.symm hq'.mem
    have hself : x = q'' :=
      hq''.only.unique x hx (isPrimary_of_untyped hxq.symm hq'.primary)
    rw [hself] at hxq
    exact LoadBalancer.pin_untyped (hxq.trans hqq') s.primary.privateAddress

/-- Load balancers are kept, and those that are missing are made. -/
theorem secondaries_of_filled
    (htargets : (Secondary.reconciler s).targets wanted = filled ++ rest)
    (hv : Filled s filled rest c1 c2 v) (hbegun : h.Begun e) (he : e.Sound)
    (hsame : e.balancers.map (·.untyped) = v.balancers.map (·.untyped))
    (hprivate : ∀ x ∈ listed s e, ∀ d, Secondary.declared s s.secondaries x = some d →
      Secondary.fitsPrivately s e x d = true)
    (hrest : ∀ e', e.Retyped e' → ((Secondary.reconciler s).createMissing [] rest).Achieves
      h.Begun e' fun _ e'' => Underway h.fleet e'') :
    (Secondary.ensure s s.secondaries).Achieves h.Begun e fun _ e' => Underway h.fleet e' := by
  rw [Secondary.ensure_eq, h.course.groups]
  dsimp only
  refine Secondary.list_readOnly.achieves_bind
    ((Site.findBalancers_returns (Secondary.tags_ne_nil s)).2 ⟨rfl, rfl⟩) ?_
  -- None that is there is given up, so that only the rest is to be made.
  have hretain := (h.course.retain_achieves htargets hv he hsame hprivate).mono
    (fun e' he' => hbegun.retyped he') fun kept e' _ he' hkept => And.intro he' hkept
  refine hretain.bind fun kept e' _ _ hkept => ?_
  rw [hkept.2]
  exact (hrest e' hkept.1).bind fun created e'' _ he'' hend => achieves_done he'' hend

/-- A secondary that is listed is one of those that the undisturbed run makes. -/
theorem pinned_mem (hsame : e.balancers.map (·.untyped) = c2.balancers.map (·.untyped))
    (hx : x ∈ e.balancers) (hsec : Secondary.IsSecondary s x) :
    (Secondary.pinned s s.secondaries x).untyped ∈ h.fleet.members ∧ x.id ∈ new.map (·.id) := by
  obtain ⟨y, hy, hyx⟩ := exists_untyped hsame hx
  have hysec : Secondary.IsSecondary s y := isSecondary_of_untyped hyx.symm hsec
  rw [h.adds.balancers, List.mem_append] at hy
  have hnew : y ∈ new := hy.resolve_left fun hold => h.course.apart y hold hysec
  have hpinned : (Secondary.pinned s s.secondaries y).untyped =
      (Secondary.pinned s s.secondaries x).untyped := by
    unfold Secondary.pinned
    rw [declared_of_untyped hyx]
    exact LoadBalancer.pin_untyped hyx _
  rw [← hpinned, ← LoadBalancer.id_eq_of_untyped hyx]
  exact ⟨List.mem_map_of_mem (mem_members.2 (.inl ⟨y, hnew, rfl⟩)), List.mem_map_of_mem hnew⟩

/-- The secondaries are made, or those that are missing, or none. -/
theorem secondaries_achieves (he : h.Begun e) :
    (Secondary.ensure s s.secondaries).Achieves h.Begun e fun _ e' => Underway h.fleet e' := by
  rcases he with ⟨v, ⟨filled, rest, htargets, hv⟩, hve⟩ | hunderway
  · obtain ⟨created, hcreated⟩ := hv.before
    have hsound : v.Sound := h.course.sound.returns hcreated
    refine secondaries_of_filled htargets hv (.inl ⟨v, ⟨filled, rest, htargets, hv⟩, hve⟩)
      (hve.sound hsound) hve.balancers (fun x hx d _ => ?_) fun e' he' => ?_
    -- What has been made holds no private address yet.
    · obtain ⟨hmem, hsec⟩ := Secondary.mem_listed.1 hx
      obtain ⟨y, hy, hyx⟩ := exists_untyped hve.balancers hmem
      have hown := owns_of_secondaryTags (isSecondary_of_untyped hyx.symm hsec).2
      have hblank := h.vacant.blank (h.restructures hv) hy hown
      rw [LoadBalancer.id_eq_of_untyped hyx] at hblank
      refine Secondary.fitsPrivately_of_none ?_
      rw [hve.rest]
      exact hblank.privateAddresses
    · refine (hv.achieves.retyped Secondary.createMissing_orderly (hve.trans he')).mono
        (fun e'' hP => ?_) fun _ e'' _ _ hQ => ?_
      · rw [← htargets] at hP
        exact .inl hP
      · obtain ⟨u, rfl, hu⟩ := hQ
        exact h.underway.retyped hu
  · refine secondaries_of_filled (List.append_nil _).symm h.course.ends (.inr hunderway)
      hunderway.sound hunderway.balancers (fun x hx d hd => ?_) fun e' he' => ?_
    · obtain ⟨hmem, hsec⟩ := Secondary.mem_listed.1 hx
      have hmember := (pinned_mem (h := h) hunderway.balancers hmem hsec).1
      have hpin : (Secondary.pinned s s.secondaries x).privateAddress = d.privateAddress := by
        unfold Secondary.pinned
        rw [hd]
        rfl
      exact Joining.fitsPrivately (b := Secondary.pinned s s.secondaries x) hpin
        fun networkId hnetwork => hunderway.joining_of_mem hnetwork hmember
    · exact achieves_done (.inr (hunderway.retyped he')) (hunderway.retyped he')

/-! ## What a run goes on with -/

/-- The primary and the secondaries that a run goes on with are those of the undisturbed run. -/
structure Crew (h : Launch s q wanted new c0 c1 c2) (b : LoadBalancer) (bs : List LoadBalancer) :
    Prop where
  members : ∀ x ∈ bs ++ [b], x.untyped ∈ h.fleet.members
  ids : ((bs ++ [b]).map (·.id)).Nodup
  main : b.id = h.fleet.main

/-- The secondaries that a run returns, and the primary, are those of the undisturbed run. -/
theorem crew_of_returns (he : h.Begun e) (hb : b.untyped = (pinnedPrimary s q).untyped)
    (hreturns : (Secondary.ensure s s.secondaries).Returns e bs e') (he' : Underway h.fleet e') :
    h.Crew b bs := by
  obtain ⟨_, _, _, _, _, hsound, _⟩ := he.exists_filled
  obtain ⟨all, rfl, hall⟩ := Secondary.ensure_spec hsound
    (Secondary.nodup_listed hsound h.course.zones) hreturns
  -- What the run returns are load balancers that earlier runs have made, but for types and pins.
  have hmember : ∀ x ∈ all, (Secondary.pinned s s.secondaries x).untyped ∈ h.fleet.members ∧
      x.id ∈ new.map (·.id) := fun x hx =>
    pinned_mem he'.balancers (hall.mem x hx) (hall.secondary x hx)
  have hmain : b.id = q.id := LoadBalancer.id_eq_of_untyped (y := pinnedPrimary s q) hb
  refine ⟨fun x hx => ?_, ?_, hmain⟩
  · rcases List.mem_append.1 hx with hsecondary | hprimary
    · obtain ⟨y, hy, rfl⟩ := List.mem_map.1 hsecondary
      exact (hmember y hy).1
    · rw [List.mem_singleton.1 hprimary, hb]
      exact List.mem_map_of_mem (mem_members.2 (.inr rfl))
  · have hids : (all.map (·.id)).Nodup :=
      List.Nodup.map_on (fun x hx y hy hid => he'.sound.balancers.inj (hall.mem x hx)
        (hall.mem y hy) hid) (List.Nodup.of_map _ hall.places)
    -- The primary is none of them: identifiers differ all over the fleet.
    have hnew := h.nodup_ids
    rw [map_id_members, List.map_append, List.nodup_append'] at hnew
    rw [List.map_append, Secondary.map_id_pinned, List.nodup_append']
    refine ⟨hids, List.nodup_singleton _, fun id hid hself => ?_⟩
    obtain ⟨x, hx, rfl⟩ := List.mem_map.1 hid
    rw [List.map_singleton, List.mem_singleton] at hself
    refine hnew.2.2 (hmember x hx).2 (List.mem_map.2 ⟨q, List.mem_singleton_self q, ?_⟩)
    rw [hself, hmain]

namespace Crew

/-- Each of them is one that the undisturbed run goes on with, but for its type. -/
theorem exists_member (hcrew : h.Crew b bs) (hx : x ∈ bs ++ [b]) :
    ∃ y ∈ Topology.members s q new, y.untyped = x.untyped :=
  List.mem_map.1 (hcrew.members x hx)

/-- The load balancers that a run goes on with are ready. -/
theorem checkReady_eq (hcrew : h.Crew b bs) : checkReady (bs ++ [b]) = .ok () := by
  refine checkReady_eq_ok.2 fun x hx => ?_
  obtain ⟨y, hy, hyx⟩ := hcrew.exists_member hx
  have hstatus : y.untyped.status = x.untyped.status := congrArg LoadBalancer.status hyx
  exact hstatus.symm.trans (h.ready y hy)

/-- Settled, they are still of the fleet. -/
theorem lists (hcrew : h.Crew b bs) (c : Cloud) (hx : x ∈ bs ++ [b]) :
    h.fleet.Lists (settled s c x) :=
  ⟨x.untyped, hcrew.members x hx, rfl, rfl⟩

/-- Their addresses can be published, once they are settled. -/
theorem exists_published (hcrew : h.Crew b bs) {c : Cloud}
    (hsettled : ∀ networkId, s.privateNetworkId = some networkId →
      ∀ x ∈ bs ++ [b], (settled s c x).privateAddress ≠ none) (hx : x ∈ bs ++ [b]) :
    ∃ address, publishedAddress s (settled s c x) = .ok address := by
  obtain ⟨y, hy, hyx⟩ := hcrew.exists_member hx
  obtain ⟨c3, _, hpublished⟩ := h.published
  obtain ⟨address, haddress⟩ := hpublished y hy
  obtain ⟨hid, _, _, _, _, _, haddresses, hpin⟩ := LoadBalancer.mk.inj hyx
  unfold publishedAddress at haddress ⊢
  cases hprivate : s.balancersPrivate with
  | false =>
    -- Public addresses come with the load balancer, which is the same but for its type.
    rw [hprivate, if_neg Bool.false_ne_true] at haddress
    rw [if_neg Bool.false_ne_true]
    have hsame : publicAddress (settled s c x) = publicAddress (settled s c3 y) := by
      unfold publicAddress LoadBalancer.firstV4 settled
      rw [← hid, ← haddresses]
    exact ⟨address, hsame.trans haddress⟩
  | true =>
    -- A private address is pinned, or one that it holds on the network.
    rw [hprivate, if_pos rfl] at haddress
    rw [if_pos rfl]
    have hne : (settled s c x).privateAddress ≠ none := by
      cases hnetwork : s.privateNetworkId with
      | some networkId => exact hsettled networkId hnetwork x hx
      | none =>
        intro hnone
        unfold privateAddress at haddress
        unfold settled at hnone haddress
        rw [hnetwork] at hnone haddress
        dsimp only [Option.bind_none] at hnone haddress
        rw [hpin, hnone] at haddress
        cases haddress
    unfold privateAddress
    obtain ⟨a, ha⟩ := Option.ne_none_iff_exists'.1 hne
    rw [ha]
    exact ⟨a, rfl⟩

end Crew

/-! ## Whole runs -/

/-- Everything is arranged, wherever earlier runs have come. -/
theorem arrange_achieves (he : h.Reached e) :
    (arrange s).Achieves h.Reached e fun r e' => Underway h.fleet e' ∧
      ∀ x ∈ r.2 ++ [r.1], ∃ address, publishedAddress s x = .ok address := by
  unfold arrange
  refine (ensurePrimary_achieves he).bind fun b e1 _ _ ⟨he1, hb⟩ => ?_
  refine ((secondaries_achieves he1).mono (fun _ hP => .inr hP) fun bs e2 hreturns _ he2 =>
    And.intro hreturns he2).bind fun bs e2 _ _ ⟨hsecondaries, he2⟩ => ?_
  have hcrew := crew_of_returns he1 hb hsecondaries he2
  refine ReadOnly.achieves_bind (orderly_ofExcept _)
    (returns_ofExcept.2 ⟨hcrew.checkReady_eq, rfl⟩) ?_
  -- From here on the cloud is underway all the way.
  refine Achieves.mono (P := Underway h.fleet) ?_ (fun _ hP => .inr (.inr hP))
    fun _ _ _ hP hQ => ⟨hP, hQ⟩
  have hbooks : ∀ networkId, s.privateNetworkId = some networkId → ∀ y ∈ h.fleet.members,
      y.privateAddress = none → h.fleet.base.booksAddresses = true :=
    fun networkId hnetwork y hy hnone => h.books hnetwork hy hnone
  refine (he2.ensurePrivateNetwork_achieves hcrew.members hcrew.ids hbooks).bind
    fun resolved e3 hnetwork he3 _ => ?_
  obtain ⟨rfl, _, hsettled⟩ := ensurePrivateNetwork_spec hnetwork
  obtain ⟨hprimary, hothers⟩ := settled_append (s := s) e3 b bs
  dsimp only
  rw [hprimary, hothers]
  have hlists : ∀ x ∈ settled s e3 b :: bs.map (settled s e3), h.fleet.Lists x := by
    refine List.forall_mem_cons.2 ⟨?_, fun x hx => ?_⟩
    · exact hcrew.lists e3 (List.mem_append_right _ (List.mem_singleton_self b))
    · obtain ⟨y, hy, rfl⟩ := List.mem_map.1 hx
      exact hcrew.lists e3 (List.mem_append_left _ hy)
  refine (he3.ensureBackends_achieves hlists).bind fun ks e4 hbackends he4 hks => ?_
  have hkeys : ∀ k ∈ ks, k.balancerId ∈ h.fleet.members.map (·.id) := by
    intro k hk
    obtain ⟨_, x, hx, hid⟩ := hks k hk
    obtain ⟨y, hy, hyid, _⟩ := hlists x hx
    rw [hid, ← hyid]
    exact List.mem_map_of_mem hy
  obtain ⟨main, more, hcons, hmainBackend, _, _, hthere⟩ := ensureBackends_spec he3.sound hbackends
  have hmem : ∀ k ∈ ks, k ∈ e4.backends := by
    intro k hk
    obtain ⟨x, _, hx⟩ := hthere k hk
    exact hx.mem
  refine (he4.ensureFrontends_achieves (fun k hk => ⟨(hks k hk).1, hkeys k hk⟩) hmem).bind
    fun m e5 hfrontends he5 _ => ?_
  have hknown : FrontendMap.Maps [] e4 := nofun
  obtain ⟨hmaps, _, hmkeys, _⟩ := ensureFrontends_spec hknown List.nodup_nil hfrontends
  have hmain : h.fleet.main ∈ ks.map (·.balancerId) := by
    have hid : main.balancerId = h.fleet.main := hmainBackend.balancerId.trans hcrew.main
    rw [hcons, ← hid]
    exact List.mem_map_of_mem List.mem_cons_self
  have hid : (settled s e3 b).id = h.fleet.main := hcrew.main
  rw [hid]
  refine (he5.sync_achieves hmaps (fun id hm => ?_) ((hmkeys _).2 (.inr hmain))).bind
    fun _ e6 _ he6 _ => achieves_done he6 fun x hx => ?_
  · obtain ⟨k, hk, rfl⟩ := List.mem_map.1 (((hmkeys id).1 hm).resolve_left List.not_mem_nil)
    exact hkeys k hk
  · have hx' : x ∈ (bs ++ [b]).map (settled s e3) := by
      rw [List.map_append]
      exact hx
    obtain ⟨y, hy, rfl⟩ := List.mem_map.1 hx'
    exact hcrew.exists_published (fun networkId hnetwork z hz =>
      ((hsettled networkId hnetwork).2 z hz).2.2) hy

end Launch

/-- Publishing succeeds where every load balancer has an address to publish. -/
theorem publish_achieves {P : Cloud → Prop} (hP : P e)
    (h : ∀ x ∈ bs ++ [b], ∃ address, publishedAddress s x = .ok address) :
    (publish s b bs).Achieves P e fun _ _ => True := by
  obtain ⟨main, hmain⟩ := h b (List.mem_append_right _ (List.mem_singleton_self b))
  obtain ⟨others, hothers⟩ : ∃ others,
      (bs.mergeSort byZoneAndName).mapM (publishedAddress s) = .ok others :=
    exists_mapM_iff.2 fun x hx => h x (List.mem_append_left _ (List.mem_mergeSort.1 hx))
  unfold publish
  -- Reports leave the cloud alone, and the addresses are computed from the load balancers only.
  refine Achieves.bind (achieves_ofExcept hmain hP ⟨rfl, rfl⟩)
    (Q := fun a c => a = main ∧ c = e) fun _ _ _ _ ⟨_, hc⟩ => ?_
  rw [hc]
  refine Achieves.bind (achieves_emit _ hP rfl) (Q := fun _ c => c = e) fun _ _ _ _ hc => ?_
  rw [hc]
  refine Achieves.bind (achieves_ofExcept hothers hP rfl) (Q := fun _ c => c = e)
    fun _ _ _ _ hc => ?_
  rw [hc]
  exact achieves_emit _ hP trivial

/-- A run succeeds from wherever earlier ones have come, and stays where a run can start again. -/
theorem Launch.reconcile_achieves {h : Launch s q wanted new c0 c1 c2} (he : h.Reached e) :
    (reconcile s).Achieves h.Reached e fun _ _ => True := by
  rw [reconcile_eq]
  refine (Launch.arrange_achieves he).bind fun r e' _ he' hr => ?_
  exact publish_achieves he' hr.2

/-- The cloud that runs leave, one after the other, each in its circumstances. -/
def attempted (s : Scope) (c : Cloud) (attempts : List Circumstances) : Cloud :=
  attempts.foldl (fun c k => k.leaves (reconcile s) c) c

/-- Attempts lead from a reached cloud to a reached one. -/
theorem Launch.reached_attempted {h : Launch s q wanted new c0 c1 c2}
    {attempts : List Circumstances} (gentle : ∀ k ∈ attempts, k.Gentle) (he : h.Reached e) :
    h.Reached (attempted s e attempts) := by
  induction attempts generalizing e with
  | nil => exact he
  | cons k rest ih =>
    obtain ⟨hk, hrest⟩ := List.forall_mem_cons.1 gentle
    exact ih hrest (hk.passes reconcile_brittle (Launch.reconcile_achieves he).upholds).2

/-! ## What they end with -/

/-- Two clouds have the same load balancers but for their types, and each one of the cluster has the
same pool on both, and the same rules up to order. -/
structure SameTopology (s : Scope) (c c' : Cloud) : Prop where
  balancers : c'.balancers.map (·.untyped) = c.balancers.map (·.untyped)
  pools : ∀ b ∈ c.balancers, InTopology s b →
    ∃ k k', HasBackend c b.id k ∧ HasBackend c' b.id k' ∧ k'.pool = k.pool
  rules : ∀ b ∈ c.balancers, InTopology s b →
    ∃ f f', HasFrontend c b.id f ∧ HasFrontend c' b.id f' ∧
      ((Access.rulesOf c' f'.id).map (·.toRuleSpec)).Perm
        ((Access.rulesOf c f.id).map (·.toRuleSpec))

/-- Whether a load balancer is in the topology does not depend on its type. -/
theorem inTopology_of_untyped (h : x.untyped = y.untyped) (hx : InTopology s x) :
    InTopology s y :=
  hx.imp (isPrimary_of_untyped h) (isSecondary_of_untyped h)

namespace Phases

variable {ks : List Backend} {m : FrontendMap} {c c3 c4 c5 c' : Cloud} {fleet : Fleet s}

/-- After a run that has come to its end, no load balancer of the fleet has servers. -/
theorem pool_of_underway (h : Phases s b bs ks m c c1 c2 c3 c4 c5 c') (hc : c.Sound)
    (hend : Underway fleet c') (hx : x ∈ c'.balancers) (htop : InTopology s x)
    (hmember : x.id ∈ fleet.members.map (·.id)) :
    ∃ k, HasBackend c' x.id k ∧ k.pool = [] := by
  obtain ⟨k, hk⟩ := (h.wired hc).backend x hx htop
  obtain ⟨y, hy, hid⟩ := List.mem_map.1 hmember
  have hpool := hend.pools y hy
  rw [hid] at hpool
  rcases hpool with hnone | ⟨k', hk', _, hempty⟩
  · exact absurd (hk.symm.trans hnone) (List.cons_ne_nil _ _)
  · exact ⟨k', hk', hempty⟩

/-- After a run that has come to its end, the rules of a load balancer are the desired ones. -/
theorem rules_of_underway (h : Phases s b bs ks m c c1 c2 c3 c4 c5 c') (hc : c.Sound)
    (hend : Underway fleet c') (hx : x ∈ c'.balancers) (htop : InTopology s x)
    (hmember : x.id ∈ fleet.members.map (·.id)) :
    ∃ f, HasFrontend c' x.id f ∧ ((Access.rulesOf c' f.id).map (·.toRuleSpec)).Perm
      (Access.drafts fleet.desired) := by
  obtain ⟨f, hentry, hf⟩ := h.exists_frontend hc hx htop
  obtain ⟨f0, hlookup, _, hrules, _, hcopies⟩ := Access.sync_spec (h.sound_frontends hc) h.rules
  have hdesired : Access.desiredOn s c5 = fleet.desired := by
    rw [← hend.desired_eq]
    unfold Access.desiredOn
    rw [h.gatewaySubnets_eq hc]
  rw [hdesired] at hrules
  have hall : ∀ d ∈ fleet.desired, Access.HasRule (Access.rulesOf c' f.id) d.name d.subnets := by
    intro d hd
    by_cases hself : x.id = b.id
    · have hprimary : (b.id, f0) ∈ m :=
        (Reconciler.lookup_eq_some_iff_mem h.frontends_spec.2.1).1 hlookup
      have hf0 : HasFrontend c' x.id f0 := hself ▸ h.frontends_spec.1 _ hprimary
      rw [hf.unique hf0]
      exact hrules d hd
    -- The rules of a secondary agree with the primary's.
    · have hagree := (hcopies _ hentry hself).2
      exact (hrules d hd).of_under (Access.agree_iff.1 hagree d.name).symm
  obtain ⟨y, hy, hid⟩ := List.mem_map.1 hmember
  have hnodup : (Access.rulesOf c' f.id).Nodup :=
    (List.Nodup.of_map _ hend.sound.rules.nodup).filter _
  exact ⟨f, hf, Access.perm_drafts (Access.nodup_desiredOn s fleet.base) hnodup
    (hend.drafted y hy f (hid ▸ hf)) hall⟩

end Phases

/-- Two runs that have come to their ends with one fleet leave the same topology. -/
theorem Launch.sameTopology (h : Launch s q wanted new c0 c1 c2)
    {deadline deadline' : Option Seconds} {x x' y y' : Session Cloud} {u u' : Unit}
    (hx : x.world.store.Sound) (hy : y.world.store.Sound)
    (hrun : (reconcile s).run Cloud.provider deadline x = (.ok u, x'))
    (hrun' : (reconcile s).run Cloud.provider deadline' y = (.ok u', y'))
    (hend : Underway h.fleet x'.world.store) (hend' : Underway h.fleet y'.world.store) :
    SameTopology s x'.world.store y'.world.store := by
  obtain ⟨_, _, _, _, harrange, _⟩ := reconcile_run hrun
  obtain ⟨_, _, _, _, harrange', _⟩ := reconcile_run hrun'
  obtain ⟨_, _, _, _, _, _, _, _, _, _, hphases⟩ := arrange_returns harrange
  obtain ⟨_, _, _, _, _, _, _, _, _, _, hphases'⟩ := arrange_returns harrange'
  have hsame : y'.world.store.balancers.map (·.untyped) =
      x'.world.store.balancers.map (·.untyped) := hend'.balancers.trans hend.balancers.symm
  -- What is of the cluster is a member of the fleet, and is on both clouds.
  have hboth : ∀ b ∈ x'.world.store.balancers, InTopology s b →
      b.id ∈ h.fleet.members.map (·.id) ∧
        ∃ b' ∈ y'.world.store.balancers, InTopology s b' ∧ b'.id = b.id := by
    intro b hb htop
    obtain ⟨z, hz, hzb⟩ := exists_untyped hend.balancers hb
    have hmem := h.mem_of_inTopology hz (inTopology_of_untyped hzb.symm htop)
    obtain ⟨b', hb', hbb'⟩ := exists_untyped hsame.symm hb
    refine ⟨?_, b', hb', inTopology_of_untyped hbb'.symm htop, LoadBalancer.id_eq_of_untyped hbb'⟩
    have hids : h.fleet.members.map (·.id) = (new ++ [q]).map (·.id) := by
      rw [← map_id_members]
      exact List.map_map
    rw [hids, ← LoadBalancer.id_eq_of_untyped hzb]
    exact List.mem_map_of_mem hmem
  refine ⟨hsame, fun b hb htop => ?_, fun b hb htop => ?_⟩
  · obtain ⟨hmember, b', hb', htop', hid⟩ := hboth b hb htop
    obtain ⟨k, hk, hpool⟩ := hphases.pool_of_underway hx hend hb htop hmember
    obtain ⟨k', hk', hpool'⟩ := hphases'.pool_of_underway hy hend' hb' htop' (hid ▸ hmember)
    exact ⟨k, k', hk, hid ▸ hk', hpool'.trans hpool.symm⟩
  · obtain ⟨hmember, b', hb', htop', hid⟩ := hboth b hb htop
    obtain ⟨f, hf, hperm⟩ := hphases.rules_of_underway hx hend hb htop hmember
    obtain ⟨f', hf', hperm'⟩ := hphases'.rules_of_underway hy hend' hb' htop' (hid ▸ hmember)
    exact ⟨f, f', hf, hid ▸ hf', hperm'.trans hperm.symm⟩

/-- No interruption wedges a cluster. If a run succeeds on a cloud where the cluster owns no load
balancers, then however often it is tried there, and wherever each try is cut short, by a failure
that is not taken for a finding or by the end of its time, the next run that is not interrupted
succeeds and ends with the same topology. No address may be pinned twice in the declaration, which
settings that are read always meet (`Settings.clashes_of_read`). -/
theorem reconcile_resumes {deadline deadline' : Option Seconds} {x x' y : Session Cloud} {u : Unit}
    (hc : Vacant s x.world.store) (hzones : s.site.zones.Nodup)
    (hclashes : s.cluster.network.clashes = [])
    (hrun : (reconcile s).run Cloud.provider deadline x = (.ok u, x'))
    (attempts : List Circumstances) (gentle : ∀ k ∈ attempts, k.Gentle)
    (hstore : y.world.store = attempted s x.world.store attempts) (hlive : y.Live deadline') :
    ∃ y', (reconcile s).run Cloud.provider deadline' y = (.ok (), y') ∧
      SameTopology s x'.world.store y'.world.store := by
  obtain ⟨b, bs, main, others, harrange, hmain, hothers, _⟩ := reconcile_run hrun
  obtain ⟨b, bs, ks, m, c1, c2, c3, c4, c5, hr, hphases⟩ := arrange_returns harrange
  obtain ⟨rfl, rfl⟩ := Prod.mk.inj hr
  -- The undisturbed run has published an address of each of its load balancers.
  have hpublished : ∀ z ∈ bs ++ [b], ∃ address,
      publishedAddress s (settled s c3 z) = .ok address := by
    intro z hz
    rcases List.mem_append.1 hz with hsecondary | hprimary
    · exact exists_mapM_iff.1 ⟨others, hothers⟩ _
        (List.mem_mergeSort.2 (List.mem_map_of_mem hsecondary))
    · rw [List.mem_singleton.1 hprimary]
      exact ⟨main, hmain⟩
  obtain ⟨q, wanted, new, h, _⟩ := hphases.launch hc hzones hclashes hpublished
  -- It ends on a cloud that is underway to itself, and the attempts have reached one as well.
  have hend : Underway h.fleet x'.world.store :=
    ((Launch.arrange_achieves (h := h) (.inl rfl)).end_of_returns harrange).1
  have hy : h.Reached y.world.store := hstore ▸ Launch.reached_attempted gentle (.inl rfl)
  -- From any reached cloud a run succeeds, with the same load balancers in the end.
  obtain ⟨_, c', hreturns, _⟩ := (Launch.reconcile_achieves hy).returns
  obtain ⟨y', hrun', _⟩ := reconcile_brittle.run_of_returns hlive hreturns
  obtain ⟨_, _, _, _, harrange', _⟩ := reconcile_run hrun'
  have hend' : Underway h.fleet y'.world.store :=
    ((Launch.arrange_achieves hy).end_of_returns harrange').1
  have hysound : y.world.store.Sound := by
    rcases hy with heq | hbegun
    · exact heq ▸ hc.sound
    · obtain ⟨_, _, _, _, _, hsound, _⟩ := hbegun.exists_filled
      exact hsound
  exact ⟨y', hrun', h.sameTopology hc.sound hysound hrun hrun' hend hend'⟩

end Topology

namespace Sample

/-- A cluster with a secondary that is pinned to a private address. -/
def pinnedScope : Scope where
  site := (scope []).site
  cluster :=
    { name := "demo"
      namespaceName := "infra"
      network :=
        { privateNetwork := { enabled := true, id := some "net" }
          primary := { allowedRanges := ["10.0.0.0/8"] }
          secondaries := [{ zone := some "fr-par-2", privateAddress := some "172.16.0.7" }] } }

/-- A cloud with nothing of the cluster but a gateway, and with an address to pin. -/
def vacantCloud : Cloud where
  balancers :=
    [{ id := "other", zone := "fr-par-1", name := "demo", type := "lb-s", tags := ["lb=main"] }]
  gateways := cloud.gateways
  privateAddresses := [{ id := "booked", address := "172.16.0.7", networkId := "net" }]

/-- The cloud of the examples holds nothing of the cluster. -/
theorem vacantCloud_vacant : Topology.Vacant pinnedScope vacantCloud := by
  refine ⟨?_, ⟨nofun, nofun, nofun, nofun, fun a ha n _ => ?_⟩, by decide +kernel⟩
  · refine ⟨?_, ?_, ?_, ?_, ?_, ?_⟩ <;> exact .of_foreign (by decide +kernel) (by decide +kernel)
  · rw [List.mem_singleton.1 ha]
    exact nofun

/-- A try that cannot make the secondary, one that is out of time, and one that cannot attach the
second load balancer. -/
def tries : List Circumstances :=
  [{ disturbances := [{ endpoint := "create_lb", nth := some 2
                        failure := some (.ofFault ⟨.general, .noTags⟩) }] },
   { deadline := some 9, step := 1 },
   { disturbances := [{ endpoint := "attach_private_network", nth := some 2
                        failure := some (.ofFault ⟨.general, .noTags⟩) }] }]

/-- The attempts of the example are gentle. -/
theorem tries_gentle : ∀ k ∈ tries, k.Gentle := by
  have hfailure : ∀ d : Disturbance, d.failure = some (.ofFault ⟨.general, .noTags⟩) →
      ∀ e, d.failure = some e → e.isNotFound = false := by
    intro d hd e he
    rw [hd] at he
    rw [← Option.some.inj he]
    decide +kernel
  refine List.forall_mem_cons.2 ⟨List.forall_mem_singleton.2 (hfailure _ rfl), ?_⟩
  refine List.forall_mem_cons.2 ⟨List.forall_mem_nil _, ?_⟩
  exact List.forall_mem_singleton.2 (List.forall_mem_singleton.2 (hfailure _ rfl))

end Sample

namespace Topology

/-- A run after three attempts that were cut off returns, and leaves the same topology as a run that
was not disturbed. -/
theorem sample_run_resumes : ∃ x' y', (reconcile Sample.pinnedScope).run Cloud.provider none
      (Sample.session Sample.vacantCloud) = (.ok (), x') ∧
    (reconcile Sample.pinnedScope).run Cloud.provider none
      (Sample.session (attempted Sample.pinnedScope Sample.vacantCloud Sample.tries)) =
        (.ok (), y') ∧
    SameTopology Sample.pinnedScope x'.world.store y'.world.store := by
  obtain ⟨_, x', h⟩ := Sample.exists_of_isOk (r := (reconcile Sample.pinnedScope).run
    Cloud.provider none (Sample.session Sample.vacantCloud)) (by decide +kernel)
  have hresumes : ∀ c, c = attempted Sample.pinnedScope Sample.vacantCloud Sample.tries →
      ∃ y', (reconcile Sample.pinnedScope).run Cloud.provider none (Sample.session c) =
          (.ok (), y') ∧
        SameTopology Sample.pinnedScope x'.world.store y'.world.store := fun c hstore =>
    reconcile_resumes (y := Sample.session c) Sample.vacantCloud_vacant (by decide +kernel)
      (by decide +kernel) h Sample.tries Sample.tries_gentle hstore rfl
  obtain ⟨y', hrun, hsame⟩ := hresumes _ rfl
  exact ⟨x', y', h, hrun, hsame⟩

end Topology

end ControlPlane
