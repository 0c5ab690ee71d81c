import ControlPlane.Proofs.Provider.Exchanges
import ControlPlane.Proofs.Topology.Resumption
import ControlPlane.Proofs.Topology.Undergrowth

/-!
# Deletion undoes whatever was run

Runs of a cluster, on a cloud where it owned no load balancer and none of the addresses that it pins
was bound, may be of any kind and number, and cut short anywhere. A deletion that succeeds after
them leaves what was there at first, and nothing else (`delete_undoes`): what was allocated on the
way is released, and what is pinned is only given back.

Every cloud on the way is reversible (`reversible_aftermath`). A deletion that succeeds leaves no
load balancer of the cluster (`Reversible.none_left`), and a cloud that lies over another one
without any is that one. A further deletion finds nothing to do (`delete_idles`).
-/

namespace ControlPlane

open Program hiding ofExcept

namespace Topology

variable {s : Scope} {c0 c c' : Cloud}

/-! ## What a deletion leaves -/

/-- In the zone that is declared there was no primary, or there was one, and it is gone. -/
theorem deletePrimary_cases {u : Unit} {zone : String}
    (hresolve : s.site.region.resolve s.primary.zone = .ok zone)
    (h : (deletePrimary s).Returns c u c') :
    (c.balancers.filter (isPrimaryIn s zone) = [] ∧ c' = c) ∨
      ∃ p, c.balancers.filter (isPrimaryIn s zone) = [p] ∧
        c'.balancers = c.balancers.filter (·.id ≠ p.id) := by
  cases hok : s.primary.resolve s.site.region with
  | error e =>
    unfold BalancerSpec.resolve at hok
    rw [hresolve] at hok
    cases hok
  | ok zt =>
    -- The type plays no part: the zone is the one that the declaration resolves to.
    have hzone : zt.1 = zone :=
      Except.ok.inj ((BalancerSpec.resolve_eq_ok hok).1.symm.trans hresolve)
    obtain ⟨step, heq, hstep⟩ := deletePrimary_steps hok
    rw [heq] at h
    obtain ⟨found, c1, hfind, hrest⟩ := returns_bind.1 h
    obtain ⟨_, hfilter, rfl⟩ := (Site.findBalancer_returns (primaryTags_ne_nil s)).1 hfind
    rw [hzone] at hfilter
    cases hstep found with
    | gone hp =>
      rw [hp] at hrest
      exact .inl ⟨hfilter, (returns_done.1 hrest).2⟩
    | deleted p hp =>
      rw [hp] at hrest
      have hc' := (Cloud.deleteBalancer_effect (Site.deleteBalancer_returns.1 hrest).2).2
      exact .inr ⟨p, hfilter, congrArg Cloud.balancers hc'⟩

/-- Deleting the primary leaves none. -/
theorem deletePrimary_leaves {u : Unit} (h : (deletePrimary s).Returns c u c') :
    ∀ b ∈ c'.balancers, ¬IsPrimary s b := by
  rintro b hb ⟨hresolve, htags⟩
  have hp : isPrimaryIn s b.zone b = true := Bool.and_eq_true_iff.2 ⟨htags, decide_eq_true rfl⟩
  rcases deletePrimary_cases hresolve h with ⟨hfilter, rfl⟩ | ⟨p, hfilter, hc'⟩
  · exact List.filter_eq_nil_iff.1 hfilter b hb hp
  · rw [hc'] at hb
    obtain ⟨hmem, hne⟩ := List.mem_filter.1 hb
    -- It would have been found, and is the one that has been deleted.
    have hself : b ∈ [p] := hfilter ▸ List.mem_filter.2 ⟨hmem, hp⟩
    exact of_decide_eq_true hne (congrArg LoadBalancer.id (List.mem_singleton.1 hself))

/-- Ensuring that there are no secondaries leaves none. -/
theorem ensure_none_leaves (hc : c.Sound) (hzones : s.site.zones.Nodup) {bs : List LoadBalancer}
    (h : (Secondary.ensure s []).Returns c bs c') :
    ∀ b ∈ c'.balancers, ¬Secondary.IsSecondary s b := by
  intro b hb hsec
  obtain ⟨all, _, hall⟩ := Secondary.ensure_spec hc (Secondary.nodup_listed hc hzones) h
  obtain ⟨d, hd, _⟩ := hall.fits b (hall.complete b hb hsec)
  cases hd

/-- A deletion that succeeds leaves no load balancer of the cluster. -/
theorem Reversible.none_left (h : Reversible s c0 c) (hzones : s.site.zones.Nodup) {u : Unit}
    (hdelete : (delete s).Returns c u c') : ∀ b ∈ c'.balancers, s.owns b.tags = false := by
  have h' : Reversible s c0 c' := h.upholds_delete.of_returns hdelete
  obtain ⟨_, c1, hprimary, hrest⟩ := returns_bind.1 hdelete
  obtain ⟨bs, hensure⟩ := returns_discard.1 hrest
  have hsound : c1.Sound := h.overlay.sound.returns hprimary
  intro b hb
  rw [Bool.eq_false_iff]
  intro hown
  rcases (h'.made b hb hown).2 with hp | hsec
  · -- Ensuring secondaries makes no primary.
    rcases (Secondary.ensure_covers hsound hensure).1 b hb with ⟨b1, hb1, heq⟩ | htags
    · rw [heq] at hp
      exact deletePrimary_leaves hprimary b1 hb1 hp
    · exact not_isPrimary_of_tags htags hp
  · exact ensure_none_leaves hsound hzones hensure b hb hsec

/-! ## What a further deletion does -/

/-- Where a primary could be looked for, and there is none, nothing is to be deleted. -/
theorem deletePrimary_idles {u : Unit} {e : Cloud} (h : (deletePrimary s).Returns c u c')
    (hnone : ∀ b ∈ e.balancers, s.owns b.tags = false) : (deletePrimary s).Idles e () := by
  cases hresolve : s.primary.resolve s.site.region with
  | error f => exact deletePrimary_of_error hresolve ▸ idles_done _ e
  | ok zt =>
    obtain ⟨step, heq, hstep⟩ := deletePrimary_steps hresolve
    rw [heq] at h ⊢
    obtain ⟨found, c1, hfind, _⟩ := returns_bind.1 h
    -- The deletion before has passed the check of the zone, so this one does too.
    have hzone := ((Site.findBalancer_returns (primaryTags_ne_nil s)).1 hfind).1
    have hfilter : e.balancers.filter (isPrimaryIn s zt.1) = [] :=
      List.filter_eq_nil_iff.2 fun b hb hp => Bool.false_ne_true
        ((hnone b hb).symm.trans (owns_of_primaryTags (Bool.and_eq_true_iff.1 hp).1))
    have hlookup : (s.site.findBalancer zt.1 (primaryTags s)).orNone.Idles e none :=
      Site.findBalancer_readOnly.orNone.idles
        ((Site.findBalancer_returns (primaryTags_ne_nil s)).2 ⟨hzone, hfilter, rfl⟩)
    refine hlookup.bind ?_
    cases hstep none with
    | gone hp => exact hp ▸ idles_done _ e

/-- After a deletion that has succeeded, another one only looks for load balancers. -/
theorem delete_idles {u : Unit} {e : Cloud} (h : (delete s).Returns c u c')
    (hnone : ∀ b ∈ e.balancers, s.owns b.tags = false) : (delete s).Idles e () := by
  obtain ⟨_, c1, hprimary, _⟩ := returns_bind.1 h
  -- Nothing is listed, so that there is nothing to retain and nothing to delete.
  have hlisted : s.site.balancersWith (Secondary.tags s) e = [] := by
    refine List.eq_nil_iff_forall_not_mem.2 fun b hb => ?_
    obtain ⟨hmem, hsec⟩ := Secondary.mem_listed.1 hb
    exact Bool.false_ne_true ((hnone b hmem).symm.trans (owns_of_secondaryTags hsec.2))
  have hgroups : (Secondary.reconciler s).groups [] = .ok [] := rfl
  have hensure := Secondary.ensure_idles hgroups (c := e) (by rw [hlisted]; exact List.nodup_nil)
    (by rw [hlisted]; exact List.forall_mem_nil _) fun _ _ hi => absurd hi (Nat.not_lt_zero _)
  refine (deletePrimary_idles hprimary hnone).bind ?_
  exact hensure.bind (idles_done _ e)

/-! ## Histories -/

/-- The cloud that runs of a cluster leave, one after the other, each in its circumstances. -/
def aftermath (s : Scope) (c : Cloud) (runs : List (Job × Circumstances)) : Cloud :=
  runs.foldl (fun c r => r.2.leaves (r.1.program s) c) c

/-- What every job upholds holds after any history of runs, if no request fails as a look-up does
that finds nothing. -/
theorem aftermath_keeps {P : Cloud → Prop} (hjob : ∀ c, P c → ∀ j : Job, (j.program s).Upholds P c)
    (hc : P c) {runs : List (Job × Circumstances)} (gentle : ∀ r ∈ runs, r.2.Gentle) :
    P (aftermath s c runs) := by
  induction runs generalizing c with
  | nil => exact hc
  | cons r rest ih =>
    obtain ⟨hr, hrest⟩ := List.forall_mem_cons.1 gentle
    exact ih (hr.passes (Job.brittle s r.1) (hjob c hc r.1)).2 hrest

/-- Gentle runs of all jobs keep a cloud reversible. -/
theorem reversible_aftermath (h : Reversible s c0 c) (hzones : s.site.zones.Nodup)
    {runs : List (Job × Circumstances)} (gentle : ∀ r ∈ runs, r.2.Gentle) :
    Reversible s c0 (aftermath s c runs) :=
  aftermath_keeps (fun _ hc j => hc.upholds_job hzones j) h gentle

/-- Deletion undoes whatever was run for a cluster. From a cloud on which it owns no load balancer
and no address that it pins is bound, let runs of any kind come one after the other, and be cut
short anywhere but by a failure that is taken for a finding. If a deletion succeeds then, the cloud
holds what it held at first, its flexible addresses among it, and a further deletion sends look-ups
only. -/
theorem delete_undoes (hc : Vacant s c) (hzones : s.site.zones.Nodup) (hpins : PinsFree s c)
    (runs : List (Job × Circumstances)) (gentle : ∀ r ∈ runs, r.2.Gentle)
    {deadline : Option Seconds} {y y' : Session Cloud} {u : Unit}
    (hstore : y.world.store = aftermath s c runs)
    (hrun : (delete s).run Cloud.provider deadline y = (.ok u, y')) :
    Cloud.Matches c y'.world.store ∧
      ∀ (deadline' : Option Seconds) (z : Session Cloud), z.world.store = y'.world.store →
        ∀ k ∈ (delete s).exchanges Cloud.provider deadline' z, k.request.isMutation = false := by
  have hdelete : (delete s).Returns y.world.store u y'.world.store := delete_orderly.returns hrun
  have hy : Reversible s c y.world.store := by
    rw [hstore]
    exact reversible_aftermath (.of_vacant hc hpins) hzones gentle
  -- With the last load balancer of the cluster gone, the overlay on the first cloud is empty.
  have hnone := hy.none_left hzones hdelete
  have hy' : Reversible s c y'.world.store := hy.upholds_delete.of_returns hdelete
  refine ⟨hy'.overlay.matches_of_none hnone, fun deadline' z hz => ?_⟩
  have hidles : (delete s).Idles z.world.store () := by
    rw [hz]
    exact delete_idles hdelete hnone
  exact hidles.exchanges

end Topology

namespace Sample

/-- A public cluster that pins the address of its primary and lets its secondary be given one. -/
def publicScope : Scope where
  site := (scope []).site
  cluster :=
    { name := "demo"
      namespaceName := "infra"
      network :=
        { primary := { address := some "51.15.1.1", allowedRanges := ["10.0.0.0/8"] }
          secondaries := [{ zone := some "fr-par-2" }] } }

/-- A cloud with the address to pin, and with a load balancer of someone else. -/
def leasedCloud : Cloud where
  balancers :=
    [{ id := "other", zone := "fr-par-1", name := "demo", type := "lb-s", tags := ["lb=main"] }]
  addresses :=
    [{ id := "first", address := "51.15.1.1", zone := "fr-par-1" },
     { id := "second", address := "51.15.1.2", zone := "fr-par-1", balancerId := some "other" }]

/-- The cloud of the examples holds nothing of the cluster yet. -/
theorem leasedCloud_vacant : Topology.Vacant publicScope leasedCloud := by
  refine ⟨?_, ⟨nofun, nofun, nofun, nofun, nofun⟩, by decide +kernel⟩
  refine ⟨?_, ?_, ?_, ?_, ?_, ?_⟩ <;> exact .of_foreign (by decide +kernel) (by decide +kernel)

/-- A run that cannot make the secondary, one that comes to its end, a member that registers, and a
run that is out of time. -/
def errands : List (Job × Circumstances) :=
  [(.reconcile, { disturbances := [{ endpoint := "create_lb", nth := some 2
                                     failure := some (.ofFault ⟨.general, .noTags⟩) }] }),
   (.reconcile, {}),
   (.register "node" "10.1.0.7" ["198.51.100.7"], {}),
   (.reconcile, { deadline := some 3, step := 1 })]

/-- The runs of the example are gentle. -/
theorem errands_gentle : ∀ r ∈ errands, r.2.Gentle := by
  have hnone : ∀ d ∈ ([] : List Disturbance), ∀ e, d.failure = some e → e.isNotFound = false :=
    List.forall_mem_nil _
  refine List.forall_mem_cons.2 ⟨List.forall_mem_singleton.2 fun e he => ?_, ?_⟩
  · rw [← Option.some.inj he]
    decide +kernel
  · exact List.forall_mem_cons.2 ⟨hnone, List.forall_mem_cons.2 ⟨hnone,
      List.forall_mem_singleton.2 hnone⟩⟩

end Sample

namespace Topology

/-- The errands leave a third address, and the deletion after them leaves the cloud as it was
before; a second deletion changes nothing, under any deadline. -/
theorem sample_delete_undoes :
    (aftermath Sample.publicScope Sample.leasedCloud Sample.errands).addresses.length = 3 ∧
    ∃ y', (delete Sample.publicScope).run Cloud.provider none
        (Sample.session (aftermath Sample.publicScope Sample.leasedCloud Sample.errands)) =
          (.ok (), y') ∧
      Cloud.Matches Sample.leasedCloud y'.world.store ∧
      ∀ (deadline : Option Seconds) (z : Session Cloud), z.world.store = y'.world.store →
        ∀ k ∈ (delete Sample.publicScope).exchanges Cloud.provider deadline z,
          k.request.isMutation = false := by
  obtain ⟨_, y', hrun⟩ := Sample.exists_of_isOk (r := (delete Sample.publicScope).run
    Cloud.provider none (Sample.session (aftermath Sample.publicScope Sample.leasedCloud
      Sample.errands))) (by decide +kernel)
  have hstore : ∀ c, (Sample.session c).world.store = c := fun _ => rfl
  exact ⟨by decide +kernel, y', hrun, delete_undoes Sample.leasedCloud_vacant (by decide +kernel)
    (by decide +kernel) Sample.errands Sample.errands_gentle (hstore _) hrun⟩

end Topology

end ControlPlane
