import ControlPlane.Proofs.Declaration.Zones
import ControlPlane.Proofs.Topology.Undoing

/-!
# Deletion where the primary has no place

A primary load balancer can be declared for a zone in which none can be had. There are two ways. If
what is declared names no zone, deletion takes the primary for absent and goes on to the secondaries
(`delete_skips_primary`). If it names one, of another region or one where there are no load
balancers, looking for the primary is refused, and the deletion ends before it has sent anything
(`delete_refused`). A valid declaration always names a zone, so it is always refused.
-/

namespace ControlPlane

open Program hiding ofExcept

namespace Secondary

variable {s : Scope} {b : LoadBalancer} {c : Cloud}

/-- Deleting a load balancer that exists, in a zone of the region, returns. -/
theorem delete_succeeds (hb : b ∈ c.balancers) (hzone : b.zone ∈ s.site.zones) :
    ∃ c', (delete s b).Returns c () c' := by
  have hanswer : ∃ c', c.deleteBalancer b.id (Tag.managedAddress ∈ b.tags) = (.ok (), c') := by
    unfold Cloud.deleteBalancer Cloud.withFirst
    split
    · exact ⟨_, rfl⟩
    · next hnone => exact absurd (decide_eq_true rfl) (List.find?_eq_none.1 hnone b hb)
  obtain ⟨c', hc'⟩ := hanswer
  exact ⟨c', Site.deleteBalancer_returns.2 ⟨hzone, hc'⟩⟩

/-- Where nothing is wanted, all that is listed can be deleted, if each is listed once. -/
theorem retain_none_succeeds {taken : List (String × String)} {live : List LoadBalancer}
    (hids : (live.map (·.id)).Nodup)
    (hlive : ∀ b ∈ live, b ∈ c.balancers ∧ b.zone ∈ s.site.zones) :
    ∃ c', ((reconciler s).retain [] taken live).Returns c [] c' := by
  induction live generalizing c with
  | nil => exact ⟨c, returns_done.2 ⟨rfl, rfl⟩⟩
  | cons b rest ih =>
    obtain ⟨⟨hb, hzone⟩, hrest⟩ := List.forall_mem_cons.1 hlive
    obtain ⟨hid, hrestIds⟩ := List.nodup_cons.1 hids
    obtain ⟨c1, hdelete⟩ := delete_succeeds hb hzone
    -- The others are still there, since their ids are other ones.
    have hstill : ∀ x ∈ rest, x ∈ c1.balancers ∧ x.zone ∈ s.site.zones := by
      intro x hx
      obtain ⟨hmem, hxzone⟩ := hrest x hx
      rw [delete_returns hdelete]
      have hne : x.id ≠ b.id := fun heq => hid (List.mem_map.2 ⟨x, hx, heq⟩)
      exact ⟨List.mem_filter.2 ⟨hmem, decide_eq_true hne⟩, hxzone⟩
    obtain ⟨c', hretain⟩ := ih hrestIds hstill
    have hunwanted : (reconciler s).match? [] taken b = none := by
      unfold Reconciler.match?
      dsimp only
      split <;> rfl
    rw [retain_cons, hunwanted]
    exact ⟨c', returns_bind.2 ⟨(), c1, hdelete, hretain⟩⟩

/-- Ensuring that there are no secondaries succeeds. -/
theorem ensure_none_succeeds (hc : c.Sound) (hzones : s.site.zones.Nodup) :
    ∃ c', (ensure s []).Returns c [] c' := by
  have hlist : (list s).Returns c (listed s c) c :=
    (Site.findBalancers_returns (tags_ne_nil s)).2 ⟨rfl, rfl⟩
  obtain ⟨c', hretain⟩ : ∃ c', ((reconciler s).retain [] [] (listed s c)).Returns c [] c' :=
    retain_none_succeeds (nodup_listed hc hzones) fun b hb => (mem_listed.1 hb).imp id (·.1)
  rw [ensure_eq]
  exact ⟨c', returns_bind.2 ⟨_, c, hlist, returns_bind.2 ⟨[], c', hretain,
    returns_bind.2 ⟨[], c', returns_done.2 ⟨rfl, rfl⟩, returns_done.2 ⟨rfl, rfl⟩⟩⟩⟩⟩

end Secondary

namespace Topology

variable {s : Scope} {c : Cloud}

/-- If what is declared for the primary names no zone, the deletion is one of the secondaries. It
succeeds, leaves none of them, and leaves all other load balancers. -/
theorem delete_skips_primary {e : Failure} (hc : c.Sound) (hzones : s.site.zones.Nodup)
    (hresolve : s.site.region.resolve s.primary.zone = .error e) :
    ∃ c', (delete s).Returns c () c' ∧ (∀ b ∈ c'.balancers, ¬Secondary.IsSecondary s b) ∧
      ∀ b ∈ c.balancers, ¬Secondary.IsSecondary s b → b ∈ c'.balancers := by
  obtain ⟨c', hensure⟩ := Secondary.ensure_none_succeeds hc hzones
  have hprimary : deletePrimary s = done () := by
    refine deletePrimary_of_error (e := e) ?_
    unfold BalancerSpec.resolve
    rw [hresolve]
    rfl
  refine ⟨c', ?_, ensure_none_leaves hc hzones hensure, (Secondary.ensure_covers hc hensure).2.others⟩
  unfold delete
  rw [hprimary]
  exact returns_discard.2 ⟨[], hensure⟩

/-- A primary is not looked for in a zone in which there are no load balancers. -/
theorem deletePrimary_eq_fail {zone : String}
    (hresolve : s.site.region.resolve s.primary.zone = .ok zone) (hzone : zone ∉ s.site.zones) :
    deletePrimary s = fail (.ofFault (.terminal (.zoneUnavailable zone s.site.zones))) := by
  have hcheck : s.site.checkZone zone =
      fail (.ofFault (.terminal (.zoneUnavailable zone s.site.zones))) := by
    have hchecked : s.site.region.checkZone s.site.balancerZones zone =
        raise (.terminal (.zoneUnavailable zone s.site.zones)) := if_neg hzone
    unfold Site.checkZone
    rw [hchecked]
    rfl
  have hresolved : s.primary.resolve s.site.region = .ok (zone, s.primary.resolvedType) := by
    unfold BalancerSpec.resolve
    rw [hresolve]
    rfl
  -- The zone is checked before the look-up, and only a look-up that finds nothing is ignored.
  obtain ⟨step, heq, -⟩ := deletePrimary_steps hresolved
  rw [heq]
  unfold Site.findBalancer
  rw [hcheck]
  rfl

/-- Deletion is refused where the primary has no place. If the cluster is validly declared, and its
primary for no zone in which load balancers can be had, then the primary is declared for some other
zone, and against any provider, at any time, a deletion fails for good with that zone and those
where there are load balancers. Nothing is sent, and the secondaries stay. -/
theorem delete_refused {v : Value} (hvalid : Cluster.ofValue v = .valid s.cluster)
    (hunplaced : ∀ zone, s.site.region.resolve s.primary.zone = .ok zone → zone ∉ s.site.zones) :
    ∃ zone, s.site.region.resolve s.primary.zone = .ok zone ∧ zone ∉ s.site.zones ∧
      ∀ (σ : Type) (p : Provider σ) (deadline : Option Seconds) (x : Session σ),
        (delete s).run p deadline x =
          (raise (.terminal (.zoneUnavailable zone s.site.zones)), x) := by
  obtain ⟨zone, hresolve⟩ := Cluster.resolves_of_valid hvalid s.site.region
  have hzone := hunplaced zone hresolve
  refine ⟨zone, hresolve, hzone, fun σ p deadline x => ?_⟩
  unfold delete
  rw [deletePrimary_eq_fail hresolve hzone]
  rfl

end Topology

namespace Sample

/-- The data of a cluster whose primary is declared for a zone of another region. -/
def abroad : Value :=
  .record [("name", .text "demo"), ("namespace", .text "infra"),
    ("network", .record [("control_plane_load_balancer", .record [("zone", .text "nl-ams-1")])])]

/-- The cluster that this data declares. -/
def abroadScope : Scope where
  site := (scope []).site
  cluster :=
    { name := "demo"
      namespaceName := "infra"
      network := { primary := { zone := some "nl-ams-1" } } }

/-- A cloud with a secondary of the cluster. -/
def leftover : Cloud where
  balancers :=
    [{ id := "left", zone := "fr-par-2", name := "demo-0", type := "lb-s"
       tags := Secondary.tags abroadScope }]

end Sample

namespace Topology

/-- A valid declaration has a zone of another region: its deletion ends terminally, and the session,
with the secondary in its cloud, is as it was. -/
theorem sample_delete_refused :
    Cluster.ofValue Sample.abroad = .valid Sample.abroadScope.cluster ∧
      (∃ b ∈ Sample.leftover.balancers, Secondary.IsSecondary Sample.abroadScope b) ∧
      (delete Sample.abroadScope).run Cloud.provider none (Sample.session Sample.leftover) =
        (raise (.terminal (.zoneUnavailable "nl-ams-1" ["fr-par-1", "fr-par-2"])),
          Sample.session Sample.leftover) := by
  have hvalid : Cluster.ofValue Sample.abroad = .valid Sample.abroadScope.cluster := by
    decide +kernel
  have hnamed : Sample.abroadScope.site.region.resolve Sample.abroadScope.primary.zone =
      .ok "nl-ams-1" := by
    rfl
  obtain ⟨zone, hresolve, _, hrun⟩ := delete_refused hvalid fun zone hresolve => by
    rw [← Except.ok.inj (hnamed.symm.trans hresolve)]
    decide +kernel
  have hzone : zone = "nl-ams-1" := Except.ok.inj (hresolve.symm.trans hnamed)
  refine ⟨hvalid, ⟨_, List.mem_cons_self, by decide +kernel, by decide +kernel⟩, ?_⟩
  rw [hrun, hzone]
  rfl

end Topology

end ControlPlane
