import ControlPlane.Proofs.Topology.Provenance

/-!
# Primaries that are left behind

Secondaries are listed over all zones, but a primary is looked for in one zone only, the one that is
declared at the time. A deletion that succeeds therefore leaves no secondary, and no primary in the
zone that is declared then (`delete_leaves`). But when the declared zone has changed between runs of
reconciliation, each run has made a primary in the zone of its own, which no later run has taken
away (`primary_aftermath`); and so a deletion leaves all of them but one
(`delete_leaves_moved_primaries`).
-/

namespace ControlPlane

open Program hiding ofExcept

/-- A run on a cloud comes to its end. -/
def Attempt.Completes (s : Scope) (c : Cloud) (a : Attempt) : Prop :=
  ((a.program s).run Trial.provider a.circumstances.deadline (a.circumstances.session c)).1 = .ok ()

namespace Secondary

variable {s : Scope} {c c' : Cloud}

/-- Where nothing is wanted, nothing is kept. -/
theorem retain_none_returns {taken : List (String × String)} {live kept : List LoadBalancer}
    (h : ((reconciler s).retain [] taken live).Returns c kept c') : kept = [] := by
  induction live generalizing c with
  | nil => exact (returns_done.1 h).1
  | cons b rest ih =>
    rcases retain_cons_cases h with ⟨_, c1, _, hrest⟩ | ⟨d, _, _, _, hmatch, _⟩
    · exact ih hrest
    · unfold Reconciler.match? at hmatch
      dsimp only at hmatch
      split at hmatch <;> cases hmatch

/-- Ensuring no secondaries returns none. -/
theorem ensure_none_returns {bs : List LoadBalancer}
    (h : (ensure s []).Returns c bs c') : bs = [] := by
  rw [ensure_eq] at h
  obtain ⟨live, c1, _, h⟩ := returns_bind.1 h
  obtain ⟨kept, c2, hretain, h⟩ := returns_bind.1 h
  obtain ⟨created, c3, hcreate, h⟩ := returns_bind.1 h
  rw [(returns_done.1 h).1, retain_none_returns hretain, (returns_done.1 hcreate).1]
  rfl

end Secondary

namespace Topology

variable {s : Scope} {networks : List NetworkSpec} {c0 c c' : Cloud} {b : LoadBalancer}

/-! ## What a deletion leaves -/

/-- A deletion that succeeds leaves neither the primary nor a secondary, and leaves all others. -/
theorem delete_leaves {u : Unit} {zone : String} (hc : c.Sound)
    (hresolve : s.site.region.resolve s.primary.zone = .ok zone)
    (h : (delete s).Returns c u c') :
    (∀ b ∈ c'.balancers, ¬IsPrimary s b ∧ ¬Secondary.IsSecondary s b) ∧
      ∀ b ∈ c.balancers, ¬IsPrimary s b → ¬Secondary.IsSecondary s b → b ∈ c'.balancers := by
  obtain ⟨_, c1, hprimary, hrest⟩ := returns_bind.1 h
  obtain ⟨bs, hensure⟩ := returns_discard.1 hrest
  have hc1 : c1.Sound := hc.returns hprimary
  obtain ⟨hmade, hcovers⟩ := Secondary.ensure_covers hc1 hensure
  refine ⟨fun b hb => ⟨fun hp => ?_, fun hsec => ?_⟩, fun b hb hp hsec => ?_⟩
  -- Ensuring secondaries makes no primary.
  · rcases hmade b hb with ⟨b1, hb1, heq⟩ | htags
    · rw [heq] at hp
      exact deletePrimary_leaves hprimary b1 hb1 hp
    · exact not_isPrimary_of_tags htags hp
  · have hcovered := hcovers.covered b hb hsec
    rw [Secondary.ensure_none_returns hensure] at hcovered
    cases hcovered
  · refine hcovers.others b ?_ hsec
    rcases deletePrimary_cases hresolve hprimary with ⟨_, rfl⟩ | ⟨p, hfilter, hc1⟩
    · exact hb
    · have hself : p ∈ c.balancers.filter (isPrimaryIn s zone) :=
        hfilter ▸ List.mem_singleton_self p
      obtain ⟨hmem, hfound⟩ := List.mem_filter.1 hself
      obtain ⟨htags, hzone⟩ := Bool.and_eq_true_iff.1 hfound
      have hne : b.id ≠ p.id := fun hid => hp <| by
        rw [hc.balancers.inj hb hmem hid]
        exact ⟨of_decide_eq_true hzone ▸ hresolve, htags⟩
      rw [hc1]
      exact List.mem_filter.2 ⟨hb, decide_eq_true hne⟩

/-! ## What runs of reconciliation leave -/

namespace Provenance

variable {a : Attempt} {attempts : List Attempt}

/-- A reconciliation that comes to its end leaves a primary in the zone that is declared. -/
theorem exists_primary (h : Provenance s networks c0 c) (h0 : c0.Sound) (hj : a.job = .reconcile)
    (ha : a.network ∈ networks) (hends : a.Completes s c) :
    ∃ b ∈ (a.circumstances.leaves (a.program s) c).balancers,
      IsPrimary (s.declaring a.network) b := by
  have htracked : (a.program s).Tracked (Handles (s.declaring a.network) a.job)
      (Provenance s networks c0)
      (fun _ c' => ∃ b ∈ c'.balancers, IsPrimary (s.declaring a.network) b) c := by
    unfold Attempt.program
    rw [hj]
    exact (handling_reconcile (declaring.2 h).tidy).of_imp fun _ hc => (declaring.2 hc).tidy
  exact (htracked.run (x := a.circumstances.session c) (attempt_answer h0 fun _ => ha) h _).2 () hends

/-- A primary stays, but for its type, in any history without a deletion. -/
theorem primary_aftermath (h : Provenance s networks c0 c) (h0 : c0.Sound)
    (hjobs : ∀ a ∈ attempts, a.job ≠ .delete)
    (hdeclared : ∀ a ∈ attempts, a.job = .reconcile → a.network ∈ networks)
    (hb : b ∈ c.balancers) (hprimary : hasTags b.tags (primaryTags s) = true) :
    ∃ type, { b with type } ∈ (Attempt.aftermath s c attempts).balancers := by
  induction attempts generalizing c b with
  | nil => exact ⟨b.type, hb⟩
  | cons a rest ih =>
    obtain ⟨hj, hjrest⟩ := List.forall_mem_cons.1 hjobs
    obtain ⟨ha, hrest⟩ := List.forall_mem_cons.1 hdeclared
    -- The records are needed on the way, since they tell primaries from secondaries.
    have hstep : ∀ c r, (Provenance s networks c0 c ∧ ∃ type, { b with type } ∈ c.balancers) →
        Handles (s.declaring a.network) a.job c r →
          Provenance s networks c0 (c.answer r).2 ∧
            ∃ type, { b with type } ∈ (c.answer r).2.balancers := by
      rintro c r ⟨hc, type, hmem⟩ hr
      exact ⟨attempt_answer h0 ha c r hc hr,
        primary_stays (s := s.declaring a.network) (b := { b with type }) hj (declaring.2 hc).tidy hr
          hmem hprimary⟩
    have htracked := (h.attempt_tracked a).of_imp fun c
      (hc : Provenance s networks c0 c ∧ ∃ type, { b with type } ∈ c.balancers) => hc.1
    obtain ⟨hnext, type, hmem⟩ :=
      (htracked.run (x := a.circumstances.session c) hstep ⟨h, b.type, hb⟩ _).1
    exact ih (b := { b with type }) hnext hjrest hrest hmem hprimary

/-- After any history of reconciliations there is a primary in the zone that was declared for a run
that came to its end. -/
theorem exists_former {earlier later : List Attempt} (h : Provenance s networks c0 c)
    (h0 : c0.Sound) (hjobs : ∀ e ∈ earlier ++ a :: later, e.job = .reconcile)
    (hdeclared : ∀ e ∈ earlier ++ a :: later, e.job = .reconcile → e.network ∈ networks)
    (hends : a.Completes s (Attempt.aftermath s c earlier)) :
    ∃ b ∈ (Attempt.aftermath s c (earlier ++ a :: later)).balancers,
      IsPrimary (s.declaring a.network) b := by
  obtain ⟨_, hj⟩ := List.forall_mem_append.1 hjobs
  obtain ⟨hja, hjlater⟩ := List.forall_mem_cons.1 hj
  obtain ⟨hearlier, hrest⟩ := List.forall_mem_append.1 hdeclared
  obtain ⟨ha, hlater⟩ := List.forall_mem_cons.1 hrest
  have hthen := h.aftermath h0 hearlier
  obtain ⟨b, hb, hprimary⟩ := hthen.exists_primary h0 hja (ha hja) hends
  have hkept : ∀ e ∈ later, e.job ≠ .delete := fun e he => by
    rw [hjlater e he]
    exact nofun
  -- Later runs delete no primary, and change no more of this one than its type.
  obtain ⟨type, hmem⟩ := (hthen.leaves h0 ha).primary_aftermath h0 hkept hlater hb hprimary.2
  have hsplit : Attempt.aftermath s c (earlier ++ a :: later) = Attempt.aftermath s
      (a.circumstances.leaves (a.program s) (Attempt.aftermath s c earlier)) later :=
    List.foldl_append
  rw [hsplit]
  exact ⟨_, hmem, hprimary⟩

end Provenance

/-! ## A deletion after them -/

variable {attempts : List Attempt} {network : NetworkSpec} {zone : String}

/-- A deletion leaves the primaries that have been moved away from. On a cloud where the cluster has
no load balancer, let runs of reconciliation come one after the other, with any declarations, and be
cut short anywhere. If a deletion succeeds then, it leaves no secondary. The primaries that it
leaves are in zones that were declared in some run, but are not the zone that is declared now; and
for every run that came to its end there is still one in the zone declared then, unless it is the
zone that is declared now. -/
theorem delete_leaves_moved_primaries (hc : c.Sound)
    (hnone : ∀ b ∈ c.balancers, s.owns b.tags = false)
    (hjobs : ∀ a ∈ attempts, a.job = .reconcile)
    (hresolve : s.site.region.resolve network.primary.zone = .ok zone)
    {deadline : Option Seconds} {y y' : Session Cloud} {u : Unit}
    (hstore : y.world.store = Attempt.aftermath s c attempts)
    (hrun : (delete (s.declaring network)).run Cloud.provider deadline y = (.ok u, y')) :
    (∀ b ∈ y'.world.store.balancers, hasTags b.tags (Secondary.tags s) = false) ∧
    (∀ b ∈ y'.world.store.balancers, hasTags b.tags (primaryTags s) = true → b.zone ≠ zone ∧
      ∃ a ∈ attempts, s.site.region.resolve a.network.primary.zone = .ok b.zone) ∧
    ∀ earlier a later, attempts = earlier ++ a :: later →
      a.Completes s (Attempt.aftermath s c earlier) →
      ∀ former, s.site.region.resolve a.network.primary.zone = .ok former →
        ((∃ b ∈ y'.world.store.balancers, hasTags b.tags (primaryTags s) = true ∧ b.zone = former) ↔
          former ≠ zone) := by
  have hdeclared : ∀ a ∈ attempts, a.job = .reconcile → a.network ∈ Attempt.declared attempts :=
    fun a ha hj => Attempt.mem_declared.2 ⟨a, ha, hj, rfl⟩
  have hfirst : Provenance s (Attempt.declared attempts) c c := .of_none hc hnone
  have hdelete : (delete (s.declaring network)).Returns (Attempt.aftermath s c attempts) u
      y'.world.store := hstore ▸ delete_orderly.returns hrun
  have hbefore : Provenance s (Attempt.declared attempts) c (Attempt.aftermath s c attempts) :=
    hfirst.aftermath hc hdeclared
  have hafter : Provenance s (Attempt.declared attempts) c y'.world.store :=
    ((hbefore.attempt_tracked ⟨network, .delete, {}⟩).returns
      (Provenance.attempt_answer hc nofun) hbefore hdelete).1
  obtain ⟨hgone, hleft⟩ := delete_leaves hbefore.sound hresolve hdelete
  have hmoved : ∀ b ∈ y'.world.store.balancers, hasTags b.tags (primaryTags s) = true →
      b.zone ≠ zone := fun b hb hprimary hzone =>
    (hgone b hb).1 ⟨hzone ▸ hresolve, hprimary⟩
  refine ⟨fun b hb => ?_, fun b hb hprimary => ⟨hmoved b hb hprimary, ?_⟩, ?_⟩
  · rw [Bool.eq_false_iff]
    exact fun hsec => (hgone b hb).2
      ⟨(hafter.recorded b hb (owns_of_secondaryTags hsec)).zone, hsec⟩
  · obtain ⟨n, hn, hzone, _⟩ :=
      (hafter.recorded b hb (owns_of_primaryTags hprimary)).primary hprimary
    obtain ⟨a, ha, _, rfl⟩ := Attempt.mem_declared.1 hn
    exact ⟨a, ha, hzone⟩
  -- The primary of the former zone was there before the deletion, which looks in another zone.
  · rintro earlier a later rfl hends former hformer
    refine ⟨fun ⟨b, hb, hprimary, hzone⟩ => hzone ▸ hmoved b hb hprimary, fun hne => ?_⟩
    obtain ⟨b, hb, hzone, hprimary⟩ := hfirst.exists_former hc hjobs hdeclared hends
    have hbzone : b.zone = former := Except.ok.inj (hzone.symm.trans hformer)
    refine ⟨b, hleft b hb (fun hp => hne ?_) fun hsec => ?_, hprimary, hbzone⟩
    · exact hbzone.symm.trans (Except.ok.inj (hp.1.symm.trans hresolve))
    · exact Bool.false_ne_true ((hbefore.tidy.roles b hb hprimary).symm.trans hsec.2)

/-- A network with the primary in another zone than the one that is taken without a declaration. -/
def Sample.movedNetwork : NetworkSpec where
  primary := { zone := some "fr-par-2" }

/-- A first run, and one after the primary has been declared for another zone. -/
def Sample.move : List Attempt :=
  [{ network := {}, job := .reconcile }, { network := Sample.movedNetwork, job := .reconcile }]

/-- After the primary has been declared for another zone, the deletion returns, and the primary of
the first run is still in `fr-par-1`. -/
theorem sample_delete_leaves_moved_primary :
    ∃ y', (delete (Sample.publicScope.declaring Sample.movedNetwork)).run Cloud.provider none
        (Sample.session (Attempt.aftermath Sample.publicScope Sample.leasedCloud Sample.move)) =
          (.ok (), y') ∧
      ∃ b ∈ y'.world.store.balancers, hasTags b.tags (primaryTags Sample.publicScope) = true ∧
        b.zone = "fr-par-1" := by
  obtain ⟨_, y', hrun⟩ := Sample.exists_of_isOk
    (r := (delete (Sample.publicScope.declaring Sample.movedNetwork)).run Cloud.provider none
      (Sample.session (Attempt.aftermath Sample.publicScope Sample.leasedCloud Sample.move)))
    (by decide +kernel)
  obtain ⟨_, x', hfirst⟩ := Sample.exists_of_isOk (r := (reconcile
    (Sample.publicScope.declaring {})).run Trial.provider none
      (Circumstances.session {} Sample.leasedCloud)) (by decide +kernel)
  -- The first run ends well, so that there is a primary in the zone declared then.
  have hends : Attempt.Completes Sample.publicScope Sample.leasedCloud
      { network := {}, job := .reconcile } := congrArg Prod.fst hfirst
  have hresolve : Sample.publicScope.site.region.resolve Sample.movedNetwork.primary.zone =
      .ok "fr-par-2" := rfl
  have hleft := (delete_leaves_moved_primaries Sample.leasedCloud_vacant.sound
    Sample.leasedCloud_vacant.unowned (by decide +kernel) hresolve rfl hrun).2.2 [] _ _ rfl hends
    "fr-par-1" rfl
  exact ⟨y', hrun, hleft.2 (by decide +kernel)⟩

end Topology

end ControlPlane
