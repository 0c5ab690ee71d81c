import ControlPlane.Proofs.Topology.Retyping
import ControlPlane.Proofs.Topology.Steady

/-!
# Creating what is missing, place by place

Between a cloud without secondaries and one with all of them, a run passes through the clouds on
which those of the first targets are there (`Secondary.Filled`). A run that starts on such a cloud
keeps what it finds and creates what is missing, in the order of the first run and by the same
requests: so it goes on where the first one was cut short, and ends where that would have ended.
-/

namespace ControlPlane

open Program hiding ofExcept

namespace Secondary

/-- A zone, a name and what is declared there. -/
abbrev Target : Type := String × String × BalancerSpec

variable {s : Scope} {desired : List BalancerSpec} {taken : List (String × String)}
  {filled rest : List Target} {c c1 c2 : Cloud}

/-- Where no place is taken, all targets are created. -/
theorem createMissing_nil (targets : List Target) :
    (reconciler s).createMissing [] targets =
      targets.mapM' fun t => create s t.1 t.2.1 t.2.2 := by
  rw [Reconciler.createMissing_eq, List.filter_eq_self.2 (by simp)]
  rfl

/-- The first target is created, and then the others. -/
theorem createMissing_cons (t : Target) (rest : List Target) :
    (reconciler s).createMissing [] (t :: rest) = create s t.1 t.2.1 t.2.2 >>= fun created =>
      (reconciler s).createMissing [] rest >>= fun more => done (created :: more) := by
  rw [createMissing_nil, createMissing_nil]
  rfl

/-- Some of the targets are created, and then the others. -/
theorem createMissing_append (filled rest : List Target) :
    (reconciler s).createMissing [] (filled ++ rest) =
      (reconciler s).createMissing [] filled >>= fun created =>
        (reconciler s).createMissing [] rest >>= fun more => done (created ++ more) := by
  induction filled with
  | nil => exact (Program.bind_done _).symm
  | cons t filled ih =>
    rw [List.cons_append, createMissing_cons, createMissing_cons, ih]
    simp only [Program.bind_assoc, Program.done_bind, List.cons_append]

/-- Where the first places are taken and the others are not, the others are created. -/
theorem createMissing_of_filled (hfilled : ∀ t ∈ filled, (t.1, t.2.1) ∈ taken)
    (hrest : ∀ t ∈ rest, (t.1, t.2.1) ∉ taken) :
    (reconciler s).createMissing taken (filled ++ rest) =
      (reconciler s).createMissing [] rest := by
  have hnone : filled.filter (fun t => (t.1, t.2.1) ∉ taken) = [] :=
    List.filter_eq_nil_iff.2 fun t ht => by simpa using hfilled t ht
  have hall : rest.filter (fun t => (t.1, t.2.1) ∉ taken) = rest :=
    List.filter_eq_self.2 fun t ht => by simpa using hrest t ht
  rw [createMissing_nil, Reconciler.createMissing_eq, List.filter_append, hnone, hall]
  rfl

/-- Creating a load balancer changes the cloud with its last request only. -/
theorem create_changesLast {zone name : String} {d : BalancerSpec} :
    (create s zone name d).ChangesLast := by
  obtain ⟨step, heq, hstep⟩ := create_steps s zone name d
  rw [heq]
  refine ReadOnly.changesLast_bind (orderly_ofExcept _) fun zt => ?_
  cases hstep zt with
  | pinned address _ hp =>
    rw [hp]
    refine findAddressId_readOnly.changesLast_bind fun addressId => ?_
    exact (Site.changesLast_in_zone _).bind_silent fun _ _ => rfl
  | managed _ hp => exact hp ▸ (Site.changesLast_in_zone _).bind_silent fun _ _ => rfl

/-- On the way from `c1` to `c2`, the secondaries of some targets have been created, and those of
others will be. -/
structure Filled (s : Scope) (filled rest : List Target) (c1 c2 c : Cloud) : Prop where
  before : ∃ created, ((reconciler s).createMissing [] filled).Returns c1 created c
  after : ∃ created, ((reconciler s).createMissing [] rest).Returns c created c2

/-- Some of the first of the targets have been created. -/
def FilledInPart (s : Scope) (targets : List Target) (c1 c2 c : Cloud) : Prop :=
  ∃ filled rest, targets = filled ++ rest ∧ Filled s filled rest c1 c2 c

/-- The next target is created. -/
theorem Filled.next {t : Target} (h : Filled s filled (t :: rest) c1 c2 c) :
    ∃ b c', (create s t.1 t.2.1 t.2.2).Returns c b c' ∧ Filled s (filled ++ [t]) rest c1 c2 c' := by
  obtain ⟨before, hbefore⟩ := h.before
  obtain ⟨after, hafter⟩ := h.after
  rw [createMissing_cons] at hafter
  obtain ⟨b, c', hcreate, hrest⟩ := returns_bind.1 hafter
  obtain ⟨more, c'', hmore, hdone⟩ := returns_bind.1 hrest
  obtain ⟨rfl, rfl⟩ := returns_done.1 hdone
  -- The first of the rest is created as the last of those before.
  have hone : ((reconciler s).createMissing [] [t]).Returns c [b] c' := by
    rw [createMissing_cons]
    exact returns_bind.2 ⟨b, c', hcreate, rfl⟩
  have hbefore' : ((reconciler s).createMissing [] (filled ++ [t])).Returns c1
      (before ++ [b]) c' := by
    rw [createMissing_append]
    exact returns_bind.2 ⟨before, c, hbefore, returns_bind.2 ⟨[b], c', hone, rfl⟩⟩
  exact ⟨b, c', hcreate, ⟨_, hbefore'⟩, more, hmore⟩

/-- From any cloud on the way, creating what is missing goes all the way. -/
theorem Filled.achieves (h : Filled s filled rest c1 c2 c) :
    ((reconciler s).createMissing [] rest).Achieves (FilledInPart s (filled ++ rest) c1 c2) c
      fun _ c' => c' = c2 := by
  induction rest generalizing filled c with
  | nil =>
    obtain ⟨_, hafter⟩ := h.after
    exact achieves_done ⟨filled, [], rfl, h⟩ (returns_done.1 hafter).2.symm
  | cons t rest ih =>
    obtain ⟨b, c', hcreate, hnext⟩ := h.next
    -- One more target is filled, and the rest is shorter.
    have hsplit : filled ++ t :: rest = (filled ++ [t]) ++ rest := by
      rw [List.append_assoc]
      rfl
    have hrest := ih hnext
    rw [← hsplit] at hrest
    rw [createMissing_cons]
    have hone := create_changesLast.achieves (P := FilledInPart s (filled ++ t :: rest) c1 c2)
      hcreate ⟨filled, t :: rest, rfl, h⟩ ⟨filled ++ [t], rest, hsplit, hnext⟩
    refine hone.bind fun b' c'' _ _ hend => ?_
    obtain ⟨rfl, rfl⟩ := hend
    exact hrest.bind fun more c3 _ hP hc3 => achieves_done hP hc3

end Secondary

namespace Topology

open Secondary (Filled Target listed place)

variable {s : Scope} {wanted : List (String × List BalancerSpec)} {filled rest : List Target}
  {x y : LoadBalancer} {c1 c2 v e : Cloud}

/-! ## What a run finds on the way -/

/-- Whether a load balancer is the primary does not depend on its type. -/
theorem isPrimary_of_untyped (h : x.untyped = y.untyped) (hx : IsPrimary s x) : IsPrimary s y := by
  obtain ⟨_, hzone, _, _, _, htags, _⟩ := LoadBalancer.mk.inj h
  rw [IsPrimary, ← hzone, ← htags]
  exact hx

/-- Whether a load balancer is a secondary does not depend on its type. -/
theorem isSecondary_of_untyped (h : x.untyped = y.untyped) (hx : Secondary.IsSecondary s x) :
    Secondary.IsSecondary s y := by
  obtain ⟨_, hzone, _, _, _, htags, _⟩ := LoadBalancer.mk.inj h
  rw [Secondary.IsSecondary, ← hzone, ← htags]
  exact hx

/-- Whether the address of a load balancer fits what is declared does not depend on its type. -/
theorem addressFits_of_untyped (h : x.untyped = y.untyped) (d : BalancerSpec) :
    Secondary.addressFits x d = Secondary.addressFits y d := by
  obtain ⟨_, _, _, _, _, htags, haddresses, _⟩ := LoadBalancer.mk.inj h
  unfold Secondary.addressFits LoadBalancer.holds
  rw [htags, haddresses]

/-- What is declared at the place of a load balancer does not depend on its type. -/
theorem declared_of_untyped (h : x.untyped = y.untyped) (desired : List BalancerSpec) :
    Secondary.declared s desired x = Secondary.declared s desired y := by
  obtain ⟨_, hzone, hname, _⟩ := LoadBalancer.mk.inj h
  unfold Secondary.declared
  rw [hzone, hname]

/-- What an undisturbed run does about load balancers: on `c1` the primary has been created, and on
`c2` all secondaries. -/
structure Course (s : Scope) (q : LoadBalancer) (wanted : List (String × List BalancerSpec))
    (c1 c2 : Cloud) : Prop where
  zones : s.site.zones.Nodup
  sound : c1.Sound
  primary : HasPrimary s q c1
  zone : q.zone ∈ s.site.zones
  apart : ∀ b ∈ c1.balancers, ¬Secondary.IsSecondary s b
  groups : (Secondary.reconciler s).groups s.secondaries = .ok wanted
  secondaries : ∃ created, ((Secondary.reconciler s).createMissing []
    ((Secondary.reconciler s).targets wanted)).Returns c1 created c2

variable {q : LoadBalancer}

namespace Course

/-- What has been added so far. -/
theorem adds (h : Course s q wanted c1 c2)
    (htargets : (Secondary.reconciler s).targets wanted = filled ++ rest)
    (hv : Filled s filled rest c1 c2 v) :
    ∃ new, Secondary.Adds s s.secondaries filled [] new c1 v := by
  obtain ⟨created, hcreated⟩ := hv.before
  have hdesired : ∀ t ∈ filled,
      (Secondary.reconciler s).desiredAt s.secondaries t.1 t.2.1 = some t.2.2 := by
    intro t ht
    refine Secondary.desiredAt_of_mem_targets h.groups t ?_
    rw [htargets]
    exact List.mem_append_left _ ht
  obtain ⟨new, _, hadds⟩ := Secondary.createMissing_spec h.sound hdesired hcreated
  exact ⟨new, hadds⟩

/-- The primary is there all the way. -/
theorem exists_primary (h : Course s q wanted c1 c2)
    (htargets : (Secondary.reconciler s).targets wanted = filled ++ rest)
    (hv : Filled s filled rest c1 c2 v) (he : e.Sound)
    (hsame : e.balancers.map (·.untyped) = v.balancers.map (·.untyped)) :
    ∃ q', HasPrimary s q' e ∧ q'.untyped = q.untyped := by
  obtain ⟨new, hadds⟩ := h.adds htargets hv
  have hq : q ∈ v.balancers := by
    rw [hadds.balancers]
    exact List.mem_append_left _ h.primary.mem
  obtain ⟨q', hq', huntyped⟩ := exists_untyped hsame.symm hq
  refine ⟨q', ⟨hq', isPrimary_of_untyped huntyped.symm h.primary.primary, fun b hb hprimary => ?_⟩,
    huntyped⟩
  obtain ⟨b0, hb0, hb0b⟩ := exists_untyped hsame hb
  have hprimary0 : IsPrimary s b0 := isPrimary_of_untyped hb0b.symm hprimary
  rw [hadds.balancers, List.mem_append] at hb0
  -- What was added since has the tags of a secondary, and so any primary is one of before.
  have hold : b0 ∈ c1.balancers :=
    hb0.resolve_right fun hnew => not_isPrimary_of_tags (hadds.tags b0 hnew) hprimary0
  have hself : b0 = q := h.primary.unique b0 hold hprimary0
  have hid : b.id = q'.id := by
    rw [← LoadBalancer.id_eq_of_untyped hb0b, hself, LoadBalancer.id_eq_of_untyped huntyped]
  exact he.balancers.inj hb hq' hid

/-- The secondaries that are listed are those that have been added. -/
theorem exists_added {new : List LoadBalancer} (h : Course s q wanted c1 c2)
    (hadds : Secondary.Adds s s.secondaries filled [] new c1 v)
    (hsame : e.balancers.map (·.untyped) = v.balancers.map (·.untyped)) (hx : x ∈ listed s e) :
    ∃ y ∈ new, y.untyped = x.untyped := by
  obtain ⟨hmem, hsec⟩ := Secondary.mem_listed.1 hx
  obtain ⟨y, hy, hyx⟩ := exists_untyped hsame hmem
  have hysec : Secondary.IsSecondary s y := isSecondary_of_untyped hyx.symm hsec
  rw [hadds.balancers, List.mem_append] at hy
  exact ⟨y, hy.resolve_left fun hold => h.apart y hold hysec, hyx⟩

/-- What has been added is listed. -/
theorem exists_listed {new : List LoadBalancer}
    (hadds : Secondary.Adds s s.secondaries filled [] new c1 v)
    (hsame : e.balancers.map (·.untyped) = v.balancers.map (·.untyped)) (hy : y ∈ new) :
    ∃ x ∈ listed s e, y.untyped = x.untyped := by
  have hmem : y ∈ v.balancers := by
    rw [hadds.balancers]
    exact List.mem_append_right _ hy
  obtain ⟨x, hx, hxy⟩ := exists_untyped hsame.symm hmem
  exact ⟨x, Secondary.mem_listed.2 ⟨hx, isSecondary_of_untyped hxy.symm (hadds.secondary y hy)⟩,
    hxy.symm⟩

/-- Distinct secondaries are listed at distinct places. -/
theorem nodup_places {new : List LoadBalancer} (h : Course s q wanted c1 c2)
    (hadds : Secondary.Adds s s.secondaries filled [] new c1 v) (he : e.Sound)
    (hsame : e.balancers.map (·.untyped) = v.balancers.map (·.untyped))
    (hplaces : (new.map place).Nodup) : ((listed s e).map place).Nodup := by
  have hids := Secondary.nodup_listed he h.zones
  refine List.Nodup.map_on (fun x hx x' hx' heq => ?_) (List.Nodup.of_map _ hids)
  obtain ⟨y, hy, hyx⟩ := h.exists_added hadds hsame hx
  obtain ⟨y', hy', hyx'⟩ := h.exists_added hadds hsame hx'
  have hplace : place y = place y' := by
    rw [Secondary.place_eq_of_untyped hyx, heq, Secondary.place_eq_of_untyped hyx']
  have hself : y = y' := List.inj_on_of_nodup_map hplaces hy hy' hplace
  have hid : x.id = x'.id := by
    rw [← LoadBalancer.id_eq_of_untyped hyx, hself, LoadBalancer.id_eq_of_untyped hyx']
  exact List.inj_on_of_nodup_map hids hx hx' hid

/-- What is listed can be kept, if the private addresses do not stand against it. -/
theorem keepable {new : List LoadBalancer} (h : Course s q wanted c1 c2)
    (hadds : Secondary.Adds s s.secondaries filled [] new c1 v)
    (hsame : e.balancers.map (·.untyped) = v.balancers.map (·.untyped))
    (hprivate : ∀ x ∈ listed s e, ∀ d, Secondary.declared s s.secondaries x = some d →
      Secondary.fitsPrivately s e x d = true) :
    ∀ x ∈ listed s e, Secondary.Keepable s s.secondaries e x := by
  intro x hx
  obtain ⟨hmem, hsec⟩ := Secondary.mem_listed.1 hx
  obtain ⟨y, hy, hyx⟩ := h.exists_added hadds hsame hx
  obtain ⟨d, hd, hfits⟩ := hadds.fits y hy
  rw [declared_of_untyped hyx] at hd
  refine ⟨hmem, hsec.1, d, hd, ?_, hprivate x hx d hd⟩
  -- In a private cluster the public address is not looked at.
  cases hpublic : s.balancersPrivate with
  | true => rfl
  | false =>
    rw [← addressFits_of_untyped hyx, hfits.address hpublic]
    rfl

/-- All that is listed is kept, and what is created then is what has not been created yet. -/
theorem retain_achieves (h : Course s q wanted c1 c2)
    (htargets : (Secondary.reconciler s).targets wanted = filled ++ rest)
    (hv : Filled s filled rest c1 c2 v) (he : e.Sound)
    (hsame : e.balancers.map (·.untyped) = v.balancers.map (·.untyped))
    (hprivate : ∀ x ∈ listed s e, ∀ d, Secondary.declared s s.secondaries x = some d →
      Secondary.fitsPrivately s e x d = true) :
    ((Secondary.reconciler s).retain wanted [] (listed s e)).Achieves e.Retyped e fun kept _ =>
      (Secondary.reconciler s).createMissing (kept.map place)
          ((Secondary.reconciler s).targets wanted) =
        (Secondary.reconciler s).createMissing [] rest := by
  obtain ⟨new, hadds⟩ := h.adds htargets hv
  have hnew : new.map place = filled.map fun t => (t.1, t.2.1) := by
    rw [hadds.places]
    exact List.filter_eq_self.2 fun p _ => decide_eq_true List.not_mem_nil
  have hnodup := Reconciler.nodup_targets (Secondary.desiredName_injective s) h.groups
  rw [htargets, List.map_append, List.nodup_append] at hnodup
  obtain ⟨hfilled, _, hdisjoint⟩ := hnodup
  -- What is listed are the secondaries that were added, each at its own place.
  have hplaces : ((listed s e).map place).Nodup := by
    refine h.nodup_places hadds he hsame ?_
    rw [hnew]
    exact hfilled
  have hretain := Secondary.retain_achieves h.groups he (.refl e) hplaces
    (fun _ _ => List.not_mem_nil) (h.keepable hadds hsame hprivate)
  refine hretain.mono (fun _ hP => hP) fun kept _ _ _ hkept => ?_
  rw [hkept, htargets]
  -- Their places are those of the filled targets, and none of the rest.
  refine Secondary.createMissing_of_filled (fun t ht => ?_) fun t ht htaken => ?_
  · have hmem : (t.1, t.2.1) ∈ new.map place := by
      rw [hnew]
      exact List.mem_map_of_mem ht
    obtain ⟨y, hy, hplace⟩ := List.mem_map.1 hmem
    obtain ⟨x, hx, hxy⟩ := exists_listed hadds hsame hy
    rw [← hplace, Secondary.place_eq_of_untyped hxy]
    exact List.mem_map_of_mem hx
  · obtain ⟨x, hx, hplace⟩ := List.mem_map.1 htaken
    obtain ⟨y, hy, hyx⟩ := h.exists_added hadds hsame hx
    have hmem : (t.1, t.2.1) ∈ filled.map fun t => (t.1, t.2.1) := by
      rw [← hnew, ← hplace, ← Secondary.place_eq_of_untyped hyx]
      exact List.mem_map_of_mem hy
    exact hdisjoint _ hmem _ (List.mem_map_of_mem ht) rfl

end Course

end Topology

end ControlPlane
