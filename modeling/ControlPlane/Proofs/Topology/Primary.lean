import ControlPlane.Proofs.Topology.Secondaries
import ControlPlane.Proofs.Topology.Steps

/-!
# What ensuring the primary leaves

A load balancer is the primary if it carries the tags of one in the zone that is declared for it.
`ensurePrimary_spec` says that there is exactly one afterwards, of the declared type, and that
nothing else was made. The tags of a primary and those of a secondary are never those of a new load
balancer at once, so only load balancers that were there before can be taken for both.
-/

namespace ControlPlane

open Program hiding ofExcept

namespace Topology

variable {s : Scope} {c c' : Cloud} {q : LoadBalancer}

/-- The load balancer is the cluster's primary one: it has the tags, in the zone that is
declared. -/
def IsPrimary (s : Scope) (b : LoadBalancer) : Prop :=
  s.site.region.resolve s.primary.zone = .ok b.zone ∧ hasTags b.tags (primaryTags s) = true

/-- The load balancer is the only primary one. -/
structure HasPrimary (s : Scope) (q : LoadBalancer) (c : Cloud) : Prop where
  mem : q ∈ c.balancers
  primary : IsPrimary s q
  unique : ∀ b ∈ c.balancers, IsPrimary s b → b = q

/-- A primary has at least one tag. -/
theorem primaryTags_ne_nil (s : Scope) : primaryTags s ≠ [] := List.cons_ne_nil _ _

/-! ## Tags -/

/-- The tags of every cluster start with a `c`, so that a tag with an `l`, as those of the roles, is
none of them. -/
theorem tag_ne (s : Scope) {t : String} (h : t.toList.head? = some 'l') :
    t ∉ s.tags [] := by
  have hne : ∀ a b : String, a.toList.head? = some 'c' → t ≠ a ++ b := by
    intro a b ha heq
    rw [heq, String.toList_append, List.head?_append, ha] at h
    cases h
  have hcreated := hne Tag.createdBy "" (by decide +kernel)
  rw [String.append_empty] at hcreated
  have hnamespace := hne "cluster-namespace=" s.cluster.namespaceName (by decide +kernel)
  have hname := hne "cluster-name=" s.cluster.name (by decide +kernel)
  simp [Scope.tags, hcreated, hnamespace, hname]

/-- What carries the tags of the cluster with further ones carries a tag that is none of the
cluster's only if it is one of those. -/
theorem not_hasTags (s : Scope) {t : String} {more wanted : List String}
    (h : t.toList.head? = some 'l') (hmore : t ∉ more) (ht : t ∈ wanted) :
    hasTags (s.tags more) (s.tags wanted) = false := by
  rw [Bool.eq_false_iff]
  intro htags
  have hmem := hasTags_iff.1 htags t (List.mem_append_right _ ht)
  have hsplit : s.tags more = s.tags [] ++ more := rfl
  rw [hsplit, List.mem_append] at hmem
  exact hmem.elim (tag_ne s h) hmore

/-- A load balancer that is made as the primary is no secondary. -/
theorem not_isSecondary_of_tags {b : LoadBalancer} (h : b.tags = primaryTags s) :
    ¬Secondary.IsSecondary s b := by
  intro hsec
  have htags := hsec.2
  rw [h, primaryTags, Secondary.tags, not_hasTags s (t := Tag.secondary) (by decide +kernel)
    (by decide +kernel) List.mem_cons_self] at htags
  cases htags

/-- A load balancer that is made as a secondary is no primary. -/
theorem not_isPrimary_of_tags {b : LoadBalancer}
    (h : b.tags = Secondary.tags s ∨ b.tags = Secondary.tags s ++ [Tag.managedAddress]) :
    ¬IsPrimary s b := by
  intro hprimary
  have htags := hprimary.2
  have hsplit : Secondary.tags s ++ [Tag.managedAddress] =
      s.tags [Tag.secondary, Tag.managedAddress] := List.append_assoc _ _ _
  rcases h with h | h
  · rw [h, Secondary.tags, primaryTags, not_hasTags s (t := Tag.primary) (by decide +kernel)
      (by decide +kernel) List.mem_cons_self] at htags
    cases htags
  · rw [h, hsplit, primaryTags, not_hasTags s (t := Tag.primary) (by decide +kernel)
      (by decide +kernel) List.mem_cons_self] at htags
    cases htags

/-! ## Finding the primary -/

/-- What is found as the primary in its zone is the only one that there is. -/
theorem hasPrimary_of_filter {zone : String}
    (hzone : s.site.region.resolve s.primary.zone = .ok zone)
    (h : (c.balancers.filter fun b =>
      hasTags b.tags (primaryTags s) && decide (b.zone = zone)) = [q]) : HasPrimary s q c := by
  have hmem : ∀ b, b ∈ c.balancers ∧ IsPrimary s b ↔ b = q := by
    intro b
    have hb : b ∈ [q] ↔ b = q := List.mem_singleton
    rw [← hb, ← h, List.mem_filter, Bool.and_eq_true, decide_eq_true_eq, IsPrimary, hzone]
    rw [Except.ok.injEq]
    exact and_congr_right fun _ => and_comm.trans (and_congr_right fun _ => eq_comm)
  have hq := (hmem q).2 rfl
  exact ⟨hq.1, hq.2, fun b hb hprimary => (hmem b).1 ⟨hb, hprimary⟩⟩

/-- A list whose elements have distinct ids holds what it holds once. -/
theorem filter_eq_singleton {balancers : List LoadBalancer} {p : LoadBalancer → Bool}
    (hids : (balancers.map (·.id)).Nodup) (hq : q ∈ balancers) (hp : p q = true)
    (hunique : ∀ b ∈ balancers, p b = true → b = q) : balancers.filter p = [q] := by
  have hnodup : (balancers.filter p).Nodup := (List.Nodup.of_map _ hids).filter _
  refine List.perm_singleton.1 ((List.perm_ext_iff_of_nodup hnodup (List.nodup_singleton q)).2 ?_)
  intro b
  rw [List.mem_filter, List.mem_singleton]
  constructor
  · exact fun hb => hunique b hb.1 hb.2
  · rintro rfl
    exact ⟨hq, hp⟩

/-- The only primary is found in its zone. -/
theorem HasPrimary.filter (hc : c.Sound) (h : HasPrimary s q c) :
    (c.balancers.filter fun b =>
      hasTags b.tags (primaryTags s) && decide (b.zone = q.zone)) = [q] := by
  refine filter_eq_singleton hc.balancers.nodup h.mem ?_ fun b hb hp => ?_
  · rw [h.primary.2, Bool.true_and, decide_eq_true_eq]
  · rw [Bool.and_eq_true, decide_eq_true_eq] at hp
    exact h.unique b hb ⟨hp.2 ▸ h.primary.1, hp.1⟩

/-! ## The run -/

/-- Ensuring the primary sends look-ups, and changes load balancers and flexible addresses alone. -/
theorem ensurePrimary_orderly : (ensurePrimary s).Orderly Request.IsStructural := by
  obtain ⟨step, heq, hstep⟩ := ensurePrimary_steps s
  rw [heq]
  refine (orderly_ofExcept _).bind fun zt => ?_
  refine (Site.findBalancer_readOnly.orNone.mono Secondary.isStructural_of_lookup).bind fun found => ?_
  cases hstep zt found with
  | pinned address _ hp =>
    rw [hp]
    refine (findAddressId_readOnly.mono Secondary.isStructural_of_lookup).bind fun _ => ?_
    exact (Site.orderly_in_zone (orderly_request trivial)).bind fun _ => trivial
  | kept b _ hp => exact hp ▸ trivial
  | created _ hp | migrated _ _ hp =>
    exact hp ▸ (Site.orderly_in_zone (orderly_request trivial)).bind fun _ => trivial

/-- What ensuring the primary leaves: it is the only one, of the declared type, and what was not
there before has its tags. -/
structure EnsuresPrimary (s : Scope) (q : LoadBalancer) (c c' : Cloud) : Prop where
  only : HasPrimary s q c'
  zone : q.zone ∈ s.site.zones
  type : sameType q.type s.primary.resolvedType = true
  origin : ∀ b ∈ c'.balancers, (∃ b0 ∈ c.balancers, b = { b0 with type := b.type }) ∨
    b.tags = primaryTags s

/-- The primary is made where there is none. -/
theorem EnsuresPrimary.of_create {zone : String} {addressId : Option String}
    (hzone : s.site.region.resolve s.primary.zone = .ok zone)
    (hnone : (c.balancers.filter fun b =>
      hasTags b.tags (primaryTags s) && decide (b.zone = zone)) = [])
    (h : (s.site.createBalancer zone (s.resourceName []) s.primary.resolvedType addressId
      (primaryTags s) s.balancersPrivate).Returns c q c') :
    EnsuresPrimary s q c c' := by
  obtain ⟨hmem, hanswer⟩ := Site.createBalancer_returns.1 h
  obtain ⟨hq, _, hc'⟩ := Cloud.createBalancer_effect hanswer
  have hqzone : q.zone = zone := congrArg LoadBalancer.zone hq
  have hqtags : q.tags = primaryTags s := congrArg LoadBalancer.tags hq
  have hqtype : q.type = Text.lower s.primary.resolvedType := congrArg LoadBalancer.type hq
  have hbalancers : ∀ b, b ∈ c'.balancers ↔ b ∈ c.balancers ∨ b = q := by
    intro b
    have hlist : c'.balancers = c.balancers ++ [q] := congrArg Cloud.balancers hc'
    rw [hlist, List.mem_append, List.mem_singleton]
  have hprimary : IsPrimary s q := by
    refine ⟨?_, ?_⟩
    · rw [hqzone]
      exact hzone
    · rw [hqtags]
      exact hasTags_iff.2 fun _ ht => ht
  -- The filter that found none would have found any other primary.
  have hunique : ∀ b ∈ c'.balancers, IsPrimary s b → b = q := by
    intro b hb hbprimary
    refine ((hbalancers b).1 hb).resolve_left fun hold => ?_
    refine List.filter_eq_nil_iff.1 hnone b hold ?_
    have hbzone : zone = b.zone := Except.ok.inj (hzone.symm.trans hbprimary.1)
    rw [hbprimary.2, hbzone]
    simp
  constructor
  · exact ⟨(hbalancers q).2 (.inr rfl), hprimary, hunique⟩
  · rw [hqzone]
    exact hmem
  · rw [hqtype, sameType_iff, Text.lower_lower]
  · intro b hb
    rcases (hbalancers b).1 hb with hold | rfl
    · exact .inl ⟨b, hold, rfl⟩
    · exact .inr hqtags

/-- The primary that there is is brought to its type. -/
theorem EnsuresPrimary.of_migrate {zone : String} {b : LoadBalancer} (hc : c.Sound)
    (hb : HasPrimary s b c) (hzone : b.zone ∈ s.site.zones)
    (h : (s.site.migrateBalancer zone b.id s.primary.resolvedType).Returns c q c') :
    EnsuresPrimary s q c c' := by
  have hnodup := hc.balancers.nodup
  obtain ⟨_, hanswer⟩ := Site.migrateBalancer_returns.1 h
  obtain ⟨⟨old, hold, hq⟩, hc'⟩ := Cloud.migrateBalancer_effect hanswer
  have hself : old = b := hc.balancers.eq_of_find? hb.mem hold
  rw [hself] at hq
  -- The primary with its new type takes the place of the old one, and the others stay.
  have hbalancers : ∀ x, x ∈ c'.balancers ↔ x = q ∨ x.id ≠ b.id ∧ x ∈ c.balancers := by
    intro x
    rw [hc', hq]
    exact Secondary.mem_retyped hnodup hb.mem
  have hprimary : IsPrimary s q := by
    rw [hq]
    exact hb.primary
  have hunique : ∀ x ∈ c'.balancers, IsPrimary s x → x = q := by
    intro x hx hxprimary
    refine ((hbalancers x).1 hx).resolve_right fun hother => ?_
    have hxb : x = b := hb.unique x hother.2 hxprimary
    exact hother.1 (congrArg LoadBalancer.id hxb)
  constructor
  · exact ⟨(hbalancers q).2 (.inl rfl), hprimary, hunique⟩
  · rw [hq]
    exact hzone
  · rw [hq, sameType_iff, Text.lower_lower]
  · intro x hx
    rcases (hbalancers x).1 hx with rfl | hother
    · exact .inl ⟨b, hb.mem, by rw [hq]⟩
    · exact .inl ⟨x, hother.2, rfl⟩

/-- Ensuring the primary leaves exactly one, of the declared type. What was not there has its
tags. -/
theorem ensurePrimary_spec {r : LoadBalancer} (hc : c.Sound)
    (h : (ensurePrimary s).Returns c r c') :
    ∃ q, r = { q with privateAddress := s.primary.privateAddress } ∧ EnsuresPrimary s q c c' := by
  obtain ⟨step, heq, hstep⟩ := ensurePrimary_steps s
  rw [heq] at h
  obtain ⟨⟨zone, type⟩, c1, hresolve, hrest⟩ := returns_bind.1 h
  obtain ⟨hok, rfl⟩ := returns_ofExcept.1 hresolve
  obtain ⟨hzone, rfl⟩ := BalancerSpec.resolve_eq_ok hok
  obtain ⟨found, c2, hfind, hfound⟩ := returns_bind.1 hrest
  obtain ⟨hmem, hfilter, rfl⟩ := (Site.findBalancer_returns (primaryTags_ne_nil s)).1 hfind
  cases hstep (zone, s.primary.resolvedType) found with
  -- With or without an address that is looked up, the primary is created.
  | pinned address _ hp =>
    rw [hp] at hfound
    obtain ⟨id, c3, hid, hcreate⟩ := returns_bind.1 hfound
    obtain ⟨rfl, _⟩ := findAddressId_returns hid
    obtain ⟨b, c4, hb, hdone⟩ := returns_bind.1 hcreate
    obtain ⟨rfl, rfl⟩ := returns_done.1 hdone
    exact ⟨b, rfl, .of_create hzone hfilter hb⟩
  | created _ hp =>
    rw [hp] at hfound
    obtain ⟨b, c3, hb, hdone⟩ := returns_bind.1 hfound
    obtain ⟨rfl, rfl⟩ := returns_done.1 hdone
    exact ⟨b, rfl, .of_create hzone hfilter hb⟩
  | kept b htype hp =>
    rw [hp] at hfound
    have hprimary : HasPrimary s b c2 := hasPrimary_of_filter hzone hfilter
    have hbzone : b.zone = zone := Except.ok.inj (hprimary.primary.1.symm.trans hzone)
    obtain ⟨rfl, rfl⟩ := returns_done.1 hfound
    exact ⟨b, rfl, hprimary, hbzone ▸ hmem, htype, fun x hx => .inl ⟨x, hx, rfl⟩⟩
  | migrated b _ hp =>
    rw [hp] at hfound
    have hprimary : HasPrimary s b c2 := hasPrimary_of_filter hzone hfilter
    have hbzone : b.zone = zone := Except.ok.inj (hprimary.primary.1.symm.trans hzone)
    rw [← hbzone] at hmem
    obtain ⟨q, c3, hmigrate, hdone⟩ := returns_bind.1 hfound
    obtain ⟨rfl, rfl⟩ := returns_done.1 hdone
    exact ⟨q, rfl, .of_migrate hc hprimary hmem hmigrate⟩

end Topology

end ControlPlane
