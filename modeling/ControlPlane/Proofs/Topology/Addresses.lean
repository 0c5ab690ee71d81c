import ControlPlane.Proofs.Topology.Publication

/-!
# Addresses that are published

A public cluster is published under the first IPv4 addresses of its load balancers: the primary's,
and those of the secondaries by zone and name. `reconcile_announces` says that after a run these are
the load balancers that there are, whatever the run has made of the cloud. The objects that a run
publishes from were gathered before the private network was ensured, so they may differ from what
the cloud holds in the end, but not in their addresses.

The second part is that the order in which a cloud lists its load balancers makes no difference.
What is published only depends on what load balancers there are in the end, but for their types
(`Announced.status_eq`); and where none is made and no two secondaries share a place, these are the
ones that there were at the places that are declared.
-/

namespace ControlPlane

open Program hiding ofExcept

/-! ## First IPv4 addresses -/

/-- The address is the first IPv4 address of the load balancer, and those before it are of IPv6. -/
def FirstV4 (b : LoadBalancer) (address : String) : Prop :=
  ∃ before after a, b.addresses.map (·.address) = before ++ address :: after ∧
    Address.ofText? address = some a ∧ a.isV4 = true ∧
    ∀ text ∈ before, ∃ a', Address.ofText? text = some a' ∧ a'.isV4 = false

/-- The first IPv4 address of a list of texts is found where all texts before it are addresses of
IPv6. -/
theorem firstV4In_eq_some {texts : List String} {address : String} :
    LoadBalancer.firstV4In texts = .ok (some address) ↔ ∃ before after a,
      texts = before ++ address :: after ∧ Address.ofText? address = some a ∧ a.isV4 = true ∧
        ∀ text ∈ before, ∃ a', Address.ofText? text = some a' ∧ a'.isV4 = false := by
  induction texts with
  | nil =>
    -- There is no address in no texts.
    refine iff_of_false nofun ?_
    rintro ⟨before, after, _, h, _⟩
    exact List.append_ne_nil_of_right_ne_nil before (List.cons_ne_nil address after) h.symm
  | cons text rest ih =>
    unfold LoadBalancer.firstV4In
    cases htext : Address.ofText? text with
    | none =>
      refine iff_of_false nofun ?_
      rintro ⟨_ | ⟨_, before⟩, after, a, h, ha, _, hbefore⟩
      · cases h
        cases htext.symm.trans ha
      · cases h
        obtain ⟨a', ha', _⟩ := hbefore text List.mem_cons_self
        cases htext.symm.trans ha'
    | some a =>
      -- An IPv4 address is the first of them, and one of IPv6 stands before it.
      dsimp only
      cases hv4 : a.isV4 with
      | true =>
        rw [if_pos rfl]
        constructor
        · intro h
          cases h
          exact ⟨[], rest, a, rfl, htext, hv4, nofun⟩
        · rintro ⟨_ | ⟨_, before⟩, after, a', h, _, _, hbefore⟩
          · cases h
            rfl
          · cases h
            obtain ⟨a', ha', hv6⟩ := hbefore text List.mem_cons_self
            cases htext.symm.trans ha'
            cases hv4.symm.trans hv6
      | false =>
        rw [if_neg Bool.false_ne_true, ih]
        constructor
        · rintro ⟨before, after, a', rfl, ha', hv4', hbefore⟩
          exact ⟨text :: before, after, a', rfl, ha', hv4',
            List.forall_mem_cons.2 ⟨⟨a, htext, hv4⟩, hbefore⟩⟩
        · rintro ⟨_ | ⟨_, before⟩, after, a', h, ha', hv4', hbefore⟩
          · cases h
            cases htext.symm.trans ha'
            cases hv4.symm.trans hv4'
          · cases h
            exact ⟨before, after, a', rfl, ha', hv4', (List.forall_mem_cons.1 hbefore).2⟩

namespace Topology

variable {x y : LoadBalancer} {address : String}

/-- The public address of a load balancer is its first of IPv4. -/
theorem publicAddress_eq_ok : publicAddress x = .ok address ↔ FirstV4 x address := by
  unfold publicAddress LoadBalancer.firstV4
  refine Iff.trans ?_ firstV4In_eq_some
  generalize LoadBalancer.firstV4In (x.addresses.map (·.address)) = found
  rcases found with e | _ | found
  · exact iff_of_false nofun nofun
  · exact iff_of_false nofun nofun
  · exact ⟨fun h => congrArg (fun a => Except.ok (some a)) (Except.ok.inj h),
      fun h => congrArg _ (Option.some.inj (Except.ok.inj h))⟩

/-- A load balancer has at most one first IPv4 address. -/
theorem rightUnique_firstV4 : Relator.RightUnique FirstV4 := fun _ _ _ h h' =>
  Except.ok.inj ((publicAddress_eq_ok.2 h).symm.trans (publicAddress_eq_ok.2 h'))

/-- Which address is the first of IPv4 depends on the addresses only. -/
theorem firstV4_congr (h : FirstV4 x address) (haddresses : y.addresses = x.addresses) :
    FirstV4 y address := by
  unfold FirstV4
  rw [haddresses]
  exact h

/-- An address is not the empty text. -/
theorem ne_empty_of_firstV4 (h : FirstV4 x address) : address ≠ "" := by
  obtain ⟨_, _, a, _, ha, _⟩ := h
  rintro rfl
  have hnone : Address.ofText? "" = none := by decide +kernel
  cases hnone.symm.trans ha

end Topology

/-! ## What is listed after the first phase -/

/-- Load balancers that are listed by their tags have the same ids whatever their types. -/
theorem Secondary.map_id_balancersWith {site : Site} {wanted : List String} {c c' : Cloud}
    (h : c'.balancers.map (·.untyped) = c.balancers.map (·.untyped)) :
    (site.balancersWith wanted c').map (·.id) = (site.balancersWith wanted c).map (·.id) := by
  -- What is listed is told by zones and tags.
  have huntyped : ∀ c : Cloud, (site.balancersWith wanted c).map (·.untyped) =
      site.zones.flatMap fun zone => (c.balancers.map (·.untyped)).filter fun b =>
        hasTags b.tags wanted && decide (b.zone = zone) := by
    intro c
    unfold Site.balancersWith
    rw [List.map_flatMap]
    refine congrArg (List.flatMap · site.zones) (funext fun zone => ?_)
    rw [List.filter_map]
    rfl
  refine map_id_of_untyped ?_
  rw [huntyped, huntyped, h]

namespace Topology

variable {s : Scope} {b : LoadBalancer} {c c' : Cloud}

/-- Ensuring the primary brings one to its type, or makes one where there is none. -/
theorem ensurePrimary_balancers (h : (ensurePrimary s).Returns c b c') :
    c'.balancers.map (·.untyped) = c.balancers.map (·.untyped) ∨
      (∀ p ∈ c.balancers, ¬IsPrimary s p) ∧
        ∃ q, q.tags = primaryTags s ∧ c'.balancers = c.balancers ++ [q] := by
  -- Both requests of the step either fail, which leaves the load balancers, or do what their effect
  -- says.
  refine (ensurePrimary_upholds_of (P := fun v =>
    v.balancers.map (·.untyped) = c.balancers.map (·.untyped) ∨
      (∀ p ∈ c.balancers, ¬IsPrimary s p) ∧
        ∃ q, q.tags = primaryTags s ∧ v.balancers = c.balancers ++ [q])
    (.inl rfl) ?create ?migrate).of_returns h
  case create =>
    intro zone type addressId hzone hnone _
    rcases hanswer : c.answer (.createBalancer zone (s.resourceName []) type addressId
      s.balancersPrivate (primaryTags s)) with ⟨e | q, v⟩
    · dsimp only
      rw [Cloud.eq_of_refused hanswer]
      exact .inl rfl
    · obtain ⟨hq, _, hv⟩ := Cloud.createBalancer_effect hanswer
      refine .inr ⟨fun p hp hprimary => ?_, q, congrArg LoadBalancer.tags hq, ?_⟩
      · -- A primary is created only where the look-up in its zone found none.
        refine List.filter_eq_nil_iff.1 hnone p hp ?_
        have hpzone : zone = p.zone := Except.ok.inj (hzone.symm.trans hprimary.1)
        unfold isPrimaryIn
        rw [hprimary.2, hpzone]
        simp
      · dsimp only
        rw [hv]
  case migrate =>
    intro p _ _ zone type
    rcases hanswer : c.answer (.migrateBalancer zone p.id type) with ⟨e | q, v⟩
    · dsimp only
      rw [Cloud.eq_of_refused hanswer]
      exact .inl rfl
    · obtain ⟨_, hv⟩ := Cloud.migrateBalancer_effect hanswer
      dsimp only
      rw [hv]
      exact .inl (Cloud.Retyped.of_type c p.id type).balancers

/-- No secondary is listed that was not listed before the primary was ensured. -/
theorem nodup_listed_of_ensurePrimary (h : (ensurePrimary s).Returns c b c')
    (hlisted : ((s.site.balancersWith (Secondary.tags s) c).map (·.id)).Nodup) :
    ((s.site.balancersWith (Secondary.tags s) c').map (·.id)).Nodup := by
  rcases ensurePrimary_balancers h with huntyped | ⟨_, q, htags, hbalancers⟩
  · rwa [Secondary.map_id_balancersWith huntyped]
  · have hsame : s.site.balancersWith (Secondary.tags s) c' =
        s.site.balancersWith (Secondary.tags s) c := by
      unfold Site.balancersWith
      refine congrArg (List.flatMap · s.site.zones) (funext fun zone => ?_)
      -- A primary that is made does not have the tags of a secondary, and so is not listed among
      -- them.
      have hnone : hasTags q.tags (Secondary.tags s) = false := by
        rw [htags]
        exact Bool.eq_false_iff.2 not_hasTags_secondary
      rw [hbalancers, List.filter_append, List.filter_singleton, hnone]
      exact List.append_nil _
    rwa [hsame]

end Topology

/-! ## The load balancers in the end -/

/-- No load balancer has been made. -/
def Cloud.NoneMade (c c' : Cloud) : Prop :=
  ∀ b ∈ c'.balancers, ∃ b0 ∈ c.balancers, b0.id = b.id

namespace Secondary

variable {s : Scope} {desired : List BalancerSpec} {wanted : List (String × List BalancerSpec)}
  {all : List LoadBalancer} {c c' : Cloud}

/-- The secondaries that are ensured are at the places that are declared. -/
theorem Ensures.perm_targets (h : Ensures s desired all c c')
    (hw : (reconciler s).groups desired = .ok wanted) :
    (all.map place).Perm (((reconciler s).targets wanted).map fun t => (t.1, t.2.1)) := by
  refine (List.perm_ext_iff_of_nodup h.places
    (Reconciler.nodup_targets (desiredName_injective s) hw)).2 fun t => ?_
  constructor
  · -- What is there fits what is desired at its place.
    intro ht
    obtain ⟨b, hb, rfl⟩ := List.mem_map.1 ht
    obtain ⟨d, hd, _⟩ := h.fits b hb
    exact List.mem_map.2 ⟨(b.zone, b.name, d),
      (Reconciler.mem_targets hw).2 (Reconciler.desiredAt_eq_some hd), rfl⟩
  · intro ht
    obtain ⟨⟨zone, name, d⟩, hmem, rfl⟩ := List.mem_map.1 ht
    obtain ⟨i, hi, rfl⟩ := (Reconciler.mem_targets hw).1 hmem
    obtain ⟨hlt, _⟩ := List.getElem?_eq_some_iff.1 hi
    obtain ⟨b, hb, hplace⟩ := h.filled zone i hlt
    exact List.mem_map.2 ⟨b, hb, hplace⟩

end Secondary

namespace Topology

variable {s : Scope}

namespace Phases

variable {b : LoadBalancer} {bs : List LoadBalancer} {ks : List Backend} {m : FrontendMap}
  {c c1 c2 c3 c4 c5 c' : Cloud}

/-- What the second phase leaves, and what it returns. -/
theorem ensures (h : Phases s b bs ks m c c1 c2 c3 c4 c5 c') (hc : c.Sound)
    (hlisted : ((s.site.balancersWith (Secondary.tags s) c).map (·.id)).Nodup) :
    ∃ wanted all, (Secondary.reconciler s).groups s.secondaries = .ok wanted ∧
      bs = all.map (Secondary.pinned s s.secondaries) ∧
      Secondary.Ensures s s.secondaries all c1 c2 ∧ all.Perm (Secondary.present s c') := by
  have hc1 := h.sound_primary hc
  obtain ⟨wanted, _, _, _, hw, _⟩ := Secondary.ensure_cases hc1 h.secondaries
  obtain ⟨all, hbs, hall⟩ := Secondary.ensure_spec hc1
    (nodup_listed_of_ensurePrimary h.primary hlisted) h.secondaries
  have hpresent : Secondary.present s c' = Secondary.present s c2 := by
    unfold Secondary.present
    rw [h.balancers_eq]
  exact ⟨wanted, all, hw, hbs, hall, hpresent ▸ hall.perm_present (h.sound_secondaries hc)⟩

/-- The secondaries in the end are at the places that are declared. -/
theorem perm_targets (h : Phases s b bs ks m c c1 c2 c3 c4 c5 c') (hc : c.Sound)
    (hlisted : ((s.site.balancersWith (Secondary.tags s) c).map (·.id)).Nodup) :
    ∃ wanted, (Secondary.reconciler s).groups s.secondaries = .ok wanted ∧
      ((Secondary.present s c').map Secondary.place).Perm
        (((Secondary.reconciler s).targets wanted).map fun t => (t.1, t.2.1)) := by
  obtain ⟨wanted, all, hw, _, hall, hperm⟩ := h.ensures hc hlisted
  exact ⟨wanted, hw, (hperm.map Secondary.place).symm.trans (hall.perm_targets hw)⟩

/-- What is published of the secondaries is what those in the end have, by zone and name. -/
theorem published_public (h : Phases s b bs ks m c c1 c2 c3 c4 c5 c') (hc : c.Sound)
    (hlisted : ((s.site.balancersWith (Secondary.tags s) c).map (·.id)).Nodup)
    {others : List String}
    (hothers : ((bs.map (settled s c3)).mergeSort byZoneAndName).mapM publicAddress = .ok others) :
    List.Forall₂ FirstV4 ((Secondary.present s c').mergeSort byZoneAndName) others := by
  obtain ⟨_, all, _, rfl, hall, hperm⟩ := h.ensures hc hlisted
  have hsorted : ((all.map (Secondary.pinned s s.secondaries)).map (settled s c3)).mergeSort
      byZoneAndName = (all.mergeSort byZoneAndName).map
        fun x => settled s c3 (Secondary.pinned s s.secondaries x) := by
    rw [List.map_map]
    exact (List.map_mergeSort (f := settled s c3 ∘ Secondary.pinned s s.secondaries)
      (s := byZoneAndName) fun _ _ _ _ => rfl).symm
  rw [hsorted, List.mapM_map, mergeSort_eq_of_places hall.places hperm] at hothers
  refine forall₂_of_mapM hothers fun x _ address hx => ?_
  exact firstV4_congr (publicAddress_eq_ok.1 hx) rfl

/-- Where none is made, every load balancer in the end is one of before, but for its type. -/
theorem exists_origin (h : Phases s b bs ks m c c1 c2 c3 c4 c5 c') (hc : c.Sound)
    (hmade : c.NoneMade c') {x : LoadBalancer} (hx : x ∈ c'.balancers) :
    ∃ x0 ∈ c.balancers, x0.untyped = x.untyped := by
  rcases (h.restructures hc).origin x (h.balancers_eq ▸ hx) with ⟨x0, hx0, heq⟩ | ⟨n, hn, hfresh⟩
  · refine ⟨x0, hx0, ?_⟩
    rw [heq]
    rfl
  · obtain ⟨x0, hx0, hid⟩ := hmade x hx
    refine absurd ?_ (hc.balancers.fresh n hn)
    rw [← hfresh, ← hid]
    exact List.mem_map_of_mem hx0

/-- A primary of before is the one in the end, but for its type. -/
theorem untyped_of_isPrimary (h : Phases s b bs ks m c c1 c2 c3 c4 c5 c') (hc : c.Sound)
    (hmade : c.NoneMade c') {p x : LoadBalancer} (hp : HasPrimary s p c') (hx : x ∈ c.balancers)
    (hprimary : IsPrimary s x) : x.untyped = p.untyped := by
  rcases ensurePrimary_balancers h.primary with huntyped | ⟨hnone, _⟩
  · obtain ⟨q, hb, hq⟩ := ensurePrimary_spec hc h.primary
    obtain ⟨x1, hx1, heq⟩ := exists_untyped huntyped.symm hx
    have hx1primary : IsPrimary s x1.untyped := heq ▸ hprimary
    have hself : x1 = q := hq.only.unique x1 hx1 hx1primary
    have hqb : q.id = b.id := (congrArg LoadBalancer.id hb).symm
    -- The first phase has found it, and the run has gone on with it.
    have hxid : x.id = p.id := by
      calc x.id = x1.id := (LoadBalancer.id_eq_of_untyped heq).symm
        _ = b.id := hself ▸ hqb
        _ = p.id := (h.id_eq_of_isPrimary hc hp.mem hp.primary).symm
    obtain ⟨p0, hp0, hpeq⟩ := h.exists_origin hc hmade hp.mem
    have hsame : x = p0 :=
      hc.balancers.inj hx hp0 (hxid.trans (LoadBalancer.id_eq_of_untyped hpeq).symm)
    rw [hsame, hpeq]
  · exact (hnone x hx hprimary).elim

end Phases

/-! ## What is announced -/

/-- The status says where the load balancers of a public cluster are: the primary, and the
secondaries by zone and name, one for each declaration. -/
structure Announced (s : Scope) (c : Cloud) (status : ClusterStatus) : Prop where
  primary : ∃ p main, HasPrimary s p c ∧ FirstV4 p main ∧ status.address = some main
  secondaries : List.Forall₂ FirstV4 ((Secondary.present s c).mergeSort byZoneAndName)
    status.secondaryAddresses
  places : ((Secondary.present s c).map Secondary.place).Nodup
  count : status.secondaryAddresses.length = s.secondaries.length
  all : status.addresses.Perm (status.address.toList ++ status.secondaryAddresses)
  sorted : status.addresses.Pairwise (· ≤ ·)

/-- All addresses are listed, unless that of the primary is empty. -/
theorem addresses_perm {status : ClusterStatus} (h : status.address ≠ some "") :
    status.addresses.Perm (status.address.toList ++ status.secondaryAddresses) := by
  unfold ClusterStatus.addresses
  refine (List.mergeSort_perm _ _).trans ?_
  cases haddress : status.address with
  | none =>
    dsimp only
    rw [List.append_nil]
    exact .refl _
  | some main =>
    rw [haddress] at h
    dsimp only
    rw [if_neg fun hempty => h (congrArg some hempty)]
    exact List.perm_append_comm

/-- The addresses of a status are in order. -/
theorem addresses_sorted (status : ClusterStatus) : status.addresses.Pairwise (· ≤ ·) := by
  unfold ClusterStatus.addresses
  refine (List.pairwise_mergeSort ?_ ?_ _).imp of_decide_eq_true
  · intro a b d hab hbd
    exact decide_eq_true (String.le_trans (of_decide_eq_true hab) (of_decide_eq_true hbd))
  · intro a b
    rw [Bool.or_eq_true, decide_eq_true_eq, decide_eq_true_eq]
    exact String.le_total a b

/-- The clouds list the same load balancers in different orders. -/
structure Reordered (c d : Cloud) : Prop where
  balancers : d.balancers.Perm c.balancers
  rest : d = { c with balancers := d.balancers }

/-- A cloud that lists the load balancers of a sound one in another order is sound. -/
theorem Reordered.sound {c d : Cloud} (h : Reordered c d) (hc : c.Sound) : d.Sound := by
  have hids : Cloud.Ids "lb" c.nextId (d.balancers.map (·.id)) :=
    ⟨(h.balancers.map _).nodup_iff.2 hc.balancers.nodup,
      fun n hn hmem => hc.balancers.fresh n hn ((h.balancers.map _).mem_iff.1 hmem)⟩
  rw [h.rest]
  exact { hc with balancers := hids }

/-- If no secondary is listed twice on one of the clouds, then none is on the other. -/
theorem Reordered.nodup_listed {c d : Cloud} (h : Reordered c d)
    (hlisted : ((s.site.balancersWith (Secondary.tags s) c).map (·.id)).Nodup) :
    ((s.site.balancersWith (Secondary.tags s) d).map (·.id)).Nodup := by
  refine (List.Perm.map _ ?_).nodup_iff.2 hlisted
  exact List.Perm.flatMap_left _ fun zone _ => h.balancers.filter _

/-- Where secondaries are the same but for their types, at distinct places, they are published under
the same addresses. -/
theorem addresses_eq_of_untyped {bs bs' : List LoadBalancer} {others others' : List String}
    (hplaces : (bs.map Secondary.place).Nodup)
    (hperm : (bs.map (·.untyped)).Perm (bs'.map (·.untyped)))
    (h : List.Forall₂ FirstV4 (bs.mergeSort byZoneAndName) others)
    (h' : List.Forall₂ FirstV4 (bs'.mergeSort byZoneAndName) others') : others = others' := by
  have huntyped : ∀ {xs : List LoadBalancer} {ys : List String},
      List.Forall₂ FirstV4 (xs.mergeSort byZoneAndName) ys →
        List.Forall₂ FirstV4 ((xs.map (·.untyped)).mergeSort byZoneAndName) ys := by
    intro xs ys hxs
    rw [← List.map_mergeSort (f := LoadBalancer.untyped) (s := byZoneAndName) fun _ _ _ _ => rfl]
    exact List.forall₂_map_left_iff.2 hxs
  have hdistinct : ((bs.map (·.untyped)).map Secondary.place).Nodup := by
    rw [List.map_map]
    exact hplaces
  -- Places are distinct, and therefore the order by zone and name is the same.
  have hsame := mergeSort_eq_of_places hdistinct hperm
  exact List.right_unique_forall₂' rightUnique_firstV4 (huntyped h) (hsame ▸ huntyped h')

/-- Two clouds at a start and those that they have become: every secondary that there is in the end
has its match, where it is an old one, and only one was at its place. -/
theorem exists_untyped_present {c c' d d' : Cloud}
    (hplaces : ((Secondary.present s c).map Secondary.place).Nodup)
    (hsub : ∀ y ∈ d.balancers, y ∈ c.balancers)
    (horigin : ∀ x ∈ c'.balancers, ∃ x0 ∈ c.balancers, x0.untyped = x.untyped)
    (horigin' : ∀ y ∈ d'.balancers, ∃ y0 ∈ d.balancers, y0.untyped = y.untyped)
    (hfilled : ((Secondary.present s c').map Secondary.place) ⊆
      (Secondary.present s d').map Secondary.place)
    {x : LoadBalancer} (hx : x ∈ Secondary.present s c') :
    ∃ y ∈ Secondary.present s d', y.untyped = x.untyped := by
  obtain ⟨y, hy, hplace⟩ := List.mem_map.1 (hfilled (List.mem_map_of_mem hx))
  -- Both clouds go back to one, in which a place has one load balancer.
  have hold : ∀ {z z0 : LoadBalancer}, z0 ∈ c.balancers → z0.untyped = z.untyped →
      Secondary.IsSecondary s z → z0 ∈ Secondary.present s c := by
    intro z z0 hz0 heq hsec
    have hsec' : Secondary.IsSecondary s z.untyped := hsec
    rw [← heq] at hsec'
    exact Secondary.mem_present.2 ⟨hz0, hsec'⟩
  obtain ⟨hxmem, hxsec⟩ := Secondary.mem_present.1 hx
  obtain ⟨hymem, hysec⟩ := Secondary.mem_present.1 hy
  obtain ⟨x0, hx0, hxeq⟩ := horigin x hxmem
  obtain ⟨y0, hy0, hyeq⟩ := horigin' y hymem
  have hsame : y0 = x0 := by
    refine List.inj_on_of_nodup_map hplaces (hold (hsub y0 hy0) hyeq hysec) (hold hx0 hxeq hxsec) ?_
    rw [Secondary.place_eq_of_untyped hyeq, Secondary.place_eq_of_untyped hxeq, hplace]
  exact ⟨y, hy, by rw [← hyeq, hsame, hxeq]⟩

/-- No two secondaries differ in their types alone. -/
theorem nodup_untyped_present {c : Cloud} (hc : c.Sound) :
    ((Secondary.present s c).map (·.untyped)).Nodup := by
  refine List.Nodup.of_map LoadBalancer.id ?_
  rw [List.map_map]
  exact Secondary.nodup_present hc

/-- Clouds that start with the same secondaries at distinct places, and end with secondaries at the
same places and none that was made, end with the same secondaries but for their types. -/
theorem perm_untyped_present {c c' d d' : Cloud} (h : Reordered c d) (hc' : c'.Sound)
    (hd' : d'.Sound) (hplaces : ((Secondary.present s c).map Secondary.place).Nodup)
    (horigin : ∀ x ∈ c'.balancers, ∃ x0 ∈ c.balancers, x0.untyped = x.untyped)
    (horigin' : ∀ y ∈ d'.balancers, ∃ y0 ∈ d.balancers, y0.untyped = y.untyped)
    (hfilled : ((Secondary.present s c').map Secondary.place).Perm
      ((Secondary.present s d').map Secondary.place)) :
    ((Secondary.present s c').map (·.untyped)).Perm ((Secondary.present s d').map (·.untyped)) := by
  have hplaces' : ((Secondary.present s d).map Secondary.place).Nodup :=
    ((h.balancers.filter _).map Secondary.place).nodup_iff.2 hplaces
  refine (List.perm_ext_iff_of_nodup (nodup_untyped_present hc') (nodup_untyped_present hd')).2
    fun t => ⟨fun ht => ?_, fun ht => ?_⟩
  · obtain ⟨x, hx, rfl⟩ := List.mem_map.1 ht
    obtain ⟨y, hy, heq⟩ := exists_untyped_present hplaces (fun z hz => h.balancers.mem_iff.1 hz)
      horigin horigin' hfilled.subset hx
    exact List.mem_map.2 ⟨y, hy, heq⟩
  · obtain ⟨y, hy, rfl⟩ := List.mem_map.1 ht
    obtain ⟨x, hx, heq⟩ := exists_untyped_present hplaces' (fun z hz => h.balancers.mem_iff.2 hz)
      horigin' horigin hfilled.symm.subset hy
    exact List.mem_map.2 ⟨x, hx, heq⟩

/-- Publishing changes nothing about a status but the addresses. -/
theorem reconcile_status {deadline : Option Seconds} {x x' : Session Cloud} {u : Unit}
    (h : (reconcile s).run Cloud.provider deadline x = (.ok u, x')) :
    x'.status = { x.status with
      address := x'.status.address, secondaryAddresses := x'.status.secondaryAddresses } := by
  rw [reconcile_eq] at h
  obtain ⟨⟨b, bs⟩, y, harrange, hpublish⟩ := run_bind_eq_ok h
  obtain ⟨main, others, _, _, rfl⟩ := publish_run.1 hpublish
  have hstatus : y.status = x.status := by
    have hsame : ((arrange s).run Cloud.provider deadline x).2.status = x.status :=
      arrange_orderly.run_status
    rwa [harrange] at hsame
  rw [← hstatus]

/-- After a run on a public cluster, the status says where the load balancers are that there are. -/
theorem announced_of_reconcile {deadline : Option Seconds} {x x' : Session Cloud} {u : Unit}
    (hpublic : s.balancersPrivate = false) (hc : x.world.store.Sound)
    (hlisted : ((s.site.balancersWith (Secondary.tags s) x.world.store).map (·.id)).Nodup)
    (h : (reconcile s).run Cloud.provider deadline x = (.ok u, x')) :
    Announced s x'.world.store x'.status := by
  obtain ⟨b, bs, main, others, harrange, hmain, hothers, haddress, haddresses⟩ := reconcile_run h
  obtain ⟨b, bs, _, _, _, _, c3, _, _, heq, hphases⟩ := arrange_returns harrange
  cases heq
  -- In a public cluster what is published is the first IPv4 address.
  have hpublished : publishedAddress s = publicAddress := by
    unfold publishedAddress
    rw [hpublic]
    rfl
  rw [hpublished] at hmain hothers
  -- The load balancers at the end have the addresses of those that were published.
  obtain ⟨p, hp, _, hpaddresses⟩ := hphases.exists_primary hc
  have hfirst : FirstV4 p main := firstV4_congr (publicAddress_eq_ok.1 hmain) hpaddresses
  have hsecondaries := hphases.published_public hc hlisted hothers
  obtain ⟨wanted, hw, hperm⟩ := hphases.perm_targets hc hlisted
  have hne : x'.status.address ≠ some "" := by
    rw [haddress]
    exact fun h => ne_empty_of_firstV4 hfirst (Option.some.inj h)
  rw [← haddresses] at hsecondaries
  -- The clauses, the number of secondaries by way of the targeted places.
  constructor
  case primary => exact ⟨p, main, hp, hfirst, haddress⟩
  case secondaries => exact hsecondaries
  case places =>
    exact hperm.nodup_iff.2 (Reconciler.nodup_targets (Secondary.desiredName_injective s) hw)
  case count =>
    calc x'.status.secondaryAddresses.length
        = ((Secondary.present s x'.world.store).mergeSort byZoneAndName).length :=
          hsecondaries.length_eq.symm
      _ = ((Secondary.present s x'.world.store).map Secondary.place).length := by
          rw [List.length_mergeSort, List.length_map]
      _ = ((Secondary.reconciler s).targets wanted).length := by
          rw [hperm.length_eq, List.length_map]
      _ = s.secondaries.length := Reconciler.length_targets hw
  case all => exact addresses_perm hne
  case sorted => exact addresses_sorted _

/-- After a run on a public cluster that returns, the status says where the load balancers are that
there are then. And whichever way a cloud lists its load balancers, if none need be made and no two
secondaries share a zone and a name, the status in the end is the same. -/
theorem reconcile_announces {deadline : Option Seconds} {x x' : Session Cloud} {u : Unit}
    (hpublic : s.balancersPrivate = false) (hc : x.world.store.Sound)
    (hlisted : ((s.site.balancersWith (Secondary.tags s) x.world.store).map (·.id)).Nodup)
    (h : (reconcile s).run Cloud.provider deadline x = (.ok u, x')) :
    Announced s x'.world.store x'.status ∧
      ∀ (deadline' : Option Seconds) (y y' : Session Cloud), y.status = x.status →
        Reordered x.world.store y.world.store →
        ((Secondary.present s x.world.store).map Secondary.place).Nodup →
        (reconcile s).run Cloud.provider deadline' y = (.ok (), y') →
        x.world.store.NoneMade x'.world.store → y.world.store.NoneMade y'.world.store →
        y'.status = x'.status := by
  have hx := announced_of_reconcile hpublic hc hlisted h
  refine ⟨hx, ?_⟩
  intro deadline' y y' hstatus hreordered hplaces h' hmade hmade'
  have hd : y.world.store.Sound := hreordered.sound hc
  have hlisted' := hreordered.nodup_listed hlisted
  have hy := announced_of_reconcile hpublic hd hlisted' h'
  obtain ⟨_, _, _, _, harrange, _⟩ := reconcile_run h
  obtain ⟨_, _, _, _, _, _, _, _, _, _, hphases⟩ := arrange_returns harrange
  obtain ⟨_, _, _, _, harrange', _⟩ := reconcile_run h'
  obtain ⟨_, _, _, _, _, _, _, _, _, _, hphases'⟩ := arrange_returns harrange'
  have haddress : y'.status.address = x'.status.address := by
    obtain ⟨p, main, hp, hmain, hpaddress⟩ := hx.primary
    obtain ⟨q, main', hq, hmain', hqaddress⟩ := hy.primary
    -- The primary in the end was there before, in either order.
    obtain ⟨q0, hq0, hqeq⟩ := hphases'.exists_origin hd hmade' hq.mem
    have hq0primary : IsPrimary s q0.untyped := hqeq ▸ hq.primary
    have hsame : q.untyped = p.untyped :=
      hqeq.symm.trans (hphases.untyped_of_isPrimary hc hmade hp
        (hreordered.balancers.mem_iff.1 hq0) hq0primary)
    have haddresses : p.addresses = q.addresses :=
      (congrArg LoadBalancer.addresses hsame).symm
    rw [hpaddress, hqaddress, rightUnique_firstV4 hmain (firstV4_congr hmain' haddresses)]
  have hsecondaries : y'.status.secondaryAddresses = x'.status.secondaryAddresses := by
    obtain ⟨wanted, hw, hperm⟩ := hphases.perm_targets hc hlisted
    obtain ⟨wanted', hw', hperm'⟩ := hphases'.perm_targets hd hlisted'
    cases hw.symm.trans hw'
    have horigin : ∀ b ∈ x'.world.store.balancers,
        ∃ b0 ∈ x.world.store.balancers, b0.untyped = b.untyped := fun b hb =>
      hphases.exists_origin hc hmade hb
    have horigin' : ∀ b ∈ y'.world.store.balancers,
        ∃ b0 ∈ y.world.store.balancers, b0.untyped = b.untyped := fun b hb =>
      hphases'.exists_origin hd hmade' hb
    have hsame := perm_untyped_present hreordered (hphases.sound_rules hc) (hphases'.sound_rules hd)
      hplaces horigin horigin' (hperm.trans hperm'.symm)
    exact (addresses_eq_of_untyped hx.places hsame hx.secondaries hy.secondaries).symm
  rw [reconcile_status h', reconcile_status h, haddress, hsecondaries, hstatus]

end Topology

namespace Sample

/-- The cloud with its load balancers listed the other way around. -/
def reversed : Cloud := { cloud with balancers := cloud.balancers.reverse }

end Sample

namespace Topology

/-- Runs on two clouds that list the same load balancers in different orders both return, announce
them, and come to the same status. -/
theorem sample_announces : ∃ x' y',
    (reconcile (Sample.scope [])).run Cloud.provider none (Sample.session Sample.cloud) =
      (.ok (), x') ∧
    (reconcile (Sample.scope [])).run Cloud.provider none (Sample.session Sample.reversed) =
      (.ok (), y') ∧
    Announced (Sample.scope []) x'.world.store x'.status ∧ y'.status = x'.status := by
  -- Neither run makes a load balancer, so that both end with those of the start.
  have hstays : ∀ c ∈ [Sample.cloud, Sample.reversed],
      c.NoneMade ((reconcile (Sample.scope [])).run Cloud.provider none
        (Sample.session c)).2.world.store := by
    unfold Cloud.NoneMade
    decide +kernel
  obtain ⟨hx, hy⟩ := List.forall_mem_cons.1 hstays
  have hy := List.forall_mem_singleton.1 hy
  obtain ⟨_, x', hrun⟩ := Sample.exists_of_isOk (r := (reconcile (Sample.scope [])).run
    Cloud.provider none (Sample.session Sample.cloud)) (by decide +kernel)
  obtain ⟨_, y', hrun'⟩ := Sample.exists_of_isOk (r := (reconcile (Sample.scope [])).run
    Cloud.provider none (Sample.session Sample.reversed)) (by decide +kernel)
  rw [hrun] at hx
  rw [hrun'] at hy
  obtain ⟨hannounced, hsame⟩ :=
    reconcile_announces rfl Sample.cloud_sound (by decide +kernel) hrun
  refine ⟨x', y', hrun, hrun', hannounced, ?_⟩
  exact hsame none (Sample.session Sample.reversed) y' rfl ⟨List.reverse_perm _, rfl⟩
    (by decide +kernel) hrun' hx hy

end Topology

end ControlPlane
