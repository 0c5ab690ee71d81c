import ControlPlane.Proofs.Topology.Handling
import ControlPlane.Proofs.Topology.Undoing

/-!
# Where load balancers come from, and which addresses go with them

A history of runs starts on a cloud where the cluster has no load balancer, and may change what is
declared from run to run. Every load balancer of the cluster can then be traced to the run that has
made it (`Recorded`): a primary to one that declared its zone, and the address, if that was there at
first; a secondary with the mark has an address that was made for it. This is an invariant of all
requests that handle load balancers as they should (`Provenance.answer`), so it does not matter how
runs are disturbed or where they stop (`Provenance.aftermath`).

What a run deletes is therefore known with the address that goes with it (`deletion_recorded`). The
record of a secondary is its mark, which stays. That of a primary is the declaration of the moment,
which may have changed since the address was bound: so an address that was there at first is
released if it was declared for the primary and is not any more (`reserved_released_iff`). And an
address that was made for a secondary goes with it also if it has been declared since
(`pinned_released_iff`).
-/

namespace ControlPlane

open Program hiding ofExcept

/-- The exchanges of a run on a cloud. -/
def Circumstances.exchanges (k : Circumstances) (p : Program Unit) (c : Cloud) :
    List (Exchange Trial) :=
  p.exchanges Trial.provider k.deadline (k.session c)

namespace Attempt

/-- What was declared when reconciliations were run. -/
def declared (attempts : List Attempt) : List NetworkSpec :=
  (attempts.filter (·.job = .reconcile)).map (·.network)

/-- The cloud that runs leave, one after the other. -/
def aftermath (s : Scope) (c : Cloud) (attempts : List Attempt) : Cloud :=
  attempts.foldl (fun c a => a.circumstances.leaves (a.program s) c) c

/-- In a run on a cloud, a load balancer is asked to be deleted as it is then, with its addresses
released or not. -/
def Deletes (s : Scope) (c : Cloud) (a : Attempt) (zone : String) (b : LoadBalancer)
    (release : Bool) : Prop :=
  ∃ k ∈ a.circumstances.exchanges (a.program s) c,
    k.request = .deleteBalancer zone b.id release ∧ b ∈ k.before.cloud.balancers

instance (s : Scope) (c : Cloud) (a : Attempt) (zone : String) (b : LoadBalancer) (release : Bool) :
    Decidable (a.Deletes s c zone b release) :=
  inferInstanceAs (Decidable (∃ k ∈ a.circumstances.exchanges (a.program s) c,
    k.request = .deleteBalancer zone b.id release ∧ b ∈ k.before.cloud.balancers))

/-- A network was declared when some reconciliation was run with it. -/
theorem mem_declared {attempts : List Attempt} {n : NetworkSpec} :
    n ∈ declared attempts ↔ ∃ a ∈ attempts, a.job = .reconcile ∧ a.network = n := by
  unfold declared
  simp only [List.mem_map, List.mem_filter, decide_eq_true_eq, and_assoc]

end Attempt

namespace Topology

/-! ## Records -/

/-- What is known of a load balancer of the cluster. It was made with its tags, in a zone of the
region. If it is a primary, its zone was declared in some run, and so was what it has of the
addresses that there were at first. If it has the mark, its addresses were made for it. -/
structure Recorded (s : Scope) (networks : List NetworkSpec) (c0 : Cloud) (b : LoadBalancer) :
    Prop where
  tags : b.tags ∈ s.madeWith
  zone : b.zone ∈ s.site.zones
  primary : hasTags b.tags (primaryTags s) = true → ∃ n ∈ networks,
    s.site.region.resolve n.primary.zone = .ok b.zone ∧
      ∀ x ∈ b.addresses, x.id ∈ c0.addresses.map (·.id) → n.primary.address = some x.address
  allocated : Tag.managedAddress ∈ b.tags → ∀ x ∈ b.addresses, x.id ∉ c0.addresses.map (·.id)

/-- Every load balancer of the cluster has come about since a cloud, in runs with some declarations.
-/
structure Provenance (s : Scope) (networks : List NetworkSpec) (c0 c : Cloud) : Prop where
  sound : c.Sound
  nextId : c0.nextId ≤ c.nextId
  recorded : ∀ b ∈ c.balancers, s.owns b.tags = true → Recorded s networks c0 b

variable {s : Scope} {networks : List NetworkSpec} {c0 c c' : Cloud} {b : LoadBalancer}

/-- A load balancer of a recorded origin does not have both roles. -/
theorem Recorded.not_secondary (h : Recorded s networks c0 b)
    (hprimary : hasTags b.tags (primaryTags s) = true) :
    hasTags b.tags (Secondary.tags s) = false := by
  rw [Bool.eq_false_iff]
  exact fun hsec => Scope.not_primary_of_secondary h.tags hsec hprimary

/-- Under a found address, a load balancer is made with that address. -/
theorem created_pinned {zone name type : String} {address addressId : Option String}
    {isPrivate : Bool} {tags : List String} (hc : c.Sound) (hfound : FoundFor c address addressId)
    (hsome : address ≠ none)
    (h : c.createBalancer zone name type addressId isPrivate tags = (.ok b, c')) :
    ∀ x ∈ b.addresses, address = some x.address := by
  cases addressId with
  | none => exact absurd (Option.isNone_iff_eq_none.1 hfound.isNone.symm) hsome
  | some id =>
    obtain ⟨a, ha, hid, haddress⟩ := hfound.found id rfl
    obtain ⟨a', hfind, hheld⟩ := Cloud.createBalancer_pinned h
    have hid' : a'.id = id := by simpa using List.find?_some hfind
    have hself : a' = a := hc.addresses.inj (List.mem_of_find?_eq_some hfind) ha (hid'.trans hid.symm)
    rw [hheld, hself]
    exact List.forall_mem_singleton.2 haddress

/-- Without one, it is made with a fresh address at most. -/
theorem created_unpinned {zone name type : String} {address addressId : Option String}
    {isPrivate : Bool} {tags : List String} (h0 : c0.Sound) (hnext : c0.nextId ≤ c.nextId)
    (hfound : FoundFor c address addressId) (hnone : address = none)
    (h : c.createBalancer zone name type addressId isPrivate tags = (.ok b, c')) :
    ∀ x ∈ b.addresses, x.id ∉ c0.addresses.map (·.id) := by
  have haddress : addressId = none := Option.isNone_iff_eq_none.1 (by rw [hfound.isNone, hnone]; rfl)
  rcases Cloud.createBalancer_addresses h with
    ⟨id, hid, _⟩ | ⟨_, hempty, _⟩ | ⟨a, _, hid, hheld, _⟩
  · rw [haddress] at hid
    cases hid
  · rw [hempty]
    exact List.forall_mem_nil _
  · rw [hheld]
    refine List.forall_mem_singleton.2 ?_
    rw [hid]
    exact h0.addresses.fresh _ (Nat.le_succ_of_le hnext)

/-- What a job makes as it should is recorded. -/
theorem Recorded.of_create {j : Job} {zone name type : String} {addressId : Option String}
    {isPrivate : Bool} {tags : List String} (h0 : c0.Sound) (hc : c.Sound)
    (hnext : c0.nextId ≤ c.nextId) (hnetworks : j = .reconcile → s.cluster.network ∈ networks)
    (hr : Handles s j c (.createBalancer zone name type addressId isPrivate tags))
    (h : c.createBalancer zone name type addressId isPrivate tags = (.ok b, c')) :
    Recorded s networks c0 b := by
  have heq := (Cloud.createBalancer_effect h).1
  have hbzone : b.zone = zone := congrArg LoadBalancer.zone heq
  have hbtags : b.tags = tags := congrArg LoadBalancer.tags heq
  obtain ⟨hzone, ⟨hj, htags, hresolve, hfound⟩ | ⟨address, more, htags, hmore, hfound⟩⟩ := hr
  all_goals rw [htags] at hbtags
  -- A primary, which has no mark.
  · refine ⟨by rw [hbtags]; exact List.mem_cons_self, hbzone ▸ hzone, fun _ => ?_, fun hmark => ?_⟩
    · refine ⟨_, hnetworks hj, hbzone ▸ hresolve, fun x hx hreserved => ?_⟩
      have hsome : s.primary.address ≠ none := fun hnone =>
        created_unpinned h0 hnext hfound hnone h x hx hreserved
      exact created_pinned hc hfound hsome h x hx
    · rw [hbtags] at hmark
      exact absurd hmark (List.not_mem_append (tag_ne s (by decide +kernel)) (by decide +kernel))
  -- A secondary, with the mark or without it.
  · have hnot : hasTags b.tags (primaryTags s) ≠ true := by
      rw [hbtags]
      refine not_hasTags_primary ?_
      rw [hmore]
      split <;> decide +kernel
    have hmade : b.tags ∈ s.madeWith := hbtags ▸ Scope.secondary_mem_madeWith hmore
    refine ⟨hmade, hbzone ▸ hzone, fun hprimary => absurd hprimary hnot, fun hmark => ?_⟩
    -- The mark says that no address is declared.
    have hreleases := Scope.releases_created (s := s) hmore
    rw [← hbtags, Scope.releases_of_not_primary hnot, decide_eq_true hmark] at hreleases
    have hnone : address = none := Option.isNone_iff_eq_none.1 hreleases.symm
    exact created_unpinned h0 hnext hfound hnone h

namespace Provenance

/-- Where the cluster has no load balancer, there is nothing to trace. -/
theorem of_none (hc : c.Sound) (hnone : ∀ b ∈ c.balancers, s.owns b.tags = false) :
    Provenance s networks c c :=
  ⟨hc, Nat.le_refl _, fun b hb hown => absurd (hnone b hb).symm (hown ▸ Bool.noConfusion)⟩

/-- What is recorded does not depend on the network that is declared. -/
theorem declaring {network : NetworkSpec} :
    Provenance (s.declaring network) networks c0 c ↔ Provenance s networks c0 c := by
  have hiff : ∀ b, Recorded (s.declaring network) networks c0 b ↔ Recorded s networks c0 b := fun b =>
    ⟨fun h => ⟨h.tags, h.zone, h.primary, h.allocated⟩,
      fun h => ⟨h.tags, h.zone, h.primary, h.allocated⟩⟩
  exact ⟨fun h => ⟨h.sound, h.nextId, fun b hb hown => (hiff b).1 (h.recorded b hb hown)⟩,
    fun h => ⟨h.sound, h.nextId, fun b hb hown => (hiff b).2 (h.recorded b hb hown)⟩⟩

/-- In a cloud with a provenance no load balancer has two roles. -/
theorem tidy (h : Provenance s networks c0 c) : Tidy s c :=
  ⟨h.sound, fun b hb hprimary =>
    (h.recorded b hb (owns_of_primaryTags hprimary)).not_secondary hprimary⟩

/-- Requests that handle load balancers as they should keep the records. -/
theorem answer {j : Job} {r : Request} (h : Provenance s networks c0 c) (h0 : c0.Sound)
    (hnetworks : j = .reconcile → s.cluster.network ∈ networks) (hr : Handles s j c r) :
    Provenance s networks c0 (c.answer r).2 := by
  refine ⟨h.sound.answer r, Nat.le_trans h.nextId (Cloud.nextId_le_answer c r), fun b hb hown => ?_⟩
  rcases Cloud.origin_answer hb with ⟨b0, hb0, heq⟩ | ⟨_, _, _, _, _, _, rfl, hmade⟩
  · rw [heq] at hown ⊢
    have hold := h.recorded b0 hb0 hown
    exact ⟨hold.tags, hold.zone, hold.primary, hold.allocated⟩
  · exact .of_create h0 h.sound h.nextId hnetworks hr hmade

/-! ### Histories -/

variable {a : Attempt}

/-- Where all is recorded, a run handles load balancers as it should. -/
theorem attempt_tracked (h : Provenance s networks c0 c) (a : Attempt) :
    (a.program s).Tracked (Handles (s.declaring a.network) a.job) (Provenance s networks c0)
      (fun _ _ => True) c :=
  (Job.tracked (s.declaring a.network) a.job (declaring.2 h).tidy).of_imp fun _ hc =>
    (declaring.2 hc).tidy

/-- What a run asks for is recorded, if its declaration is among those that are. -/
theorem attempt_answer (h0 : c0.Sound) (ha : a.job = .reconcile → a.network ∈ networks) :
    ∀ c r, Provenance s networks c0 c → Handles (s.declaring a.network) a.job c r →
      Provenance s networks c0 (c.answer r).2 :=
  fun _ _ hc hr => declaring.1 ((declaring.2 hc).answer h0 ha hr)

/-- A run keeps the records. -/
theorem leaves (h : Provenance s networks c0 c) (h0 : c0.Sound)
    (ha : a.job = .reconcile → a.network ∈ networks) :
    Provenance s networks c0 (a.circumstances.leaves (a.program s) c) :=
  ((h.attempt_tracked a).run (x := a.circumstances.session c) (attempt_answer h0 ha) h _).1

/-- After any history of runs, each cut short anywhere or not, every load balancer of the cluster is
recorded. -/
theorem aftermath (h0 : c0.Sound) (h : Provenance s networks c0 c) {attempts : List Attempt}
    (hdeclared : ∀ a ∈ attempts, a.job = .reconcile → a.network ∈ networks) :
    Provenance s networks c0 (Attempt.aftermath s c attempts) := by
  induction attempts generalizing c with
  | nil => exact h
  | cons a rest ih =>
    obtain ⟨ha, hrest⟩ := List.forall_mem_cons.1 hdeclared
    exact ih (h.leaves h0 ha) hrest

end Provenance

/-! ## Deletions -/

variable {attempts : List Attempt} {a : Attempt} {zone : String} {release : Bool}

/-- What a run deletes after a history of runs is recorded. The addresses of a primary are released
unless one is declared for it at that time, and those of a secondary if it has the mark. -/
theorem deletion_recorded (hc : c.Sound) (hnone : ∀ b ∈ c.balancers, s.owns b.tags = false)
    (h : a.Deletes s (Attempt.aftermath s c attempts) zone b release) :
    Recorded s (Attempt.declared (attempts ++ [a])) c b ∧
      ((a.job = .delete ∧ hasTags b.tags (primaryTags s) = true ∧
          release = decide (a.network.primary.address = none)) ∨
        (hasTags b.tags (Secondary.tags s) = true ∧
          release = decide (Tag.managedAddress ∈ b.tags))) := by
  obtain ⟨k, hk, hrequest, hb⟩ := h
  have hdeclared : ∀ e ∈ attempts ++ [a], e.job = .reconcile →
      e.network ∈ Attempt.declared (attempts ++ [a]) := fun e he hj =>
    Attempt.mem_declared.2 ⟨e, he, hj, rfl⟩
  obtain ⟨hbefore, hself⟩ := List.forall_mem_append.1 hdeclared
  have hstart := Provenance.aftermath hc (.of_none hc hnone) hbefore
  have hstep := Provenance.attempt_answer (s := s) hc (List.forall_mem_singleton.1 hself)
  obtain ⟨hprovenance, hhandles⟩ := (hstart.attempt_tracked a).exchanges
    (x := a.circumstances.session (Attempt.aftermath s c attempts)) hstep hstart _ k hk
  rw [hrequest] at hhandles
  rcases hhandles b hb rfl with ⟨hj, htags, _, hrelease⟩ | ⟨htags, hrelease⟩
  · exact ⟨hprovenance.recorded b hb (owns_of_primaryTags htags), .inl ⟨hj, htags, hrelease⟩⟩
  · exact ⟨hprovenance.recorded b hb (owns_of_secondaryTags htags), .inr ⟨htags, hrelease⟩⟩

/-- An address that was there before the first run of the cluster is released with a load balancer
exactly if that is the primary and no address is declared for it any more; then the run is a
deletion, and the address was declared for the primary in an earlier run. Runs may be of any kind
and number, with any declarations, and be cut short anywhere. -/
theorem reserved_released_iff (hc : c.Sound) (hnone : ∀ b ∈ c.balancers, s.owns b.tags = false)
    (h : a.Deletes s (Attempt.aftermath s c attempts) zone b release) {x : FlexibleAddress}
    (hx : x ∈ b.addresses) (hreserved : x.id ∈ c.addresses.map (·.id)) :
    (release = true ↔
      hasTags b.tags (primaryTags s) = true ∧ a.network.primary.address = none) ∧
    (hasTags b.tags (primaryTags s) = true → a.job = .delete ∧
      ∃ e ∈ attempts, e.job = .reconcile ∧ e.network.primary.address = some x.address) := by
  obtain ⟨hrecorded, ⟨hj, hprimary, rfl⟩ | ⟨hsec, rfl⟩⟩ := deletion_recorded hc hnone h
  · refine ⟨?_, fun _ => ⟨hj, ?_⟩⟩
    · rw [decide_eq_true_eq]
      exact (and_iff_right hprimary).symm
    · obtain ⟨n, hn, _, haddress⟩ := hrecorded.primary hprimary
      obtain ⟨e, he, hej, rfl⟩ := Attempt.mem_declared.1 hn
      rcases List.mem_append.1 he with he | he
      · exact ⟨e, he, hej, haddress x hx hreserved⟩
      -- The run itself is a deletion.
      · rw [List.mem_singleton.1 he, hj] at hej
        cases hej
  · have hprimary : hasTags b.tags (primaryTags s) ≠ true := fun hprimary =>
      Bool.false_ne_true ((hrecorded.not_secondary hprimary).symm.trans hsec)
    have hmark : Tag.managedAddress ∉ b.tags := fun hmark =>
      hrecorded.allocated hmark x hx hreserved
    refine ⟨iff_of_false ?_ fun h => hprimary h.1, fun h => absurd h hprimary⟩
    rw [decide_eq_true_eq]
    exact hmark

/-- The first run of a cluster that pins the address of its primary. -/
def Sample.founding : List Attempt :=
  [{ network := Sample.publicScope.cluster.network, job := .reconcile }]

/-- The primary that it makes. -/
def Sample.boundPrimary : LoadBalancer where
  id := "lb-100"
  zone := "fr-par-1"
  name := "demo"
  type := "lb-s"
  tags := primaryTags Sample.publicScope
  addresses := [{ id := "first", address := "51.15.1.1", zone := "fr-par-1",
                  balancerId := some "lb-100" }]

/-- A deletion after the pin has been dropped from the declaration. -/
def Sample.unpinnedDeletion : Attempt where
  network := { Sample.publicScope.cluster.network with primary := {} }
  job := .delete

/-- The primary got the reserved address when it was made. Its address is no longer declared when
the cluster is deleted, and the deletion releases it. -/
theorem sample_reserved_released :
    Sample.unpinnedDeletion.Deletes Sample.publicScope
      (Attempt.aftermath Sample.publicScope Sample.leasedCloud Sample.founding) "fr-par-1"
      Sample.boundPrimary true ∧
    hasTags Sample.boundPrimary.tags (primaryTags Sample.publicScope) = true ∧
      Sample.unpinnedDeletion.network.primary.address = none := by
  have h : Sample.unpinnedDeletion.Deletes Sample.publicScope
      (Attempt.aftermath Sample.publicScope Sample.leasedCloud Sample.founding) "fr-par-1"
      Sample.boundPrimary true := by decide +kernel
  exact ⟨h, (reserved_released_iff Sample.leasedCloud_vacant.sound Sample.leasedCloud_vacant.unowned h
    List.mem_cons_self (by decide +kernel)).1.1 rfl⟩

/-- An address that is pinned is released with a load balancer exactly in two cases. The load
balancer is the primary, the run a deletion, no address is declared for the primary, and so it is a
secondary that the address is declared for; or it is a secondary for which the address was made,
after the first run had begun. Runs before may be of any kind and number, with any declarations, and
be cut short anywhere. -/
theorem pinned_released_iff (hc : c.Sound) (hnone : ∀ b ∈ c.balancers, s.owns b.tags = false)
    (h : a.Deletes s (Attempt.aftermath s c attempts) zone b release) {x : FlexibleAddress}
    (hx : x ∈ b.addresses) (hpinned : x.address ∈ a.network.publicPins) :
    release = true ↔
      (hasTags b.tags (primaryTags s) = true ∧ a.job = .delete ∧ a.network.primary.address = none ∧
        ∃ d ∈ a.network.secondaries, d.address = some x.address) ∨
      (hasTags b.tags (Secondary.tags s) = true ∧ Tag.managedAddress ∈ b.tags ∧
        x.id ∉ c.addresses.map (·.id)) := by
  obtain ⟨hrecorded, ⟨hj, hprimary, rfl⟩ | ⟨hsec, rfl⟩⟩ := deletion_recorded hc hnone h
  · have hsec := hrecorded.not_secondary hprimary
    rw [decide_eq_true_eq]
    constructor
    · intro hunpinned
      -- It is pinned, and not for the primary.
      obtain ⟨d, hd, haddress⟩ := List.mem_filterMap.1 hpinned
      rcases List.mem_cons.1 hd with rfl | hd
      · have hsome : a.network.primary.address = some x.address := haddress
        rw [hunpinned] at hsome
        cases hsome
      · exact .inl ⟨hprimary, hj, hunpinned, d, hd, haddress⟩
    · rintro (⟨_, _, hunpinned, _⟩ | ⟨hsec', _⟩)
      · exact hunpinned
      · exact absurd (hsec.symm.trans hsec') Bool.false_ne_true
  · rw [decide_eq_true_eq]
    constructor
    · exact fun hmark => .inr ⟨hsec, hmark, hrecorded.allocated hmark x hx⟩
    · rintro (⟨hprimary, _⟩ | ⟨_, hmark, _⟩)
      · exact absurd ((hrecorded.not_secondary hprimary).symm.trans hsec) Bool.false_ne_true
      · exact hmark

/-- The secondary that the first run makes. -/
def Sample.allottedSecondary : LoadBalancer where
  id := "lb-101"
  zone := "fr-par-2"
  name := "demo-0"
  type := "lb-s"
  tags := Secondary.tags Sample.publicScope ++ [Tag.managedAddress]
  addresses := [{ id := "ip-102", address := "51.15.0.10", zone := "fr-par-2",
                  balancerId := some "lb-101" }]

/-- A deletion after the address that the secondary was given has been pinned for it. -/
def Sample.pinnedDeletion : Attempt where
  network :=
    { Sample.publicScope.cluster.network with
      secondaries := [{ zone := some "fr-par-2", address := some "51.15.0.10" }] }
  job := .delete

/-- The address that a secondary was given when it was made is pinned for it later, and the load
balancer keeps its tag: the deletion releases the address. -/
theorem sample_pinned_released :
    Sample.pinnedDeletion.Deletes Sample.publicScope
      (Attempt.aftermath Sample.publicScope Sample.leasedCloud Sample.founding) "fr-par-2"
      Sample.allottedSecondary true ∧
    "51.15.0.10" ∈ Sample.pinnedDeletion.network.publicPins ∧
    hasTags Sample.allottedSecondary.tags (Secondary.tags Sample.publicScope) = true ∧
      Tag.managedAddress ∈ Sample.allottedSecondary.tags ∧
      "ip-102" ∉ Sample.leasedCloud.addresses.map (·.id) := by
  have h : Sample.pinnedDeletion.Deletes Sample.publicScope
      (Attempt.aftermath Sample.publicScope Sample.leasedCloud Sample.founding) "fr-par-2"
      Sample.allottedSecondary true := by decide +kernel
  have hpinned : "51.15.0.10" ∈ Sample.pinnedDeletion.network.publicPins := by decide +kernel
  have hiff := pinned_released_iff Sample.leasedCloud_vacant.sound Sample.leasedCloud_vacant.unowned h
    List.mem_cons_self hpinned
  -- An address is declared for the primary, so it is the other case.
  exact ⟨h, hpinned, (hiff.1 rfl).resolve_left fun hprimary => nomatch hprimary.2.2.1⟩

end Topology

end ControlPlane
