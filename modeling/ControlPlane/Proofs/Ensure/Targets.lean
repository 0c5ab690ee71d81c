import Mathlib.Data.List.Nodup
import ControlPlane.Ensure

/-!
# What is desired, by zone and name

`Reconciler.groups` collects the desired resources of a zone in the order that they were declared in
(`Reconciler.lookup_groups`). A place is a zone and a position in it. When generated names tell
positions apart, the places and the names stand for each other: `Reconciler.match?` finds for a live
resource what is desired at its place (`Reconciler.match?_eq_some`), and `Reconciler.targets` lists
every place once (`Reconciler.mem_targets`, `Reconciler.nodup_targets`).
-/

namespace ControlPlane

namespace Reconciler

variable {m : Type → Type} {ε D R : Type} {r : Reconciler m ε D R}

/-- The desired resources of a zone, in order. -/
def desiredIn (r : Reconciler m ε D R) (zone : String) (desired : List D) : List D :=
  desired.filter fun d => match r.desiredZone d with
    | .ok z => z = zone
    | .error _ => false

/-- The desired resource at a zone and a name: the first in the zone whose generated name it is. -/
def desiredAt (r : Reconciler m ε D R) (desired : List D) (zone name : String) : Option D :=
  r.named? name 0 (r.desiredIn zone desired)

/-! ## Groups -/

/-- A look-up in a list of pairs, by whether the first key is the one that is looked up. -/
theorem lookup_cons_if {β : Type} (a k : String) (b : β) (rest : List (String × β)) :
    ((k, b) :: rest).lookup a = if a = k then some b else rest.lookup a := by
  rw [List.lookup_cons]
  by_cases h : a = k
  · simp [h]
  · simp [h, beq_false_of_ne h]

/-- With distinct keys, an entry of a list is what its key leads to. -/
theorem lookup_eq_some_iff_mem {β : Type} {entries : List (String × β)}
    (h : (entries.map (·.1)).Nodup) {key : String} {b : β} :
    entries.lookup key = some b ↔ (key, b) ∈ entries := by
  induction entries with
  | nil => simp
  | cons entry rest ih =>
    obtain ⟨k, b'⟩ := entry
    rw [List.map_cons, List.nodup_cons] at h
    rw [lookup_cons_if, List.mem_cons, Prod.mk.injEq]
    by_cases hk : key = k
    · subst hk
      have hmem : (key, b) ∉ rest := fun hb => h.1 (List.mem_map_of_mem (f := (·.1)) hb)
      simp [hmem, eq_comm]
    · simp [hk, ih h.2]

/-- Inserting a resource appends it to the group of its zone, and leaves the other groups. -/
theorem lookup_insert (zone z : String) (d : D) (acc : List (String × List D)) :
    (insert zone d acc).lookup z =
      if z = zone then some ((acc.lookup zone).getD [] ++ [d]) else acc.lookup z := by
  induction acc with
  | nil =>
    unfold insert
    rw [lookup_cons_if]
    rfl
  | cons entry rest ih =>
    obtain ⟨z', ds⟩ := entry
    unfold insert
    by_cases h : z' = zone
    · simp only [lookup_cons_if, h, if_true, Option.getD_some]
      by_cases hz : z = zone <;> simp [hz]
    · simp only [if_neg h, lookup_cons_if, ih, if_neg (Ne.symm h)]
      by_cases hz : z = zone
      · simp [hz, Ne.symm h]
      · simp [hz]

/-- Inserting brings in no zone but its own. -/
theorem mem_keys_insert {zone z : String} {d : D} {acc : List (String × List D)}
    (h : z ∈ (insert zone d acc).map (·.1)) : z = zone ∨ z ∈ acc.map (·.1) := by
  induction acc with
  | nil => exact .inl (List.mem_singleton.1 h)
  | cons entry rest ih =>
    obtain ⟨z', ds⟩ := entry
    unfold insert at h
    split at h
    · exact .inr h
    · rcases List.mem_cons.1 h with h | h
      · exact .inr (List.mem_cons.2 (.inl h))
      · exact (ih h).imp_right (List.mem_cons_of_mem _)

/-- Inserting keeps the zones of the groups distinct. -/
theorem nodup_keys_insert {zone : String} {d : D} {acc : List (String × List D)}
    (h : (acc.map (·.1)).Nodup) : ((insert zone d acc).map (·.1)).Nodup := by
  induction acc with
  | nil => exact List.nodup_singleton _
  | cons entry rest ih =>
    obtain ⟨z', ds⟩ := entry
    rw [List.map_cons, List.nodup_cons] at h
    unfold insert
    split
    · rw [List.map_cons, List.nodup_cons]
      exact h
    · next hne =>
      rw [List.map_cons, List.nodup_cons]
      refine ⟨fun hmem => ?_, ih h.2⟩
      rcases mem_keys_insert hmem with heq | hmem
      · exact hne heq
      · exact h.1 hmem

/-- What collecting leaves in the group of a zone, after what was there before. -/
theorem lookup_foldlM {desired : List D} {acc wanted : List (String × List D)}
    (h : desired.foldlM (fun acc d => (r.desiredZone d).map (insert · d acc)) acc = .ok wanted)
    (zone : String) :
    (wanted.lookup zone).getD [] = (acc.lookup zone).getD [] ++ r.desiredIn zone desired := by
  induction desired generalizing acc with
  | nil =>
    cases h
    exact (List.append_nil _).symm
  | cons d rest ih =>
    rw [List.foldlM_cons] at h
    cases hd : r.desiredZone d with
    | error e =>
      rw [hd] at h
      cases h
    | ok z =>
      rw [hd] at h
      -- The first one goes behind what its group holds, and before what is still to come.
      rw [ih h, lookup_insert]
      unfold desiredIn
      rw [List.filter_cons, hd]
      by_cases hz : zone = z
      · simp [hz]
      · simp [hz, Ne.symm hz]

/-- Inserting one resource after the other does so too. -/
theorem nodup_keys_foldlM {desired : List D} {acc wanted : List (String × List D)}
    (h : desired.foldlM (fun acc d => (r.desiredZone d).map (insert · d acc)) acc = .ok wanted)
    (hacc : (acc.map (·.1)).Nodup) : (wanted.map (·.1)).Nodup := by
  induction desired generalizing acc with
  | nil =>
    cases h
    exact hacc
  | cons d rest ih =>
    rw [List.foldlM_cons] at h
    cases hd : r.desiredZone d with
    | error e =>
      rw [hd] at h
      cases h
    | ok z =>
      rw [hd] at h
      exact ih h (nodup_keys_insert hacc)

/-- Desired resources that can be grouped all have a zone. -/
theorem exists_zone {desired : List D} {acc wanted : List (String × List D)}
    (h : desired.foldlM (fun acc d => (r.desiredZone d).map (insert · d acc)) acc = .ok wanted) :
    ∀ d ∈ desired, ∃ zone, r.desiredZone d = .ok zone := by
  induction desired generalizing acc with
  | nil => exact nofun
  | cons d rest ih =>
    rw [List.foldlM_cons] at h
    cases hd : r.desiredZone d with
    | error e =>
      rw [hd] at h
      cases h
    | ok z =>
      rw [hd] at h
      exact List.forall_mem_cons.2 ⟨⟨z, hd⟩, ih h⟩

/-- Collecting fails with the failure of the first desired resource without a zone. -/
theorem groups_eq_error_iff {e : ε} : r.groups desired = .error e ↔
    ∃ before d after, desired = before ++ d :: after ∧
      (∀ b ∈ before, ∃ zone, r.desiredZone b = .ok zone) ∧ r.desiredZone d = .error e := by
  unfold groups
  -- The groups collected so far do not matter for a failure.
  generalize ([] : List (String × List D)) = acc
  induction desired generalizing acc with
  | nil =>
    refine iff_of_false nofun ?_
    rintro ⟨before, _, _, h, -⟩
    cases before <;> cases h
  | cons d rest ih =>
    rw [List.foldlM_cons]
    cases hd : r.desiredZone d with
    | error e' =>
      constructor
      · intro h
        cases h
        exact ⟨[], d, rest, rfl, nofun, hd⟩
      · rintro ⟨_ | ⟨b, before⟩, d', after, h, hbefore, he⟩
        · cases h
          cases hd.symm.trans he
          rfl
        · cases h
          obtain ⟨zone, hzone⟩ := hbefore d List.mem_cons_self
          cases hd.symm.trans hzone
    | ok z =>
      refine (ih (insert z d acc)).trans ?_
      constructor
      · rintro ⟨before, d', after, rfl, hbefore, he⟩
        exact ⟨d :: before, d', after, rfl, List.forall_mem_cons.2 ⟨⟨z, hd⟩, hbefore⟩, he⟩
      · rintro ⟨_ | ⟨b, before⟩, d', after, h, hbefore, he⟩
        · cases h
          cases hd.symm.trans he
        · cases h
          exact ⟨before, d', after, rfl, (List.forall_mem_cons.1 hbefore).2, he⟩

/-- Collecting succeeds where every desired resource has a zone. -/
theorem exists_groups (h : ∀ d ∈ desired, ∃ zone, r.desiredZone d = .ok zone) :
    ∃ wanted, r.groups desired = .ok wanted := by
  cases hgroups : r.groups desired with
  | ok wanted => exact ⟨wanted, rfl⟩
  | error e =>
    obtain ⟨before, d, after, rfl, -, hd⟩ := groups_eq_error_iff.1 hgroups
    obtain ⟨zone, hzone⟩ := h d (List.mem_append_right _ List.mem_cons_self)
    cases hd.symm.trans hzone

/-- The group of a zone holds the desired resources of the zone, in order. -/
theorem lookup_groups {desired : List D} {wanted : List (String × List D)}
    (h : r.groups desired = .ok wanted) (zone : String) :
    (wanted.lookup zone).getD [] = r.desiredIn zone desired :=
  lookup_foldlM h zone

/-- Every zone has one group. -/
theorem nodup_keys_groups {desired : List D} {wanted : List (String × List D)}
    (h : r.groups desired = .ok wanted) : (wanted.map (·.1)).Nodup :=
  nodup_keys_foldlM h List.nodup_nil

/-! ## Names -/

/-- A desired resource that is found under a name stands at a position with that name. -/
theorem named?_eq_some {name : String} {i : Nat} {ds : List D} {d : D}
    (h : r.named? name i ds = some d) : ∃ k, ds[k]? = some d ∧ r.desiredName (i + k) = name := by
  induction ds generalizing i with
  | nil => cases h
  | cons d' rest ih =>
    unfold named? at h
    split at h
    · next hname =>
      cases h
      exact ⟨0, rfl, hname⟩
    · obtain ⟨k, hk, hname⟩ := ih h
      have hposition : i + (k + 1) = i + 1 + k := by omega
      refine ⟨k + 1, hk, ?_⟩
      rw [hposition]
      exact hname

/-- Where generated names tell positions apart, the name of a position leads to it. -/
theorem named?_desiredName (hinj : Function.Injective r.desiredName) (i k : Nat) (ds : List D) :
    r.named? (r.desiredName (i + k)) i ds = ds[k]? := by
  induction ds generalizing i k with
  | nil => rfl
  | cons d rest ih =>
    unfold named?
    cases k with
    | zero => exact if_pos rfl
    | succ k =>
      have hne : r.desiredName i ≠ r.desiredName (i + (k + 1)) := by
        intro heq
        have hposition := hinj heq
        omega
      rw [if_neg hne]
      have hnext := ih (i + 1) k
      have hposition : i + 1 + k = i + (k + 1) := by omega
      rwa [hposition] at hnext

/-- A live resource stands for what is desired at its zone and name, unless they are taken. -/
theorem match?_eq_some {desired : List D} {wanted : List (String × List D)}
    (h : r.groups desired = .ok wanted) {taken : List (String × String)} {x : R} {d : D} :
    r.match? wanted taken x = some d ↔
      (r.zoneOf x, r.nameOf x) ∉ taken ∧
        r.desiredAt desired (r.zoneOf x) (r.nameOf x) = some d := by
  unfold match? desiredAt
  rw [← lookup_groups h]
  dsimp only
  by_cases htaken : (r.zoneOf x, r.nameOf x) ∈ taken
  · simp [htaken]
  · rw [if_neg htaken]
    cases wanted.lookup (r.zoneOf x) with
    | none => simp [htaken, named?]
    | some ds => simp [htaken]

/-- A live resource stands for nothing where its place is taken or nothing is desired there. -/
theorem match?_eq_none {desired : List D} {wanted : List (String × List D)}
    (h : r.groups desired = .ok wanted) {taken : List (String × String)} {x : R} :
    r.match? wanted taken x = none ↔
      (r.zoneOf x, r.nameOf x) ∈ taken ∨
        r.desiredAt desired (r.zoneOf x) (r.nameOf x) = none := by
  rw [Option.eq_none_iff_forall_ne_some]
  simp only [ne_eq, match?_eq_some h, not_and, Option.eq_none_iff_forall_ne_some]
  exact ⟨fun hnone => or_iff_not_imp_left.2 fun hfree d => hnone d hfree,
    fun hnone d hfree => hnone.resolve_left hfree d⟩

/-- Where generated names differ, the name of a position finds what is desired at that position. -/
theorem desiredAt_desiredName (hinj : Function.Injective r.desiredName) (desired : List D)
    (zone : String) (i : Nat) :
    r.desiredAt desired zone (r.desiredName i) = (r.desiredIn zone desired)[i]? := by
  have hname := named?_desiredName hinj 0 i (r.desiredIn zone desired)
  rwa [Nat.zero_add] at hname

/-- What is desired in a zone is of that zone. -/
theorem desiredZone_of_mem {desired : List D} {zone : String} {d : D}
    (h : d ∈ r.desiredIn zone desired) : r.desiredZone d = .ok zone := by
  have hzone := (List.mem_filter.1 h).2
  split at hzone
  · next z hz => rw [hz, of_decide_eq_true hzone]
  · cases hzone

/-- What is desired at a place stands at a position whose generated name is the place's. -/
theorem desiredAt_eq_some {desired : List D} {zone name : String} {d : D}
    (h : r.desiredAt desired zone name = some d) :
    ∃ i, (r.desiredIn zone desired)[i]? = some d ∧ r.desiredName i = name := by
  obtain ⟨i, hi, hname⟩ := named?_eq_some h
  rw [Nat.zero_add] at hname
  exact ⟨i, hi, hname⟩

/-! ## Targets -/

/-- The targets are the desired resources with the zones and the names of their positions. -/
theorem mem_targets {desired : List D} {wanted : List (String × List D)}
    (h : r.groups desired = .ok wanted) {zone name : String} {d : D} :
    (zone, name, d) ∈ r.targets wanted ↔
      ∃ i, (r.desiredIn zone desired)[i]? = some d ∧ r.desiredName i = name := by
  unfold targets
  rw [List.mem_flatMap, ← lookup_groups h]
  constructor
  · -- The targets of a group number its list.
    rintro ⟨⟨z, ds⟩, hmem, ht⟩
    obtain ⟨⟨d', i⟩, hi, heq⟩ := List.mem_map.1 ht
    cases heq
    rw [(lookup_eq_some_iff_mem (nodup_keys_groups h)).2 hmem]
    exact ⟨i, List.mk_mem_zipIdx_iff_getElem?.1 hi, rfl⟩
  · rintro ⟨i, hi, rfl⟩
    cases hlookup : wanted.lookup zone with
    | none =>
      rw [hlookup] at hi
      cases hi
    | some ds =>
      rw [hlookup] at hi
      refine ⟨(zone, ds), (lookup_eq_some_iff_mem (nodup_keys_groups h)).1 hlookup, ?_⟩
      exact List.mem_map.2 ⟨(d, i), List.mk_mem_zipIdx_iff_getElem?.2 hi, rfl⟩

/-- No zone and name is targeted twice. -/
theorem nodup_targets (hinj : Function.Injective r.desiredName) {desired : List D}
    {wanted : List (String × List D)} (h : r.groups desired = .ok wanted) :
    ((r.targets wanted).map fun t => (t.1, t.2.1)).Nodup := by
  have hkeys := nodup_keys_groups h
  unfold targets
  rw [List.map_flatMap, List.nodup_flatMap]
  constructor
  -- Within a zone, the positions are told apart by their names.
  · rintro ⟨zone, ds⟩ _
    have hnames : (ds.zipIdx.map fun di => (zone, r.desiredName di.2)) =
        (ds.zipIdx.map (·.2)).map fun i => (zone, r.desiredName i) := by
      rw [List.map_map]
      rfl
    have hpositions : (ds.zipIdx.map (·.2)).Nodup := by
      rw [List.zipIdx_map_snd]
      exact List.nodup_range' _
    rw [List.map_map]
    refine (hnames ▸ ?_ : (ds.zipIdx.map fun di => (zone, r.desiredName di.2)).Nodup)
    exact hpositions.map fun i j hij => hinj (Prod.mk.inj hij).2
  -- Two groups are of different zones.
  · have hpair := List.pairwise_map.1 hkeys
    refine hpair.imp fun {x y} hne => ?_
    intro t hx hy
    obtain ⟨u, hu, rfl⟩ := List.mem_map.1 hx
    obtain ⟨u', hu', heq⟩ := List.mem_map.1 hy
    obtain ⟨v, _, rfl⟩ := List.mem_map.1 hu
    obtain ⟨v', _, rfl⟩ := List.mem_map.1 hu'
    exact hne (Prod.mk.inj heq).1.symm

/-- What is missing is created for one target after the other, of those whose places are not taken.
-/
theorem createMissing_eq [Monad m] (r : Reconciler m ε D R) (taken : List (String × String))
    (ts : List (String × String × D)) :
    r.createMissing taken ts =
      (ts.filter fun t => (t.1, t.2.1) ∉ taken).mapM' fun t => r.create t.1 t.2.1 t.2.2 := by
  induction ts with
  | nil => rfl
  | cons t rest ih =>
    unfold createMissing
    rw [ih]
    by_cases h : (t.1, t.2.1) ∈ taken
    · rw [List.filter_cons_of_neg (by simpa using h)]
      exact if_pos h
    · rw [List.filter_cons_of_pos (by simpa using h)]
      exact if_neg h

/-- Inserting adds one desired resource to the groups. -/
theorem length_flatMap_insert (zone : String) (d : D) (acc : List (String × List D)) :
    ((insert zone d acc).flatMap (·.2)).length = (acc.flatMap (·.2)).length + 1 := by
  induction acc with
  | nil => rfl
  | cons entry rest ih =>
    obtain ⟨z', ds⟩ := entry
    unfold insert
    split
    · simp only [List.flatMap_cons, List.length_append, List.length_singleton]
      omega
    · rw [List.flatMap_cons, List.flatMap_cons, List.length_append, List.length_append, ih]
      rfl

/-- Grouping neither loses nor adds a resource. -/
theorem length_flatMap_foldlM {desired : List D} {acc wanted : List (String × List D)}
    (h : desired.foldlM (fun acc d => (r.desiredZone d).map (insert · d acc)) acc = .ok wanted) :
    (wanted.flatMap (·.2)).length = (acc.flatMap (·.2)).length + desired.length := by
  induction desired generalizing acc with
  | nil =>
    cases h
    rfl
  | cons d rest ih =>
    rw [List.foldlM_cons] at h
    cases hd : r.desiredZone d with
    | error e =>
      rw [hd] at h
      cases h
    | ok z =>
      rw [hd] at h
      -- Each declared resource goes to the group of its zone, and to no other.
      rw [ih h, length_flatMap_insert, List.length_cons]
      omega

/-- There is one target for each desired resource. -/
theorem length_targets {desired : List D} {wanted : List (String × List D)}
    (h : r.groups desired = .ok wanted) : (r.targets wanted).length = desired.length := by
  have hcount := length_flatMap_foldlM h
  rw [List.flatMap_nil, List.length_nil, Nat.zero_add] at hcount
  rw [← hcount, targets, List.length_flatMap, List.length_flatMap]
  refine congrArg List.sum (List.map_congr_left fun entry _ => ?_)
  rw [List.length_map, List.length_zipIdx]

end Reconciler

end ControlPlane
