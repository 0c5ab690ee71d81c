import Mathlib.Data.List.Basic
import ControlPlane.Proofs.Provider.Operations
import ControlPlane.Settings.Load

/-!
# Pinned addresses are told apart

The load balancers of a cluster have positions, the primary the first one. Pins are gone through
once, with a record of who pinned an address first (`Clash.Records`). So what is found is, position
by position, each pin of an address that is pinned at a position before (`Clash.among_eq`), and
there is nothing to be found only if no address is pinned twice (`NetworkSpec.clashes_eq_nil_iff`).
`NetworkSpec.clashes_exact` puts this together for both kinds of addresses. Settings are only
accepted without clashes, so in these no address is pinned twice.
-/

namespace ControlPlane

/-! ## Repeated pins -/

/-- An address with the position that pins it first and one that pins it again. -/
structure Repeat where
  address : String
  first : Nat
  second : Nat
  deriving DecidableEq, Repr

/-- What the load balancer at a position is called. -/
def placeName : Nat → String
  | 0 => "control_plane_load_balancer"
  | i + 1 => "control_plane_extra_load_balancers[" ++ toString i ++ "]"

namespace Repeat

variable {pins : List (Option String)} {repeats : List Repeat} {r : Repeat} {i j : Nat}
  {address : String}

/-- The wording of a repeated pin. -/
def message (r : Repeat) : String :=
  "IP " ++ r.address ++ " is pinned on both " ++ placeName r.first ++ " and " ++ placeName r.second

/-- The clash between both positions. -/
def clash (r : Repeat) : Clash := ⟨r.address, placeName r.first, placeName r.second⟩

/-- The message of a clash words its repeated pin. -/
theorem message_clash (r : Repeat) : r.clash.message = r.message := rfl

/-- Where a repeat lies in a list of pins: both positions pin the address, and no position does
before the first. -/
structure IsIn (r : Repeat) (pins : List (Option String)) : Prop where
  lt : r.first < r.second
  first : pins[r.first]? = some (some r.address)
  second : pins[r.second]? = some (some r.address)
  earliest : ∀ i < r.first, pins[i]? ≠ some (some r.address)

/-- Repeated pins are listed as they should be: by position, with the position that was first, and
one wherever an address is pinned that was pinned before. -/
structure Lists (repeats : List Repeat) (pins : List (Option String)) : Prop where
  sorted : repeats.Pairwise fun r r' => r.second < r'.second
  sound : ∀ r ∈ repeats, r.IsIn pins
  complete : ∀ i j address, i < j → pins[i]? = some (some address) →
    pins[j]? = some (some address) → ∃ r ∈ repeats, r.address = address ∧ r.second = j

/-- The repeated pin at a position, if it is one. -/
def at? (pins : List (Option String)) (j : Nat) : Option Repeat :=
  match pins[j]? with
  | some (some address) =>
    let i := pins.idxOf (some address)
    if i < j then some ⟨address, i, j⟩ else none
  | _ => none

/-- A pinned address is a repeated pin where its first position is an earlier one. -/
theorem at?_pinned (h : pins[j]? = some (some address)) : at? pins j =
    if pins.idxOf (some address) < j then some ⟨address, pins.idxOf (some address), j⟩ else none := by
  unfold at?
  rw [h]

/-- A repeated pin is an address that its position pins. -/
theorem pinned_of_at? (h : at? pins j = some r) : pins[j]? = some (some r.address) := by
  unfold at? at h
  split at h
  · next hpinned =>
    dsimp only at h
    split at h
    · cases h
      exact hpinned
    · cases h
  · cases h

/-- No position before the first one pins the same. -/
theorem getElem?_ne_of_lt_idxOf {x : Option String} (h : i < pins.idxOf x) : pins[i]? ≠ some x := by
  intro hi
  obtain ⟨hlt, rfl⟩ := List.getElem?_eq_some_iff.1 hi
  exact absurd (List.not_of_lt_findIdx h) (by simp)

/-- The first position that pins an address is not after any that does. -/
theorem idxOf_le {x : Option String} (h : pins[i]? = some x) : pins.idxOf x ≤ i :=
  Nat.not_lt.1 fun hlt => getElem?_ne_of_lt_idxOf hlt h

/-- The repeated pin at a position is the one in the list whose second position it is. -/
theorem at?_eq_some_iff : at? pins j = some r ↔ r.IsIn pins ∧ r.second = j := by
  constructor
  · intro h
    have hpinned := pinned_of_at? h
    rw [at?_pinned hpinned] at h
    obtain ⟨hlt, hr⟩ := Option.ite_none_right_eq_some.1 h
    rw [← Option.some.inj hr]
    have hfirst := List.getElem?_idxOf (List.mem_of_getElem? hpinned)
    exact ⟨⟨hlt, hfirst, hpinned, fun i => getElem?_ne_of_lt_idxOf⟩, rfl⟩
  · rintro ⟨hr, rfl⟩
    have hfirst : pins.idxOf (some r.address) = r.first := by
      refine Nat.le_antisymm (idxOf_le hr.first) (Nat.not_lt.1 fun hlt => ?_)
      exact hr.earliest _ hlt (List.getElem?_idxOf (List.mem_of_getElem? hr.first))
    rw [at?_pinned hr.second, hfirst, if_pos hr.lt]

/-- All repeated pins, by position. -/
def all (pins : List (Option String)) : List Repeat :=
  (List.range' 0 pins.length).filterMap (at? pins)

/-- All repeated pins are listed as they should be. -/
theorem lists_all (pins : List (Option String)) : Lists (all pins) pins where
  sorted := by
    have hrange : (List.range' 0 pins.length).Pairwise (· < ·) := List.pairwise_lt_range' 1
    refine List.pairwise_filterMap.2 (hrange.imp fun hlt r hr r' hr' => ?_)
    rwa [(at?_eq_some_iff.1 hr).2, (at?_eq_some_iff.1 hr').2]
  sound r hr := by
    obtain ⟨j, -, hj⟩ := List.mem_filterMap.1 hr
    exact (at?_eq_some_iff.1 hj).1
  complete i j address hlt hi hj := by
    have hat : at? pins j = some ⟨address, pins.idxOf (some address), j⟩ := by
      rw [at?_pinned hj, if_pos (Nat.lt_of_le_of_lt (idxOf_le hi) hlt)]
    obtain ⟨hrange, -⟩ := List.getElem?_eq_some_iff.1 hj
    exact ⟨_, List.mem_filterMap.2 ⟨j, by simpa using hrange, hat⟩, rfl, rfl⟩

/-- Nothing is listed only where no address is pinned twice. -/
theorem Lists.eq_nil_iff (h : Lists repeats pins) : repeats = [] ↔ (pins.filterMap id).Nodup := by
  unfold List.Nodup
  rw [List.pairwise_filterMap, List.pairwise_iff_getElem]
  constructor
  · rintro rfl i j hi hj hlt address hfirst _ hsecond rfl
    have hi' := List.getElem?_eq_some_iff.2 ⟨hi, hfirst⟩
    obtain ⟨r, hr, -⟩ := h.complete i j address hlt hi' (List.getElem?_eq_some_iff.2 ⟨hj, hsecond⟩)
    cases hr
  · refine fun hpins => List.eq_nil_iff_forall_not_mem.2 fun r hr => ?_
    have hr := h.sound r hr
    obtain ⟨hi, hfirst⟩ := List.getElem?_eq_some_iff.1 hr.first
    obtain ⟨hj, hsecond⟩ := List.getElem?_eq_some_iff.1 hr.second
    exact hpins _ _ hi hj hr.lt _ hfirst _ hsecond rfl

end Repeat

/-! ## Clashes -/

namespace Clash

open Repeat

variable {seen : List (String × String)} {front : List (Option String)} {address : String}

/-- The place that pins an address first, if one does. -/
def firstPlace? (front : List (Option String)) (address : String) : Option String :=
  if some address ∈ front then some (placeName (front.idxOf (some address))) else none

/-- A further pin is the first place of its address if none before pins it. -/
theorem firstPlace?_concat (front : List (Option String)) (pin : Option String) (address : String) :
    firstPlace? (front ++ [pin]) address =
      if some address = pin ∧ some address ∉ front then some (placeName front.length)
      else firstPlace? front address := by
  unfold firstPlace?
  by_cases hmem : some address ∈ front
  · rw [if_pos (List.mem_append_left _ hmem), if_neg fun h => h.2 hmem, if_pos hmem,
      List.idxOf_append_of_mem hmem]
  · -- An address that was not pinned before is pinned now, or not at all.
    by_cases hpin : some address = pin
    · subst hpin
      rw [if_pos List.mem_concat_self, if_pos ⟨rfl, hmem⟩, List.idxOf_append_of_notMem hmem,
        List.idxOf_cons_self]
      rfl
    · have hnone : some address ∉ front ++ [pin] := by simp [hmem, hpin]
      rw [if_neg hnone, if_neg fun h => hpin h.1, if_neg hmem]

/-- What has been pinned is on record with the place that pinned it first. -/
def Records (seen : List (String × String)) (front : List (Option String)) : Prop :=
  ∀ address, seen.lookup address = firstPlace? front address

/-- Before any pin, nothing is on record. -/
theorem records_nil : Records [] [] := fun _ => rfl

/-- Nothing is put on record where nothing is pinned, or nothing new. -/
theorem Records.skip (h : Records seen front) {pin : Option String} (hpin : ∀ a ∈ pin, some a ∈ front) :
    Records seen (front ++ [pin]) := by
  intro a
  rw [firstPlace?_concat, if_neg, h a]
  rintro ⟨rfl, hnew⟩
  exact hnew (hpin a rfl)

/-- An address that is pinned for the first time goes on record with its place. -/
theorem Records.add (h : Records seen front) (hnew : some address ∉ front) :
    Records ((address, placeName front.length) :: seen) (front ++ [some address]) := by
  intro a
  rw [firstPlace?_concat, List.lookup_cons]
  by_cases ha : a = address
  · subst ha
    rw [beq_self_eq_true, if_pos ⟨rfl, hnew⟩]
  · rw [beq_eq_false_iff_ne.2 ha, if_neg fun h => ha (Option.some.inj h.1)]
    exact h a

/-- From any position on, the clashes are those of the pins that are repeated there. The record is
what carries this from one position to the next. -/
theorem among_eq (h : Records seen front) (rest : List (Option String)) :
    among seen ((rest.zipIdx front.length).map fun (pin, i) => (placeName i, pin)) =
      ((List.range' front.length rest.length).filterMap (at? (front ++ rest))).map clash := by
  induction rest generalizing seen front with
  | nil => rfl
  | cons pin rest ih =>
    have hpin : (front ++ pin :: rest)[front.length]? = some pin := by simp
    -- What is on record after this pin is all that the rest depends on.
    have hrest {seen' : List (String × String)} (h' : Records seen' (front ++ [pin])) :
        among seen' ((rest.zipIdx (front.length + 1)).map fun (pin, i) => (placeName i, pin)) =
          ((List.range' (front.length + 1) rest.length).filterMap
            (at? (front ++ pin :: rest))).map clash := by
      have hih := ih h'
      rwa [List.length_append, List.append_assoc] at hih
    rw [List.zipIdx_cons, List.map_cons, List.length_cons, List.range'_succ]
    cases pin with
    | none =>
      have hat : at? (front ++ none :: rest) front.length = none := by
        unfold at?
        rw [hpin]
      rw [List.filterMap_cons_none hat]
      exact hrest (h.skip nofun)
    | some address =>
      unfold among
      rw [h address]
      unfold firstPlace?
      -- The address was pinned before, and is a repeat; or it goes on record.
      by_cases hmem : some address ∈ front
      · have hat : at? (front ++ some address :: rest) front.length =
            some ⟨address, front.idxOf (some address), front.length⟩ := by
          rw [at?_pinned hpin, List.idxOf_append_of_mem hmem,
            if_pos (List.idxOf_lt_length_iff.2 hmem)]
        rw [List.filterMap_cons_some hat, if_pos hmem, List.map_cons]
        exact congrArg _ (hrest (h.skip fun a ha => Option.some.inj ha ▸ hmem))
      · have hat : at? (front ++ some address :: rest) front.length = none := by
          rw [at?_pinned hpin, List.idxOf_append_of_notMem hmem, List.idxOf_cons_self]
          exact if_neg (Nat.lt_irrefl _)
        rw [List.filterMap_cons_none hat, if_neg hmem]
        exact hrest (h.add hmem)

end Clash

namespace NetworkSpec

variable {n : NetworkSpec}

/-- The declared load balancers by their positions, the primary first. -/
def balancers (n : NetworkSpec) : List BalancerSpec := n.primary.toBalancerSpec :: n.secondaries

/-- The public addresses that are pinned, that of the primary first. -/
def publicPins (n : NetworkSpec) : List String :=
  (n.primary.toBalancerSpec :: n.secondaries).filterMap (·.address)

/-- The private addresses that are pinned, that of the primary first. -/
def privatePins (n : NetworkSpec) : List String :=
  (n.primary.toBalancerSpec :: n.secondaries).filterMap (·.privateAddress)

/-- The places of a network are the declared load balancers by their names. -/
theorem places_eq (n : NetworkSpec) :
    n.places = n.balancers.zipIdx.map fun (d, i) => (placeName i, d) := by
  unfold places balancers
  rw [List.zipIdx_cons, List.map_cons, List.zipIdx_succ, List.map_map]
  rfl

/-- The clashes of one kind of address. -/
theorem among_places (n : NetworkSpec) (pin : BalancerSpec → Option String) :
    Clash.among [] (n.places.map fun (place, d) => (place, pin d)) =
      (Repeat.all (n.balancers.map pin)).map Repeat.clash := by
  have hplaces : n.places.map (fun (place, d) => (place, pin d)) =
      (n.balancers.map pin).zipIdx.map fun (pin, i) => (placeName i, pin) := by
    rw [places_eq, List.zipIdx_map, List.map_map, List.map_map]
    rfl
  rw [hplaces]
  exact Clash.among_eq Clash.records_nil _

/-- There are no clashes exactly if no public address and no private one is pinned twice. -/
theorem clashes_eq_nil_iff : n.clashes = [] ↔ n.publicPins.Nodup ∧ n.privatePins.Nodup := by
  have hkind (pin : BalancerSpec → Option String) :
      (Repeat.all (n.balancers.map pin)).map Repeat.clash = [] ↔ (n.balancers.filterMap pin).Nodup := by
    rw [List.map_eq_nil_iff, (Repeat.lists_all _).eq_nil_iff, List.filterMap_map]
    rfl
  unfold clashes
  rw [List.append_eq_nil_iff, among_places, among_places, hkind, hkind]
  rfl

end NetworkSpec

/-! ## Settings -/

namespace Settings

variable {environment : EnvFile.Environment} {envFile : List EnvFile.Binding} {document : Value}
  {text : Option String} {settings : Settings}

/-- Settings are only accepted without clashes. -/
theorem clashes_of_ofDocument (h : ofDocument environment envFile document = .ok settings) :
    settings.cluster.network.clashes = [] := by
  unfold ofDocument at h
  split at h
  · obtain ⟨own, _, hread⟩ := bind_eq_ok.1 h
    split at hread
    · cases hread
    · split at hread
      · next hclashes =>
        cases hread
        exact hclashes
      · cases hread
  · cases h

/-- The settings of a document that was read have no clashes. -/
theorem clashes_of_read (h : ofText? environment envFile text = .ok settings) :
    settings.cluster.network.clashes = [] := by
  unfold ofText? at h
  split at h
  · exact clashes_of_ofDocument h
  · cases h

end Settings

namespace NetworkSpec

/-- Of each kind of address it is reported which are pinned again, position by position, each with
the position that pins it first, and nothing else; the public addresses come before the private
ones. There is nothing to report only if each kind is free of repetitions, and so it is with all
settings that are loaded. -/
theorem clashes_exact :
    (∀ n : NetworkSpec, ∃ publicOnes privateOnes : List Repeat,
      Repeat.Lists publicOnes (n.balancers.map (·.address)) ∧
      Repeat.Lists privateOnes (n.balancers.map (·.privateAddress)) ∧
      n.clashes.map Clash.message = (publicOnes ++ privateOnes).map Repeat.message) ∧
    (∀ n : NetworkSpec, n.clashes = [] ↔ n.publicPins.Nodup ∧ n.privatePins.Nodup) ∧
    ∀ environment envFile text settings, Settings.ofText? environment envFile text = .ok settings →
      settings.cluster.network.publicPins.Nodup ∧ settings.cluster.network.privatePins.Nodup := by
  refine ⟨fun n => ?_, fun n => clashes_eq_nil_iff, ?_⟩
  · refine ⟨_, _, Repeat.lists_all _, Repeat.lists_all _, ?_⟩
    unfold clashes
    rw [among_places, among_places, ← List.map_append, List.map_map]
    exact List.map_congr_left fun r _ => r.message_clash
  · exact fun environment envFile text settings h => clashes_eq_nil_iff.1 (Settings.clashes_of_read h)

end NetworkSpec

namespace Sample

/-- One public address is pinned by three load balancers. As a private address it is pinned once. -/
def pinnedThrice : NetworkSpec where
  primary := { address := some "51.15.0.1" }
  secondaries := [{}, { address := some "51.15.0.1", privateAddress := some "51.15.0.1" },
    { address := some "51.15.0.1", privateAddress := some "10.0.0.5" }]

/-- A document in which an address is pinned as a public and as a private one. -/
def pinnedText : String := String.intercalate "\n"
  ["provider:", "  region: fr-par", "  project_id: p", "cluster:", "  name: demo", "  network:",
    "    control_plane_load_balancer:", "      ip: 51.15.0.1", "      private_ip: 51.15.0.1"]

end Sample

namespace NetworkSpec

/-- The third load balancer that pins an address is told from the first one, not from the second. An
address can be pinned once as a public and once as a private one. -/
theorem sample_clashes :
    (∃ publicOnes privateOnes,
      Repeat.Lists publicOnes [some "51.15.0.1", none, some "51.15.0.1", some "51.15.0.1"] ∧
      Repeat.Lists privateOnes [none, none, some "51.15.0.1", some "10.0.0.5"] ∧
      (publicOnes ++ privateOnes).map Repeat.message =
        ["IP 51.15.0.1 is pinned on both control_plane_load_balancer and " ++
            "control_plane_extra_load_balancers[1]",
          "IP 51.15.0.1 is pinned on both control_plane_load_balancer and " ++
            "control_plane_extra_load_balancers[2]"]) ∧
    ¬(Sample.pinnedThrice.publicPins.Nodup ∧ Sample.pinnedThrice.privatePins.Nodup) ∧
    ∃ settings, Settings.ofText? [] [] (some Sample.pinnedText) = .ok settings ∧
      settings.cluster.network.primary.address = some "51.15.0.1" ∧
      settings.cluster.network.primary.privateAddress = some "51.15.0.1" ∧
      settings.cluster.network.publicPins.Nodup ∧ settings.cluster.network.privatePins.Nodup := by
  obtain ⟨hlists, hnil, hload⟩ := clashes_exact
  refine ⟨?_, fun h => ?_, ?_⟩
  · obtain ⟨publicOnes, privateOnes, hpublic, hprivate, hmessages⟩ := hlists Sample.pinnedThrice
    exact ⟨publicOnes, privateOnes, hpublic, hprivate, hmessages.symm.trans (by decide +kernel)⟩
  · exact absurd ((hnil Sample.pinnedThrice).2 h) (by decide +kernel)
  · have hread : (Settings.ofText? [] [] (some Sample.pinnedText)).toOption.map
        (fun s => (s.cluster.network.primary.address, s.cluster.network.primary.privateAddress)) =
        some (some "51.15.0.1", some "51.15.0.1") := by decide +kernel
    -- These settings load, though a public and a private pin are the same.
    cases h : Settings.ofText? [] [] (some Sample.pinnedText) with
    | error e =>
      rw [h] at hread
      cases hread
    | ok settings =>
      rw [h] at hread
      obtain ⟨haddress, hprivate⟩ := Prod.mk.inj (Option.some.inj hread)
      exact ⟨settings, rfl, haddress, hprivate, hload [] [] _ settings h⟩

end NetworkSpec

end ControlPlane
