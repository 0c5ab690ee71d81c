import Mathlib.Data.List.Induction
import ControlPlane.Declaration.Cluster
import ControlPlane.Proofs.Schema.Readers

/-!
# Valid declarations

Declarations are read field by field, and what is read of a load balancer, a network or a cluster is
well-formed (`WellFormed`): a zone names one, addresses and ranges are what they are called, a
private network has an id, and so on up to the name of the cluster. What is well-formed is read back
from its own plain data. So each reader is `canonical`, and is put together from those of its
fields.

For each kind of declaration `ofValue_eq_valid_iff` says once what its reader does, and all else is
derived from it. `Cluster.validation_canonical` is the statement about clusters, with what becomes
of the ranges (`PrimarySpec.withoutRepetitions`) and of keys that are not known (`OnlyKnownKeys`).
-/

namespace ControlPlane

open Schema

/-- What is dumped for a text that may be missing is the text, or a null. -/
theorem Value.ofText?_eq_elim : Value.ofText? = fun text? => text?.elim .null .text := by
  funext text?
  cases text? <;> rfl

/-! ## Load balancers -/

namespace BalancerSpec

variable {s : BalancerSpec} {v : Value} {entries : Entries} {written : String}

/-- The zone of a declaration names one, and addresses that are pinned are addresses. -/
structure WellFormed (s : BalancerSpec) : Prop where
  zone : ∀ written ∈ s.zone, ∃ zone, Zone.parse written = .ok zone
  address : ∀ written ∈ s.address, (Address.ofText? written).isSome
  privateAddress : ∀ written ∈ s.privateAddress, (Address.ofText? written).isSome

/-- A declaration of nothing is well-formed. -/
theorem wellFormed_default : WellFormed {} := ⟨nofun, nofun, nofun⟩

/-- A zone has no fault if it can be read. -/
theorem zoneFault?_eq_none_iff :
    zoneFault? written = none ↔ ∃ zone, Zone.parse written = .ok zone := by
  unfold zoneFault?
  cases Zone.parse written <;> simp

/-- An address has no fault if it can be read. -/
theorem addressFault?_eq_none_iff :
    addressFault? written = none ↔ (Address.ofText? written).isSome := by
  unfold addressFault?
  split <;> simp [*]

/-- A text that may be missing is read back from its dump. -/
theorem canonical_optionalText :
    Canonical (Schema.optional Schema.text) Value.ofText? fun text? => ∀ x ∈ text?, True :=
  Value.ofText?_eq_elim ▸ canonical_text.optional fun _ => nofun

/-- A text that may be missing and is checked is read back from its dump, and has passed the check.
-/
theorem canonical_checkedText (check : String → Option Detail) :
    Canonical (checkedText check) Value.ofText? fun text? => ∀ x ∈ text?, check x = none := by
  refine canonical_optionalText.refine (fun {text? _} _ h => ?_) fun {text?} h =>
    ⟨fun _ _ => trivial, ?_⟩
  · -- What has been read has passed the check.
    cases text? with
    | none =>
      cases h
      exact nofun
    | some x =>
      dsimp only at h
      split at h
      · next hcheck =>
        cases h
        rintro _ ⟨⟩
        exact hcheck
      · cases h
  · cases text? with
    | none => rfl
    | some x =>
      -- And what passes it is read again as it is.
      dsimp only
      rw [h x rfl]

/-- A zone that may be missing is read back, and can be parsed. -/
theorem canonical_zone : Canonical (checkedText zoneFault?) Value.ofText? fun zone? =>
    ∀ written ∈ zone?, ∃ zone, Zone.parse written = .ok zone := by
  simpa only [zoneFault?_eq_none_iff] using canonical_checkedText zoneFault?

/-- An address that may be missing is read back, and can be parsed. -/
theorem canonical_address : Canonical (checkedText addressFault?) Value.ofText? fun address? =>
    ∀ written ∈ address?, (Address.ofText? written).isSome := by
  simpa only [addressFault?_eq_none_iff] using canonical_checkedText addressFault?

/-- What is read from entries is well-formed. -/
theorem wellFormed_of_ofEntries (h : ofEntries entries = .valid s) : s.WellFormed := by
  unfold ofEntries at h
  simp only [Checked.seq_eq_valid_iff, Checked.map_eq_valid_iff] at h
  obtain ⟨_, privateAddress, ⟨_, address, ⟨_, type, ⟨zone, hzone, rfl⟩, htype, rfl⟩, haddress, rfl⟩,
    hprivate, rfl⟩ := h
  exact ⟨canonical_zone.of_withDefault hzone nofun, canonical_address.of_withDefault haddress nofun,
    canonical_address.of_withDefault hprivate nofun⟩

/-- A well-formed declaration is read from any entries that hold its fields. -/
theorem ofEntries_of_find? (h : s.WellFormed)
    (hfind : ∀ f ∈ s.fields, Value.find? (.text f.1) entries = some f.2) :
    ofEntries entries = .valid s := by
  unfold fields at hfind
  simp only [List.forall_mem_cons] at hfind
  obtain ⟨hzone, htype, haddress, hprivate, -⟩ := hfind
  unfold ofEntries
  rw [canonical_zone.withDefault h.zone hzone,
    canonical_optionalText.withDefault (fun _ _ => trivial) htype,
    canonical_address.withDefault h.address haddress,
    canonical_address.withDefault h.privateAddress hprivate]
  rfl

/-- A declaration is read from a table with no other keys, field by field. -/
theorem ofValue_eq_valid_iff : ofValue v = .valid s ↔
    ∃ entries, v = .table entries ∧ ofEntries entries = .valid s ∧ v.KeysAmong fieldNames := by
  unfold ofValue
  simp only [table_eq_valid_iff, Checked.seq_eq_valid_iff, Checked.map_eq_valid_iff]
  constructor
  · rintro ⟨entries, rfl, _, ⟨⟩, ⟨_, hentries, rfl⟩, hkeys, rfl⟩
    exact ⟨entries, rfl, hentries, noKeysBut_eq_valid_iff.1 hkeys⟩
  · rintro ⟨entries, rfl, hentries, hkeys⟩
    exact ⟨entries, rfl, _, (), ⟨s, hentries, rfl⟩, noKeysBut_eq_valid_iff.2 hkeys, rfl⟩

/-- The declarations of load balancers that are read are the well-formed ones, and each is read back
from its dump. -/
theorem canonical : Canonical ofValue toValue WellFormed where
  ensures h := by
    obtain ⟨_, -, hentries, -⟩ := ofValue_eq_valid_iff.1 h
    exact wellFormed_of_ofEntries hentries
  rereads {s} h := by
    have hnames : (s.fields.map (·.1)).Nodup := (by decide : fieldNames.Nodup)
    exact ofValue_eq_valid_iff.2 ⟨_, rfl, ofEntries_of_find? h (Value.find?_recordEntries hnames),
      Value.keysAmong_record s.fields⟩

end BalancerSpec

/-! ## Allowed ranges -/

namespace PrimarySpec

open checkRanges (firstOccurrences)

variable {xs : List String} {x : String}

/-- A list without its repetitions: each entry is left out that is the same as one before it. -/
def withoutRepetitions (xs : List String) : List String :=
  (xs.zipIdx.filter fun (x, i) => x ∉ xs.take i).map Prod.fst

/-- A last entry is left out if it is the same as one before it. -/
theorem withoutRepetitions_concat (xs : List String) (x : String) :
    withoutRepetitions (xs ++ [x]) =
      if x ∈ xs then withoutRepetitions xs else withoutRepetitions xs ++ [x] := by
  -- Before an entry of the front there is only the front.
  have hfront : xs.zipIdx.filter (fun (y, i) => y ∉ (xs ++ [x]).take i) =
      xs.zipIdx.filter fun (y, i) => y ∉ xs.take i := by
    refine List.filter_congr fun ⟨y, i⟩ he => ?_
    have hlt : i < xs.length := (List.mem_zipIdx' he).1
    dsimp only
    rw [List.take_append_of_le_length (Nat.le_of_lt hlt)]
  unfold withoutRepetitions
  rw [List.zipIdx_append, List.filter_append, List.map_append, hfront]
  split <;> simp [*]

/-- The check of ranges goes on in the same way, by what it has found so far. -/
theorem firstOccurrences_concat (xs : List String) (x : String) :
    firstOccurrences (xs ++ [x]) =
      if x ∈ firstOccurrences xs then firstOccurrences xs else firstOccurrences xs ++ [x] := by
  unfold firstOccurrences
  rw [List.foldl_append]
  rfl

/-- First occurrences are of the entries of the list. -/
theorem mem_firstOccurrences : x ∈ firstOccurrences xs ↔ x ∈ xs := by
  induction xs using List.reverseRecOn with
  | nil => exact Iff.rfl
  | append_singleton xs y ih =>
    rw [firstOccurrences_concat]
    split
    · next hmem =>
      -- The last entry is not kept if it is among those before.
      rw [ih, List.mem_append, List.mem_singleton, or_iff_left_of_imp]
      rintro rfl
      exact ih.1 hmem
    · rw [List.mem_append, List.mem_append, ih]

/-- Each entry has one first occurrence. -/
theorem nodup_firstOccurrences (xs : List String) : (firstOccurrences xs).Nodup := by
  induction xs using List.reverseRecOn with
  | nil => exact List.nodup_nil
  | append_singleton xs x ih =>
    rw [firstOccurrences_concat]
    split
    · exact ih
    · next hmem =>
      rw [← List.concat_eq_append, List.nodup_concat]
      exact ⟨hmem, ih⟩

/-- What is kept is each entry that is there for the first time. -/
theorem firstOccurrences_eq (xs : List String) : firstOccurrences xs = withoutRepetitions xs := by
  induction xs using List.reverseRecOn with
  | nil => rfl
  | append_singleton xs x ih =>
    rw [firstOccurrences_concat, withoutRepetitions_concat, ih]
    simp only [← ih, mem_firstOccurrences]

/-- Nothing is dropped where nothing is repeated. -/
theorem firstOccurrences_of_nodup (h : xs.Nodup) : firstOccurrences xs = xs := by
  induction xs using List.reverseRecOn with
  | nil => rfl
  | append_singleton xs x ih =>
    obtain ⟨hxs, -, hx⟩ := List.nodup_append.1 h
    rw [firstOccurrences_concat, ih hxs, if_neg fun hmem => hx x hmem x (List.mem_singleton_self x) rfl]

/-- Ranges are checked one by one and kept in order. -/
theorem checkRanges_eq_valid_iff {kept : List String} : checkRanges xs = .valid kept ↔
    (∀ x ∈ xs, (AddressRange.ofText? x).isSome) ∧ kept = withoutRepetitions xs := by
  unfold checkRanges
  split
  · -- The first text that is no range is refused.
    next bad hbad =>
    have hnone : (AddressRange.ofText? bad).isNone = true := by
      simpa only using List.find?_some hbad
    refine iff_of_false nofun fun h => ?_
    have hsome := h.1 bad (List.mem_of_find?_eq_some hbad)
    rw [Option.isNone_iff_eq_none.1 hnone] at hsome
    cases hsome
  · next hnone =>
    have hall : ∀ x ∈ xs, (AddressRange.ofText? x).isSome := by
      intro x hx
      refine Option.isSome_iff_ne_none.2 fun hx' => ?_
      exact List.find?_eq_none.1 hnone x hx (Option.isNone_iff_eq_none.2 hx')
    rw [← firstOccurrences_eq]
    exact ⟨fun h => ⟨hall, (Checked.valid.inj h).symm⟩, fun h => h.2 ▸ rfl⟩

/-- Null and nothing at all count as no ranges. Otherwise there is a list of texts. -/
theorem ranges_eq_valid_iff {v : Value} {ranges : List String} :
    (nullAsEmpty (Schema.listOf Schema.text) v).refine checkRanges = .valid ranges ↔
      ∃ xs, (v = .null ∧ xs = [] ∨ v = .texts xs) ∧
        (∀ x ∈ xs, (AddressRange.ofText? x).isSome) ∧ ranges = withoutRepetitions xs := by
  simp only [Checked.refine_eq_valid_iff, nullAsEmpty_eq_valid_iff, texts_eq_valid_iff,
    checkRanges_eq_valid_iff]
  constructor
  · rintro ⟨xs, ⟨hnull, hempty⟩ | ⟨-, hxs⟩, hchecked⟩
    · refine ⟨xs, .inl ⟨hnull, ?_⟩, hchecked⟩
      simpa [Value.texts] using hempty
    · exact ⟨xs, .inr hxs, hchecked⟩
  · rintro ⟨xs, ⟨hnull, rfl⟩ | rfl, hchecked⟩
    · exact ⟨[], .inl ⟨hnull, rfl⟩, hchecked⟩
    · exact ⟨xs, .inr ⟨nofun, rfl⟩, hchecked⟩

/-- The ranges that are read are ranges without repetitions, and are read back. -/
theorem canonical_ranges :
    Canonical (fun v => (nullAsEmpty (Schema.listOf Schema.text) v).refine checkRanges) .texts
      fun ranges => (∀ x ∈ ranges, (AddressRange.ofText? x).isSome) ∧ ranges.Nodup := by
  refine ((canonical_text.listOf).nullAsEmpty fun _ => nofun).refine (fun {xs kept} _ h => ?_)
    fun {kept} h => ⟨fun _ _ => trivial, ?_⟩
  · obtain ⟨hall, rfl⟩ := checkRanges_eq_valid_iff.1 h
    rw [← firstOccurrences_eq]
    exact ⟨fun x hx => hall x (mem_firstOccurrences.1 hx), nodup_firstOccurrences xs⟩
  · refine checkRanges_eq_valid_iff.2 ⟨h.1, ?_⟩
    rw [← firstOccurrences_eq, firstOccurrences_of_nodup h.2]

/-! ## The primary load balancer -/

variable {s : PrimarySpec} {v : Value}

/-- A declared primary is a load balancer, and its ranges are ranges, each there once. -/
structure WellFormed (s : PrimarySpec) : Prop where
  balancer : s.toBalancerSpec.WellFormed
  ranges : ∀ x ∈ s.allowedRanges, (AddressRange.ofText? x).isSome
  nodup : s.allowedRanges.Nodup

/-- The default of a primary is well-formed. -/
theorem wellFormed_default : WellFormed {} := ⟨BalancerSpec.wellFormed_default, nofun, List.nodup_nil⟩

/-- A primary is read from the table of a load balancer with two more fields, and no other keys. -/
theorem ofValue_eq_valid_iff : ofValue v = .valid s ↔ ∃ entries, v = .table entries ∧
    BalancerSpec.ofEntries entries = .valid s.toBalancerSpec ∧
    withDefault "private" truth false entries = .valid s.isPrivate ∧
    withDefault "allowed_ranges"
      (fun v => (nullAsEmpty (Schema.listOf Schema.text) v).refine checkRanges) [] entries =
        .valid s.allowedRanges ∧
    v.KeysAmong fieldNames := by
  unfold ofValue
  simp only [table_eq_valid_iff, Checked.seq_eq_valid_iff, Checked.map_eq_valid_iff]
  constructor
  · rintro ⟨entries, rfl, _, ⟨⟩, ⟨_, ranges, ⟨_, isPrivate, ⟨spec, hspec, rfl⟩, hprivate, rfl⟩,
      hranges, rfl⟩, hkeys, rfl⟩
    exact ⟨entries, rfl, hspec, hprivate, hranges, noKeysBut_eq_valid_iff.1 hkeys⟩
  · rintro ⟨entries, rfl, hspec, hprivate, hranges, hkeys⟩
    exact ⟨entries, rfl, _, (), ⟨_, _, ⟨_, _, ⟨_, hspec, rfl⟩, hprivate, rfl⟩, hranges, rfl⟩,
      noKeysBut_eq_valid_iff.2 hkeys, rfl⟩

/-- The primaries that are read are the well-formed ones, and each is read back from its dump. -/
theorem canonical : Canonical ofValue toValue WellFormed where
  ensures h := by
    obtain ⟨_, -, hspec, -, hranges, -⟩ := ofValue_eq_valid_iff.1 h
    obtain ⟨hall, hnodup⟩ := canonical_ranges.of_withDefault hranges ⟨nofun, List.nodup_nil⟩
    exact ⟨BalancerSpec.wellFormed_of_ofEntries hspec, hall, hnodup⟩
  rereads {s} h := by
    have hnames : (s.fields.map (·.1)).Nodup := (by decide : fieldNames.Nodup)
    obtain ⟨hspec, hown⟩ := List.forall_mem_append.1 (Value.find?_recordEntries hnames)
    obtain ⟨hprivate, hown⟩ := List.forall_mem_cons.1 hown
    obtain ⟨hranges, -⟩ := List.forall_mem_cons.1 hown
    refine ofValue_eq_valid_iff.2 ⟨_, rfl, ?_, ?_, ?_, Value.keysAmong_record s.fields⟩
    · exact BalancerSpec.ofEntries_of_find? h.balancer hspec
    · exact canonical_truth.withDefault trivial hprivate
    · exact canonical_ranges.withDefault ⟨h.ranges, h.nodup⟩ hranges

/-- The ranges that a primary is declared with. Null, and nothing at all, are none. -/
def Declares (v : Value) (ranges : List String) : Prop :=
  v.get "allowed_ranges" = .null ∧ ranges = [] ∨ v.get "allowed_ranges" = .texts ranges

/-- The ranges of a valid primary are those that it was declared with, without repetitions. -/
theorem exists_declares (h : ofValue v = .valid s) :
    ∃ ranges, Declares v ranges ∧ s.allowedRanges = withoutRepetitions ranges := by
  obtain ⟨entries, rfl, -, -, hranges, -⟩ := ofValue_eq_valid_iff.1 h
  rcases get_of_withDefault hranges with ⟨hnull, hempty⟩ | hread
  · exact ⟨[], .inl ⟨hnull, rfl⟩, hempty⟩
  · obtain ⟨ranges, hdeclares, -, hkept⟩ := ranges_eq_valid_iff.1 hread
    exact ⟨ranges, hdeclares, hkept⟩

end PrimarySpec

/-! ## Private networks -/

namespace PrivateNetworkSpec

variable {s s' : PrivateNetworkSpec} {v : Value}

/-- A private network that is enabled has an id. -/
def WellFormed (s : PrivateNetworkSpec) : Prop := s.enabled = true → ∃ id, s.id = some id ∧ id ≠ ""

/-- The check of a private network lets it through unchanged if it is well-formed. -/
theorem check_eq_valid_iff : check s = .valid s' ↔ s = s' ∧ s.WellFormed := by
  obtain ⟨enabled, id⟩ := s
  unfold check WellFormed
  split
  · next h => cases id <;> simp_all [Checked.problem]
  · next h => cases id <;> simp_all

/-- A private network is read from a table with no other keys, field by field, and is well-formed.
-/
theorem ofValue_eq_valid_iff : ofValue v = .valid s ↔ ∃ entries, v = .table entries ∧
    withDefault "enabled" truth false entries = .valid s.enabled ∧
    withDefault "id" (Schema.optional Schema.text) none entries = .valid s.id ∧
    v.KeysAmong fieldNames ∧ s.WellFormed := by
  unfold ofValue
  simp only [Checked.refine_eq_valid_iff, table_eq_valid_iff, Checked.seq_eq_valid_iff,
    Checked.map_eq_valid_iff, check_eq_valid_iff]
  constructor
  · rintro ⟨_, ⟨entries, rfl, _, ⟨⟩, ⟨_, id, ⟨enabled, henabled, rfl⟩, hid, rfl⟩, hkeys, rfl⟩, rfl, h⟩
    exact ⟨entries, rfl, henabled, hid, noKeysBut_eq_valid_iff.1 hkeys, h⟩
  · rintro ⟨entries, rfl, henabled, hid, hkeys, h⟩
    exact ⟨s, ⟨entries, rfl, _, (), ⟨_, _, ⟨_, henabled, rfl⟩, hid, rfl⟩,
      noKeysBut_eq_valid_iff.2 hkeys, rfl⟩, rfl, h⟩

/-- The private networks that are read are the well-formed ones, and each is read back from its
dump. -/
theorem canonical : Canonical ofValue toValue WellFormed where
  ensures h := by
    obtain ⟨_, -, -, -, -, hid⟩ := ofValue_eq_valid_iff.1 h
    exact hid
  rereads {s} h := by
    have hnames : (s.fields.map (·.1)).Nodup := (by decide : fieldNames.Nodup)
    obtain ⟨henabled, hfind⟩ := List.forall_mem_cons.1 (Value.find?_recordEntries hnames)
    obtain ⟨hid, -⟩ := List.forall_mem_cons.1 hfind
    refine ofValue_eq_valid_iff.2 ⟨_, rfl, ?_, ?_, Value.keysAmong_record s.fields, h⟩
    · exact canonical_truth.withDefault trivial henabled
    · exact BalancerSpec.canonical_optionalText.withDefault (fun _ _ => trivial) hid

end PrivateNetworkSpec

/-! ## Networks -/

namespace NetworkSpec

variable {n : NetworkSpec} {v : Value}

/-- All sections of a network are valid, and the port is one. -/
structure WellFormed (n : NetworkSpec) : Prop where
  privateNetwork : n.privateNetwork.WellFormed
  primary : n.primary.WellFormed
  secondaries : ∀ d ∈ n.secondaries, d.WellFormed
  port : 1 ≤ n.apiServerPort ∧ n.apiServerPort ≤ 65535

/-- The default of a network is well-formed. -/
theorem wellFormed_default : WellFormed {} :=
  ⟨nofun, PrimarySpec.wellFormed_default, nofun, by decide⟩

/-- A port is read back from itself, in its bounds. -/
theorem canonical_port : Canonical (fun v => (whole v).refine (between 1 65535)) .int
    fun n => 1 ≤ n ∧ n ≤ 65535 := by
  have hbetween : ∀ n m : Int, between 1 65535 n = .valid m ↔ n = m ∧ 1 ≤ n ∧ n ≤ 65535 := by
    intro n m
    unfold between
    split
    · exact iff_of_false nofun (by omega)
    · split
      · exact iff_of_false nofun (by omega)
      · rw [Checked.valid.injEq, and_iff_left (by omega)]
  refine canonical_whole.refine (fun {n m} _ h => ?_) fun {n} h => ⟨trivial, (hbetween n n).2 ⟨rfl, h⟩⟩
  obtain ⟨rfl, hn⟩ := (hbetween n m).1 h
  exact hn

/-- A list of secondaries is read back from its dump, each of them well-formed. -/
theorem canonical_secondaries : Canonical (nullAsEmpty (Schema.listOf BalancerSpec.ofValue))
    (fun ds => .list (ds.map BalancerSpec.toValue)) fun ds => ∀ d ∈ ds, d.WellFormed :=
  BalancerSpec.canonical.listOf.nullAsEmpty fun _ => nofun

/-- A network is read from a table with no other keys, section by section. -/
theorem ofValue_eq_valid_iff : ofValue v = .valid n ↔ ∃ entries, v = .table entries ∧
    withDefault "private_network" PrivateNetworkSpec.ofValue {} entries = .valid n.privateNetwork ∧
    withDefault "control_plane_load_balancer" PrimarySpec.ofValue {} entries = .valid n.primary ∧
    withDefault "control_plane_extra_load_balancers"
      (nullAsEmpty (Schema.listOf BalancerSpec.ofValue)) [] entries = .valid n.secondaries ∧
    withDefault "api_server_port" (fun v => (whole v).refine (between 1 65535)) 6443 entries =
      .valid n.apiServerPort ∧
    v.KeysAmong fieldNames := by
  unfold ofValue
  simp only [table_eq_valid_iff, Checked.seq_eq_valid_iff, Checked.map_eq_valid_iff]
  constructor
  · rintro ⟨entries, rfl, _, ⟨⟩, ⟨_, port, ⟨_, secondaries, ⟨_, primary, ⟨privateNetwork, hprivate,
      rfl⟩, hprimary, rfl⟩, hsecondaries, rfl⟩, hport, rfl⟩, hkeys, rfl⟩
    exact ⟨entries, rfl, hprivate, hprimary, hsecondaries, hport, noKeysBut_eq_valid_iff.1 hkeys⟩
  · rintro ⟨entries, rfl, hprivate, hprimary, hsecondaries, hport, hkeys⟩
    exact ⟨entries, rfl, _, (), ⟨_, _, ⟨_, _, ⟨_, _, ⟨_, hprivate, rfl⟩, hprimary, rfl⟩,
      hsecondaries, rfl⟩, hport, rfl⟩, noKeysBut_eq_valid_iff.2 hkeys, rfl⟩

/-- The networks that are read are the well-formed ones, and each is read back from its dump. -/
theorem canonical : Canonical ofValue toValue WellFormed where
  ensures h := by
    obtain ⟨_, -, hprivate, hprimary, hsecondaries, hport, -⟩ := ofValue_eq_valid_iff.1 h
    exact ⟨PrivateNetworkSpec.canonical.of_withDefault hprivate nofun,
      PrimarySpec.canonical.of_withDefault hprimary PrimarySpec.wellFormed_default,
      canonical_secondaries.of_withDefault hsecondaries nofun,
      canonical_port.of_withDefault hport (by decide)⟩
  rereads {n} h := by
    have hnames : (n.fields.map (·.1)).Nodup := (by decide : fieldNames.Nodup)
    obtain ⟨hprivate, hfind⟩ := List.forall_mem_cons.1 (Value.find?_recordEntries hnames)
    obtain ⟨hprimary, hfind⟩ := List.forall_mem_cons.1 hfind
    obtain ⟨hsecondaries, hfind⟩ := List.forall_mem_cons.1 hfind
    obtain ⟨hport, -⟩ := List.forall_mem_cons.1 hfind
    refine ofValue_eq_valid_iff.2 ⟨_, rfl, ?_, ?_, ?_, ?_, Value.keysAmong_record n.fields⟩
    · exact PrivateNetworkSpec.canonical.withDefault h.privateNetwork hprivate
    · exact PrimarySpec.canonical.withDefault h.primary hprimary
    · exact canonical_secondaries.withDefault h.secondaries hsecondaries
    · exact canonical_port.withDefault h.port hport

/-- A network and its sections have no keys but those they are read by. -/
structure OnlyKnownKeys (v : Value) : Prop where
  own : v.KeysAmong fieldNames
  privateNetwork : (v.get "private_network").KeysAmong PrivateNetworkSpec.fieldNames
  primary : (v.get "control_plane_load_balancer").KeysAmong PrimarySpec.fieldNames
  secondaries : ∀ item ∈ (v.get "control_plane_extra_load_balancers").items,
    item.KeysAmong BalancerSpec.fieldNames

/-- A network is not read where it or one of its sections has an unknown key. -/
theorem onlyKnownKeys_of_valid (h : ofValue v = .valid n) : OnlyKnownKeys v := by
  obtain ⟨entries, rfl, hprivate, hprimary, hsecondaries, -, hkeys⟩ := ofValue_eq_valid_iff.1 h
  -- Each part is either left out, with the default read in its place, or its own reader has seen
  -- its keys.
  refine ⟨hkeys, ?_, ?_, ?_⟩
  · rcases get_of_withDefault hprivate with ⟨hnull, -⟩ | hread
    · rw [hnull]
      trivial
    · obtain ⟨_, -, -, -, hkeys, -⟩ := PrivateNetworkSpec.ofValue_eq_valid_iff.1 hread
      exact hkeys
  · rcases get_of_withDefault hprimary with ⟨hnull, -⟩ | hread
    · rw [hnull]
      trivial
    · obtain ⟨_, -, -, -, -, hkeys⟩ := PrimarySpec.ofValue_eq_valid_iff.1 hread
      exact hkeys
  · rcases get_of_withDefault hsecondaries with ⟨hnull, -⟩ | hread
    · rw [hnull]
      exact nofun
    · rcases nullAsEmpty_eq_valid_iff.1 hread with ⟨hnull, -⟩ | ⟨-, hread⟩
      · rw [hnull]
        exact nofun
      · obtain ⟨items, hitems, hread⟩ := listOf_eq_valid_iff.1 hread
        intro item hitem
        rw [hitems] at hitem
        obtain ⟨d, -, hd⟩ := List.mem_map.1 (hread ▸ List.mem_map_of_mem hitem)
        obtain ⟨_, -, -, hkeys⟩ := BalancerSpec.ofValue_eq_valid_iff.1 hd.symm
        exact hkeys

/-- The ranges of a network's primary are those that it was declared with, without repetitions. -/
theorem exists_declares (h : ofValue v = .valid n) :
    ∃ ranges, PrimarySpec.Declares (v.get "control_plane_load_balancer") ranges ∧
      n.primary.allowedRanges = PrimarySpec.withoutRepetitions ranges := by
  obtain ⟨entries, rfl, -, hprimary, -⟩ := ofValue_eq_valid_iff.1 h
  rcases get_of_withDefault hprimary with ⟨hnull, hdefault⟩ | hread
  · rw [hnull, hdefault]
    exact ⟨[], .inl ⟨rfl, rfl⟩, rfl⟩
  · exact PrimarySpec.exists_declares hread

end NetworkSpec

/-! ## Clusters -/

namespace Cluster

variable {c : Cluster} {name : String} {v : Value}

/-- A lower-case ASCII letter or a digit. -/
def IsAlphanumeric (ch : Char) : Prop := ('a' ≤ ch ∧ ch ≤ 'z') ∨ ('0' ≤ ch ∧ ch ≤ '9')

/-- A name begins with a letter or a digit. If it goes on, it ends with one as well, and has
letters, digits and dashes in between. -/
def IsName (name : String) : Prop := ∃ first rest, name.toList = first :: rest ∧
  IsAlphanumeric first ∧ (rest = [] ∨ ∃ middle last, rest = middle ++ [last] ∧
    (∀ ch ∈ middle, IsAlphanumeric ch ∨ ch = '-') ∧ IsAlphanumeric last)

/-- The characters of a name are those that are alphanumeric, and the dash. -/
theorem isNameChar_iff {ch : Char} : isNameChar ch = true ↔ IsAlphanumeric ch ∨ ch = '-' := by
  have hdigit : ch.isDigit = true ↔ '0' ≤ ch ∧ ch ≤ '9' := by
    simp [Char.isDigit, Char.le_def]
  simp [isNameChar, Zone.isLetter, IsAlphanumeric, hdigit]

/-- An alphanumeric character is one of a name that is no dash. -/
theorem isAlphanumeric_iff {ch : Char} : IsAlphanumeric ch ↔ isNameChar ch = true ∧ ch ≠ '-' := by
  rw [isNameChar_iff]
  constructor
  · refine fun h => ⟨.inl h, ?_⟩
    rintro rfl
    revert h
    unfold IsAlphanumeric
    decide
  · exact fun h => h.1.resolve_right h.2

/-- The test for the shape of a name accepts exactly the names. -/
theorem isNameShape_iff : isNameShape name.toList = true ↔ IsName name := by
  have hshape : ∀ s : List Char, isNameShape s = true ↔ s ≠ [] ∧ (∀ ch ∈ s, isNameChar ch = true) ∧
      s.head? ≠ some '-' ∧ s.getLast? ≠ some '-' := by
    intro s
    simp [isNameShape, and_assoc]
  unfold IsName
  rw [hshape]
  constructor
  · -- A shape begins with a character that is no dash, and so does not end with one either.
    rintro ⟨hne, hall, hfirst, hlast⟩
    obtain ⟨first, rest, htext⟩ := List.exists_cons_of_ne_nil hne
    rw [htext] at hall hfirst hlast
    obtain ⟨hfirst', hrest⟩ := List.forall_mem_cons.1 hall
    refine ⟨first, rest, htext, isAlphanumeric_iff.2 ⟨hfirst', fun h => hfirst (h ▸ rfl)⟩, ?_⟩
    rcases List.eq_nil_or_concat' rest with rfl | ⟨middle, last, rfl⟩
    · exact .inl rfl
    · obtain ⟨hmiddle, hlast'⟩ := List.forall_mem_append.1 hrest
      refine .inr ⟨middle, last, rfl, fun ch hch => isNameChar_iff.1 (hmiddle ch hch), ?_⟩
      refine isAlphanumeric_iff.2 ⟨hlast' last (List.mem_singleton_self last), fun h => hlast ?_⟩
      rw [h, ← List.cons_append]
      exact List.getLast?_concat
  · -- The ends of a name are alphanumeric, and so no dashes.
    rintro ⟨first, rest, htext, hfirst, hrest⟩
    obtain ⟨hchar, hdash⟩ := isAlphanumeric_iff.1 hfirst
    rw [htext]
    refine ⟨List.cons_ne_nil _ _, ?_, fun h => hdash (Option.some.inj h), ?_⟩
    · refine List.forall_mem_cons.2 ⟨hchar, ?_⟩
      rcases hrest with rfl | ⟨middle, last, rfl, hmiddle, hlast⟩
      · exact nofun
      · refine List.forall_mem_append.2 ⟨fun ch hch => isNameChar_iff.2 (hmiddle ch hch), ?_⟩
        rw [List.forall_mem_singleton]
        exact (isAlphanumeric_iff.1 hlast).1
    · rcases hrest with rfl | ⟨middle, last, rfl, -, hlast⟩
      · exact fun h => hdash (Option.some.inj h)
      · rw [← List.cons_append, List.getLast?_concat]
        exact fun h => (isAlphanumeric_iff.1 hlast).2 (Option.some.inj h)

/-- The name of a cluster is one, and not too long, and its network is valid. -/
structure WellFormed (c : Cluster) : Prop where
  name : IsName c.name
  length : c.name.length ≤ 63
  network : c.network.WellFormed

/-- The check of a name lets through names of at most 63 characters, unchanged. -/
theorem checkName_eq_valid_iff {name' : String} : checkName name = .valid name' ↔
    name = name' ∧ IsName name ∧ name.length ≤ 63 := by
  unfold checkName
  split
  · next hlong => exact iff_of_false nofun fun h => absurd h.2.2 (Nat.not_le.2 hlong)
  · next hshort =>
    have hle : name.length ≤ 63 := Nat.not_lt.1 hshort
    split
    · next hshape =>
      have hname := isNameShape_iff.1 hshape
      exact ⟨fun h => ⟨Checked.valid.inj h, hname, hle⟩, fun h => congrArg Checked.valid h.1⟩
    · next hshape => exact iff_of_false nofun fun h => hshape (isNameShape_iff.2 h.2.1)

/-- A name is read back from itself. -/
theorem canonical_name : Canonical (fun v => (Schema.text v).refine checkName) .text
    fun name => IsName name ∧ name.length ≤ 63 := by
  refine canonical_text.refine (fun {name name'} _ h => ?_) fun {name} h =>
    ⟨trivial, checkName_eq_valid_iff.2 ⟨rfl, h⟩⟩
  obtain ⟨rfl, hname⟩ := checkName_eq_valid_iff.1 h
  exact hname

/-- A cluster is read from a table with a name and no unknown keys, field by field. -/
theorem ofValue_eq_valid_iff : ofValue v = .valid c ↔ ∃ entries, v = .table entries ∧
    required "name" (fun v => (Schema.text v).refine checkName) entries = .valid c.name ∧
    withDefault "namespace" Schema.text "default" entries = .valid c.namespaceName ∧
    withDefault "network" NetworkSpec.ofValue {} entries = .valid c.network ∧
    v.KeysAmong fieldNames := by
  unfold ofValue
  simp only [table_eq_valid_iff, Checked.seq_eq_valid_iff, Checked.map_eq_valid_iff]
  constructor
  · rintro ⟨entries, rfl, _, ⟨⟩, ⟨_, network, ⟨_, namespaceName, ⟨name, hname, rfl⟩, hnamespace, rfl⟩,
      hnetwork, rfl⟩, hkeys, rfl⟩
    exact ⟨entries, rfl, hname, hnamespace, hnetwork, noKeysBut_eq_valid_iff.1 hkeys⟩
  · rintro ⟨entries, rfl, hname, hnamespace, hnetwork, hkeys⟩
    exact ⟨entries, rfl, _, (), ⟨_, _, ⟨_, _, ⟨_, hname, rfl⟩, hnamespace, rfl⟩, hnetwork, rfl⟩,
      noKeysBut_eq_valid_iff.2 hkeys, rfl⟩

/-- The clusters that are read are the well-formed ones, and each is read back from its dump. -/
theorem canonical : Canonical ofValue toValue WellFormed where
  ensures h := by
    obtain ⟨_, -, hname, -, hnetwork, -⟩ := ofValue_eq_valid_iff.1 h
    obtain ⟨_, -, hname⟩ := valid_required_iff.1 hname
    obtain ⟨hname, hlength⟩ := canonical_name.ensures hname
    exact ⟨hname, hlength, NetworkSpec.canonical.of_withDefault hnetwork NetworkSpec.wellFormed_default⟩
  rereads {c} h := by
    have hnames : (c.fields.map (·.1)).Nodup := (by decide : fieldNames.Nodup)
    obtain ⟨hname, hfind⟩ := List.forall_mem_cons.1 (Value.find?_recordEntries hnames)
    obtain ⟨hnamespace, hfind⟩ := List.forall_mem_cons.1 hfind
    obtain ⟨hnetwork, -⟩ := List.forall_mem_cons.1 hfind
    refine ofValue_eq_valid_iff.2 ⟨_, rfl, ?_, ?_, ?_, Value.keysAmong_record c.fields⟩
    · exact valid_required_iff.2 ⟨_, hname, canonical_name.rereads ⟨h.name, h.length⟩⟩
    · exact canonical_text.withDefault trivial hnamespace
    · exact NetworkSpec.canonical.withDefault h.network hnetwork

/-- A cluster and its sections have no keys but those they are read by. -/
structure OnlyKnownKeys (v : Value) : Prop where
  own : v.KeysAmong fieldNames
  network : NetworkSpec.OnlyKnownKeys (v.get "network")

/-- A valid cluster is well-formed, and nothing about it changes if it is read again from its own
plain data. Its allowed ranges are those it was declared with, each where it stands first. No
section of the declaration has a key that it is not read by. -/
theorem validation_canonical {v : Value} {c : Cluster} (h : ofValue v = .valid c) :
    ofValue c.toValue = .valid c ∧ c.WellFormed ∧
    (∃ ranges, PrimarySpec.Declares ((v.get "network").get "control_plane_load_balancer") ranges ∧
      c.network.primary.allowedRanges = PrimarySpec.withoutRepetitions ranges) ∧
    OnlyKnownKeys v := by
  refine ⟨canonical.reread h, canonical.ensures h, ?_⟩
  obtain ⟨entries, rfl, -, -, hnetwork, hkeys⟩ := ofValue_eq_valid_iff.1 h
  rcases get_of_withDefault hnetwork with ⟨hnull, hdefault⟩ | hread
  · rw [hnull, hdefault]
    exact ⟨⟨[], .inl ⟨rfl, rfl⟩, rfl⟩, hkeys, hnull ▸ ⟨trivial, trivial, trivial, nofun⟩⟩
  · exact ⟨NetworkSpec.exists_declares hread, hkeys, NetworkSpec.onlyKnownKeys_of_valid hread⟩

end Cluster

namespace Sample

/-- Everything is written in another way than it is dumped, a range is repeated, and a zone is an
older name. -/
def declaration : Value := .record [("name", .text "demo-1"),
  ("network", .record [
    ("api_server_port", .text " 8_443.0 "),
    ("private_network", .record [("enabled", .text "Yes"), ("id", .text "net")]),
    ("control_plane_extra_load_balancers", .null),
    ("control_plane_load_balancer", .record [("private", .int 0), ("zone", .text "par1"),
      ("allowed_ranges", .texts ["10.0.0.0/8", "::/0", "10.0.0.0/8"])])])]

/-- The cluster that is read from it. -/
def declared : Cluster where
  name := "demo-1"
  network :=
    { privateNetwork := ⟨true, some "net"⟩
      primary := { zone := some "par1", allowedRanges := ["10.0.0.0/8", "::/0"] }
      apiServerPort := 8443 }

end Sample

namespace Cluster

/-- A declaration with a repeated range and an older name of a zone is read as a well-formed
cluster, and this one is read back from its dump. -/
theorem sample_validation_canonical :
    ofValue Sample.declaration = .valid Sample.declared ∧
    ofValue Sample.declared.toValue = .valid Sample.declared ∧
    Sample.declared.WellFormed ∧ OnlyKnownKeys Sample.declaration ∧
    PrimarySpec.withoutRepetitions ["10.0.0.0/8", "::/0", "10.0.0.0/8"] = ["10.0.0.0/8", "::/0"] := by
  have hvalid : ofValue Sample.declaration = .valid Sample.declared := by decide +kernel
  obtain ⟨hreread, hwellFormed, -, hkeys⟩ := validation_canonical hvalid
  exact ⟨hvalid, hreread, hwellFormed, hkeys, by decide +kernel⟩

end Cluster

end ControlPlane
