import ControlPlane.Proofs.Declaration.Validity
import ControlPlane.Proofs.Text.ZoneNames
import ControlPlane.Scope

/-!
# The zone of a valid declaration

A zone has one spelling, that of its region with a dash and a digit behind it (`Zone.Canonical`).
What names a zone is an older name, such a spelling, or a spelling with a line feed behind it
(`Zone.Trailed`), and nothing else (`Zone.parse_eq_ok_iff`). The line feed is not taken off, so a
text of the last kind stands for no zone that there is, and it is the only kind for which the result
is not canonical (`Zone.parse_strict_iff`). No product is to be had there
(`Region.checkZone_of_trailed`).

The zone of a load balancer is only valid if it names one, so the primary load balancer of a valid
cluster is declared for a zone, whatever the region (`Cluster.resolves_of_valid`). That load
balancers can be had in this zone is not known from reading.
-/

namespace ControlPlane

namespace Zone

variable {written zone : String}

/-! ## Spellings -/

/-- Two lower-case ASCII letters, a dash, three such letters, a dash and a digit from 1 to 9. -/
def Canonical (zone : String) : Prop := ∃ country city digit,
  zone.toList = country ++ '-' :: city ++ ['-', digit] ∧ country.length = 2 ∧ city.length = 3 ∧
    (∀ c ∈ country ++ city, 'a' ≤ c ∧ c ≤ 'z') ∧ '1' ≤ digit ∧ digit ≤ '9'

/-- A spelling with a line feed behind it. -/
def Trailed (written : String) : Prop := ∃ zone, Canonical zone ∧ written = zone ++ "\n"

/-- The test for the shape of a zone accepts exactly the canonical spellings. -/
theorem isShape_iff : isShape zone.toList = true ↔ Canonical zone := by
  unfold Canonical
  generalize zone.toList = s
  constructor
  · intro h
    unfold isShape at h
    split at h
    · next a b c d e n =>
      simp only [Bool.and_eq_true, List.all_eq_true, isLetter, decide_eq_true_eq] at h
      obtain ⟨⟨hletters, hone⟩, hnine⟩ := h
      exact ⟨[a, b], [c, d, e], n, rfl, rfl, rfl, hletters, hone, hnine⟩
    · cases h
  · rintro ⟨country, city, digit, rfl, hcountry, hcity, hletters, hone, hnine⟩
    obtain ⟨a, b, rfl⟩ := List.length_eq_two.1 hcountry
    obtain ⟨c, d, e, rfl⟩ := List.length_eq_three.1 hcity
    show ([a, b, c, d, e].all isLetter && '1' ≤ digit && digit ≤ '9') = true
    simp only [Bool.and_eq_true, List.all_eq_true, isLetter, decide_eq_true_eq]
    exact ⟨⟨hletters, hone⟩, hnine⟩

/-- Canonical texts have eight characters. -/
theorem Canonical.length_eq (h : Canonical zone) : zone.toList.length = 8 := by
  obtain ⟨country, city, digit, htext, hcountry, hcity, -⟩ := h
  simp [htext, hcountry, hcity]

/-- A spelling with a line feed behind it has nine characters. -/
theorem Trailed.length_eq (h : Trailed written) : written.toList.length = 9 := by
  obtain ⟨zone, hzone, rfl⟩ := h
  rw [String.toList_append, List.length_append, hzone.length_eq]
  rfl

/-- Nothing stands behind the digit of a canonical text. -/
theorem Trailed.not_canonical (h : Trailed written) : ¬Canonical written := fun hcanonical =>
  absurd (h.length_eq.symm.trans hcanonical.length_eq) (by decide)

/-- The test that reading makes accepts a canonical spelling, and also one with a line feed behind
it. -/
theorem isAccepted_iff : isAccepted written.toList = true ↔ Canonical written ∨ Trailed written := by
  unfold isAccepted
  simp only [Bool.or_eq_true, Bool.and_eq_true, decide_eq_true_eq, isShape_iff]
  refine or_congr_right ⟨?_, ?_⟩
  · rintro ⟨hlast, hshape⟩
    let zone := String.ofList written.toList.dropLast
    have hzone : zone.toList = written.toList.dropLast := String.toList_ofList
    refine ⟨zone, isShape_iff.1 (hzone ▸ hshape), String.toList_inj.1 ?_⟩
    rw [String.toList_append, hzone]
    exact (List.dropLast_append_getLast? '\n' hlast).symm
  · rintro ⟨zone, hzone, rfl⟩
    have htext : (zone ++ "\n").toList = zone.toList ++ ['\n'] := String.toList_append
    rw [htext, List.getLast?_concat, List.dropLast_concat]
    exact ⟨rfl, isShape_iff.2 hzone⟩

/-! ## Reading -/

/-- An older name is read as a zone of today, and is none itself. -/
theorem mem_aliases (h : (written, zone) ∈ aliases) :
    parse written = .ok zone ∧ Canonical zone ∧ written.toList.length = 4 := by
  simp only [aliases, List.mem_cons, Prod.mk.injEq, List.not_mem_nil, or_false] at h
  obtain ⟨rfl, rfl⟩ | ⟨rfl, rfl⟩ := h
  · exact ⟨rfl, isShape_iff.1 (by decide), rfl⟩
  · exact ⟨rfl, isShape_iff.1 (by decide), rfl⟩

/-- A text that is no older name is read as itself if it is accepted, and is refused otherwise. -/
theorem parse_of_not_alias (h : ∀ zone, (written, zone) ∉ aliases) : parse written =
    if isAccepted written.toList then .ok written else .error (.zoneFormat written) := by
  have hnone : aliases.lookup written = none := by
    rw [List.lookup_eq_none_iff]
    rintro ⟨older, zone⟩ hmem
    refine bne_iff_ne.2 ?_
    rintro rfl
    exact h zone hmem
  unfold parse
  rw [hnone]
  rfl

/-- What names a zone, and which. -/
theorem parse_eq_ok_iff : parse written = .ok zone ↔
    (written, zone) ∈ aliases ∨ (Canonical written ∨ Trailed written) ∧ zone = written := by
  by_cases halias : ∃ known, (written, known) ∈ aliases
  · obtain ⟨known, hknown⟩ := halias
    -- An alias is too short to be accepted as a zone itself.
    obtain ⟨hparse, -, hlength⟩ := mem_aliases hknown
    constructor
    · intro h
      cases hparse.symm.trans h
      exact .inl hknown
    · rintro (hmem | ⟨hcanonical | htrailed, -⟩)
      · exact (mem_aliases hmem).1
      · exact absurd (hlength.symm.trans hcanonical.length_eq) (by decide)
      · exact absurd (hlength.symm.trans htrailed.length_eq) (by decide)
  · have hnone : ∀ zone, (written, zone) ∉ aliases := not_exists.1 halias
    rw [parse_of_not_alias hnone, or_iff_right (hnone zone), ← isAccepted_iff]
    split
    · next h => exact ⟨fun hok => ⟨h, (Except.ok.inj hok).symm⟩, fun hok => congrArg _ hok.2.symm⟩
    · next h => exact iff_of_false nofun fun hok => h hok.1

/-- Reading what was read before changes nothing. -/
theorem parse_parse (h : parse written = .ok zone) : parse zone = .ok zone := by
  obtain halias | ⟨hwritten, rfl⟩ := parse_eq_ok_iff.1 h
  · exact parse_eq_ok_iff.2 (.inr ⟨.inl (mem_aliases halias).2.1, rfl⟩)
  · exact parse_eq_ok_iff.2 (.inr ⟨hwritten, rfl⟩)

/-- Only what is written with a line feed is read as something that is not canonical. -/
theorem canonical_iff_of_parse (h : parse written = .ok zone) : Canonical zone ↔ ¬Trailed written := by
  obtain halias | ⟨hcanonical | htrailed, rfl⟩ := parse_eq_ok_iff.1 h
  · obtain ⟨-, hcanonical, hlength⟩ := mem_aliases halias
    exact iff_of_true hcanonical fun ht => absurd (hlength.symm.trans ht.length_eq) (by decide)
  · exact iff_of_true hcanonical fun ht => ht.not_canonical hcanonical
  · exact iff_of_false htrailed.not_canonical fun h => h htrailed

/-- The name of a zone is that of its region with a dash and a digit from 1 to 9 behind it. -/
def EndsInDigit (zone : String) : Prop := ∃ digit, '1' ≤ digit ∧ digit ≤ '9' ∧
  zone = region zone ++ "-" ++ String.singleton digit

/-- The region of a zone is what stands before the last dash. -/
theorem region_append {name number : List Char} (htext : zone.toList = name ++ '-' :: number)
    (h : '-' ∉ number) : region zone = String.ofList name := by
  unfold region
  rw [htext, Text.beforeLast_append h]

/-- A canonical spelling is that of its region with a dash and a digit behind it. -/
theorem Canonical.endsInDigit (h : Canonical zone) : EndsInDigit zone := by
  obtain ⟨country, city, digit, htext, -, -, -, hone, hnine⟩ := h
  refine ⟨digit, hone, hnine, ?_⟩
  have hdash : '-' ∉ [digit] := by
    rw [List.mem_singleton]
    rintro rfl
    exact absurd hone (by decide)
  rw [region_append htext hdash]
  refine String.toList_inj.1 ?_
  simp [htext]

/-- A spelling with a line feed behind it is not. -/
theorem Trailed.not_endsInDigit (h : Trailed written) : ¬EndsInDigit written := by
  obtain ⟨zone, -, rfl⟩ := h
  rintro ⟨digit, hone, -, hends⟩
  have hlast : (zone ++ "\n").toList.getLast? = some digit := by
    rw [hends, String.toList_append, String.toList_singleton]
    exact List.getLast?_concat
  have hfeed : (zone ++ "\n").toList.getLast? = some '\n' := by
    rw [String.toList_append]
    exact List.getLast?_concat
  cases hfeed.symm.trans hlast
  exact absurd hone (by decide)

/-- What is asked of the reading of a text: it is a zone only if it is an older name or spelled like
one, and what is read is spelled like one, read as itself, and cut into its region and a digit. -/
structure ReadStrictly (written : String) : Prop where
  accepted : (∃ zone, parse written = .ok zone) ↔ written ∈ aliases.map Prod.fst ∨ Canonical written
  canonical : ∀ zone, parse written = .ok zone → Canonical zone
  fixed : ∀ zone, parse written = .ok zone → parse zone = .ok zone
  endsInDigit : ∀ zone, parse written = .ok zone → EndsInDigit zone

/-- A text is read strictly unless it is a spelling with a line feed behind it. -/
theorem readStrictly_iff : ReadStrictly written ↔ ¬Trailed written := by
  constructor
  · intro h htrailed
    -- With the line feed at its end, a text would be read as itself.
    have hparse : parse written = .ok written := parse_eq_ok_iff.2 (.inr ⟨.inr htrailed, rfl⟩)
    exact htrailed.not_canonical (h.canonical written hparse)
  · intro htrailed
    have hcanonical (zone) (h : parse written = .ok zone) : Canonical zone :=
      (canonical_iff_of_parse h).2 htrailed
    refine ⟨?_, hcanonical, fun _ => parse_parse, fun zone h => (hcanonical zone h).endsInDigit⟩
    constructor
    · rintro ⟨zone, h⟩
      obtain halias | ⟨hwritten, rfl⟩ := parse_eq_ok_iff.1 h
      · exact .inl (List.mem_map_of_mem halias)
      · exact .inr (hwritten.resolve_right htrailed)
    · rintro (halias | hwritten)
      · obtain ⟨⟨_, zone⟩, hmem, rfl⟩ := List.mem_map.1 halias
        exact ⟨zone, (mem_aliases hmem).1⟩
      · exact ⟨written, parse_eq_ok_iff.2 (.inr ⟨.inl hwritten, rfl⟩)⟩

end Zone

/-! ## The zone of a load balancer -/

namespace Region

variable {written : String}

/-- The first zone of a region that is spelled like one. -/
theorem canonical_defaultZone (r : Region) (h : Zone.isRegionShape r.name.toList = true) :
    Zone.Canonical r.defaultZone := by
  refine Zone.isShape_iff.1 ?_
  unfold defaultZone
  rw [String.toList_append]
  revert h
  generalize r.name.toList = name
  intro h
  unfold Zone.isRegionShape at h
  split at h
  · next a b c d e =>
    show ([a, b, c, d, e].all Zone.isLetter && '1' ≤ '1' && '1' ≤ '9') = true
    rw [h]
    rfl
  · cases h

/-- A zone that is declared is resolved as it is read, by any region. -/
theorem resolve_of_parse {zone : String} (r : Region) (h : Zone.parse written = .ok zone) :
    r.resolve (some written) = .ok zone := by
  unfold resolve
  dsimp only
  rw [h]

/-- If all zones that there are are spelled like zones, and the region like a region, then nothing
is to be had in a zone with a line feed behind it. -/
theorem checkZone_of_trailed {supported : List String} (r : Region)
    (hregion : Zone.isRegionShape r.name.toList = true) (hsupported : ∀ z ∈ supported, Zone.Canonical z)
    (h : Zone.Trailed written) : r.checkZone supported written =
      raise (.terminal (.zoneUnavailable written (r.productZones supported))) := by
  have hcanonical : ∀ z ∈ r.productZones supported, Zone.Canonical z := by
    unfold productZones
    dsimp only
    split
    · exact List.forall_mem_singleton.2 (r.canonical_defaultZone hregion)
    · exact fun z hz => hsupported z (List.mem_filter.1 hz).1
  exact if_neg fun hmem => h.not_canonical (hcanonical written hmem)

end Region

namespace BalancerSpec

variable {v : Value} {d : BalancerSpec} {written : String}

/-- A load balancer is declared for a zone, whatever the region. -/
def Resolves (d : BalancerSpec) : Prop := ∀ r : Region, ∃ zone, r.resolve d.zone = .ok zone

/-- The zone of a well-formed declaration resolves in any region. -/
theorem WellFormed.resolves (h : d.WellFormed) : d.Resolves := by
  intro r
  cases hzone : d.zone with
  | none => exact ⟨r.defaultZone, rfl⟩
  | some written =>
    obtain ⟨zone, hparse⟩ := h.zone written hzone
    exact ⟨zone, r.resolve_of_parse hparse⟩

end BalancerSpec

/-- The zone of the primary of a cluster that was read resolves in any region. -/
theorem Cluster.resolves_of_valid {v : Value} {c : Cluster} (h : Cluster.ofValue v = .valid c) :
    c.network.primary.Resolves :=
  (Cluster.canonical.ensures h).network.primary.balancer.resolves

namespace Zone

/-- A text is read strictly unless it is the spelling of a zone with a line feed behind it. Such a
text is read as it stands, and is not its region with a dash and a digit. The zone of a valid load
balancer can always be resolved, to a spelling of a zone unless it is written with a line feed. -/
theorem parse_strict_iff (written : String) : (ReadStrictly written ↔ ¬Trailed written) ∧
    (Trailed written → parse written = .ok written ∧ ¬Canonical written ∧ ¬EndsInDigit written) ∧
    ∀ v d, BalancerSpec.ofValue v = .valid d → d.zone = some written → ∀ r : Region,
      ∃ zone, r.resolve d.zone = .ok zone ∧ (Canonical zone ↔ ¬Trailed written) := by
  refine ⟨readStrictly_iff, fun h => ⟨?_, h.not_canonical, h.not_endsInDigit⟩, ?_⟩
  · exact parse_eq_ok_iff.2 (.inr ⟨.inr h, rfl⟩)
  · intro v d hvalid hzone r
    obtain ⟨zone, hparse⟩ := (BalancerSpec.canonical.ensures hvalid).zone written hzone
    exact ⟨zone, hzone ▸ r.resolve_of_parse hparse, canonical_iff_of_parse hparse⟩

/-- Of `fr-par-1` with a line feed behind it nothing is left out. An older name is read strictly. -/
theorem line_feed_not_strict :
    parse "fr-par-1\n" = .ok "fr-par-1\n" ∧ ¬ReadStrictly "fr-par-1\n" ∧ ReadStrictly "par1" ∧
    ∃ zone, Region.resolve ⟨"fr-par"⟩ (some "fr-par-1\n") = .ok zone ∧ ¬Canonical zone := by
  have htrailed : Trailed "fr-par-1\n" := ⟨"fr-par-1", isShape_iff.1 (by decide), by decide⟩
  have holder : ¬Trailed "par1" := fun h => absurd h.length_eq (by decide)
  obtain ⟨hstrict, hread, hbalancer⟩ := parse_strict_iff "fr-par-1\n"
  obtain ⟨zone, hresolve, hzone⟩ := hbalancer (.record [("zone", .text "fr-par-1\n")])
    { zone := some "fr-par-1\n" } (by decide +kernel) rfl ⟨"fr-par"⟩
  refine ⟨(hread htrailed).1, fun h => hstrict.1 h htrailed, (parse_strict_iff "par1").1.2 holder, ?_⟩
  exact ⟨zone, hresolve, fun h => hzone.1 h htrailed⟩

end Zone

end ControlPlane
