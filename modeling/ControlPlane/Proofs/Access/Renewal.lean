import ControlPlane.Proofs.Access.Contents
import ControlPlane.Proofs.Access.Drafts

/-!
# One rule on several frontends

The same rule is ensured on one frontend after the other. `Renews` says what this leaves: under its
name every one of the frontends has what is made of the rules that it had under it (`renewed`), and
all other rules are as they were. It makes no difference if a frontend is met twice (`Renews.comp`).

Ensuring a rule fails only where there are several under its name already (`ensureRule_returns`).
-/

namespace ControlPlane

open Program hiding ofExcept

namespace Access

variable {c c1 c' : Cloud} {f : Frontend} {s : Site} {d : DesiredRule} {name : String}

/-- What the rules of a frontend with a name say, in order. -/
def specsOf (c : Cloud) (frontendId name : String) : List RuleSpec :=
  ((rulesOf c frontendId).filter (·.name = name)).map (·.toRuleSpec)

/-- Where names are told apart, at most one rule has a given name. -/
theorem length_specsOf_le {frontendId : String}
    (hnamed : ((rulesOf c frontendId).map (·.name)).Nodup) (name : String) :
    (specsOf c frontendId name).length ≤ 1 := by
  rw [specsOf, List.length_map]
  rcases filter_name_of_nodup hnamed name with hnone | ⟨_, _, _, hone⟩
  · rw [hnone]
    exact Nat.zero_le 1
  · rw [hone]
    exact Nat.le_refl 1

/-- What the rules of its name say when a rule has been ensured, by what they said: nothing if it
has no subnets, the same if the subnets are the same, and else what is desired. -/
def renewed (d : DesiredRule) : List RuleSpec → List RuleSpec
  | [] => if d.subnets = [] then [] else [sent d]
  | spec :: _ =>
    if d.subnets = [] then [] else if spec.subnets.Perm d.subnets then [spec] else [sent d]

/-- A rule that has been ensured is absent if no subnets are desired, and else is the only one of
its name, with those subnets. -/
theorem renewed_cases (d : DesiredRule) (specs : List RuleSpec) :
    (d.subnets = [] ∧ renewed d specs = []) ∨
      ∃ spec, d.subnets ≠ [] ∧ renewed d specs = [spec] ∧ spec.subnets.Perm d.subnets := by
  by_cases hnil : d.subnets = []
  · refine .inl ⟨hnil, ?_⟩
    cases specs <;> exact if_pos hnil
  · refine .inr ?_
    cases specs with
    | nil => exact ⟨sent d, hnil, if_neg hnil, .refl _⟩
    | cons spec rest =>
      by_cases hsame : spec.subnets.Perm d.subnets
      · exact ⟨spec, hnil, (if_neg hnil).trans (if_pos hsame), hsame⟩
      · exact ⟨sent d, hnil, (if_neg hnil).trans (if_neg hsame), .refl _⟩

/-- At most one rule has the name when the rule has been ensured. -/
theorem length_renewed_le (d : DesiredRule) (specs : List RuleSpec) :
    (renewed d specs).length ≤ 1 := by
  rcases renewed_cases d specs with ⟨_, h⟩ | ⟨_, _, h, _⟩
  · rw [h]
    exact Nat.zero_le 1
  · rw [h]
    exact Nat.le_refl 1

/-- Ensuring a rule again leaves it as it is. -/
theorem renewed_renewed (d : DesiredRule) (specs : List RuleSpec) :
    renewed d (renewed d specs) = renewed d specs := by
  rcases renewed_cases d specs with ⟨hnil, h⟩ | ⟨spec, hne, h, hperm⟩
  · rw [h]
    exact if_pos hnil
  · rw [h]
    exact (if_neg hne).trans (if_pos hperm)

/-- A rule that has been ensured is as desired. -/
theorem hasRule_of_renewed {frontendId : String} {specs : List RuleSpec}
    (h : specsOf c frontendId d.name = renewed d specs) :
    HasRule (rulesOf c frontendId) d.name d.subnets := by
  unfold specsOf at h
  unfold HasRule
  rcases renewed_cases d specs with ⟨hnil, hnone⟩ | ⟨spec, hne, hone, hperm⟩
  · rw [if_pos hnil]
    rw [hnone] at h
    exact List.map_eq_nil_iff.1 h
  · rw [if_neg hne]
    rw [hone] at h
    obtain ⟨r, hr, rfl⟩ := List.map_eq_singleton_iff.1 h
    exact ⟨r, hr, hperm⟩

/-- A rule is ensured on the frontends with some ids. -/
structure Renews (d : DesiredRule) (ids : String → Prop) (c c' : Cloud) : Prop where
  single : ∀ id, ids id → (specsOf c id d.name).length ≤ 1
  named : ∀ id, ids id → specsOf c' id d.name = renewed d (specsOf c id d.name)
  others : ∀ id,
    (rulesOf c' id).filter (·.name ≠ d.name) = (rulesOf c id).filter (·.name ≠ d.name)
  elsewhere : ∀ id, ¬ids id → rulesOf c' id = rulesOf c id

namespace Renews

variable {ids ids' : String → Prop}

/-- On no frontends, the cloud is as it was. -/
theorem none (d : DesiredRule) (c : Cloud) : Renews d (fun _ => False) c c :=
  ⟨nofun, nofun, fun _ => rfl, fun _ _ => rfl⟩

/-- The frontends may be given by another condition on ids that means the same. -/
theorem congr (h : Renews d ids c c') (hids : ∀ id, ids' id ↔ ids id) : Renews d ids' c c' :=
  ⟨fun id hid => h.single id ((hids id).1 hid), fun id hid => h.named id ((hids id).1 hid),
    h.others, fun id hid => h.elsewhere id (mt (hids id).2 hid)⟩

/-- Rules are all that counts. -/
theorem of_rules (h : Renews d ids c c') {v v' : Cloud} (hv : v.rules = c.rules)
    (hv' : v'.rules = c'.rules) : Renews d ids v v' := by
  have hrules : ∀ id, rulesOf v id = rulesOf c id := fun id =>
    congrArg (List.filter fun r : Rule => decide (r.frontendId = id)) hv
  have hrules' : ∀ id, rulesOf v' id = rulesOf c' id := fun id =>
    congrArg (List.filter fun r : Rule => decide (r.frontendId = id)) hv'
  constructor <;> intro id <;> simp only [specsOf, hrules, hrules']
  · exact h.single id
  · exact h.named id
  · exact h.others id
  · exact h.elsewhere id

/-- On other frontends, the rules of the name stay. -/
theorem specsOf_elsewhere (h : Renews d ids c c') {id : String} (hid : ¬ids id) :
    specsOf c' id d.name = specsOf c id d.name := by
  unfold specsOf
  rw [h.elsewhere id hid]

/-- Rules of another name are left alone on every frontend. -/
theorem specsOf_other (h : Renews d ids c c') (hname : name ≠ d.name) (id : String) :
    specsOf c' id name = specsOf c id name := by
  unfold specsOf
  rw [filter_name_of_others hname (h.others id)]

/-- A frontend has several rules of one name afterwards if it had before. -/
theorem length_specsOf_le_iff (h : Renews d ids c c') (id name : String) :
    (specsOf c' id name).length ≤ 1 ↔ (specsOf c id name).length ≤ 1 := by
  by_cases hname : name = d.name
  · subst hname
    by_cases hid : ids id
    · rw [h.named id hid]
      exact iff_of_true (length_renewed_le d _) (h.single id hid)
    · rw [h.specsOf_elsewhere hid]
  · rw [h.specsOf_other hname id]

/-- A rule is ensured on some frontends and then on some more, which may be among the first. -/
theorem comp (h : Renews d ids c c1) (h' : Renews d ids' c1 c') :
    Renews d (fun id => ids id ∨ ids' id) c c' := by
  constructor
  case others => exact fun id => (h'.others id).trans (h.others id)
  case elsewhere =>
    intro id hid
    obtain ⟨hid, hid'⟩ := not_or.1 hid
    exact (h'.elsewhere id hid').trans (h.elsewhere id hid)
  case single =>
    rintro id (hid | hid')
    · exact h.single id hid
    · by_cases hid : ids id
      · exact h.single id hid
      · rw [← h.specsOf_elsewhere hid]
        exact h'.single id hid'
  case named =>
    intro id hid
    -- A frontend renewed by both steps holds what renewing once gives.
    by_cases hfirst : ids id
    · by_cases hsecond : ids' id
      · rw [h'.named id hsecond, h.named id hfirst, renewed_renewed]
      · rw [h'.specsOf_elsewhere hsecond, h.named id hfirst]
    · rw [h'.named id (hid.resolve_left hfirst), h.specsOf_elsewhere hfirst]

/-- Rules that are ensured on the same frontends under different names may come in either order. -/
theorem comm {d' : DesiredRule} {c2 c1' c2' : Cloud} (hname : d'.name ≠ d.name)
    (h : Renews d ids c c1) (h' : Renews d' ids c1 c2) (g' : Renews d' ids c c1')
    (g : Renews d ids c1' c2') (id name : String) : specsOf c2' id name = specsOf c2 id name := by
  -- Under either name one of the rules is renewed, and the other leaves it alone.
  by_cases hfirst : name = d.name
  · subst hfirst
    rw [h'.specsOf_other hname.symm]
    by_cases hid : ids id
    · rw [g.named id hid, g'.specsOf_other hname.symm, h.named id hid]
    · rw [g.specsOf_elsewhere hid, g'.specsOf_other hname.symm, h.specsOf_elsewhere hid]
  rw [g.specsOf_other hfirst]
  by_cases hsecond : name = d'.name
  · subst hsecond
    by_cases hid : ids id
    · rw [g'.named id hid, h'.named id hid, h.specsOf_other hname]
    · rw [g'.specsOf_elsewhere hid, h'.specsOf_elsewhere hid, h.specsOf_other hname]
  · rw [g'.specsOf_other hsecond, h'.specsOf_other hsecond, h.specsOf_other hfirst]

/-- A rule that is new on some frontends is ensured on them and then removed from them. -/
theorem undone {d' : DesiredRule} {c2 : Cloud} (hname : d'.name = d.name) (hnil : d'.subnets = [])
    (hnew : ∀ id, ids id → specsOf c id d.name = []) (h : Renews d ids c c1)
    (h' : Renews d' ids c1 c2) (id : String) : rulesOf c2 id = rulesOf c id := by
  by_cases hid : ids id
  · -- There was nothing under the name at first, and nothing is left under it.
    have hself : ∀ {v : Cloud}, specsOf v id d.name = [] →
        (rulesOf v id).filter (·.name ≠ d.name) = rulesOf v id := by
      intro v hnone
      refine List.filter_eq_self.2 fun r hr => decide_eq_true fun heq => ?_
      exact List.filter_eq_nil_iff.1 (List.map_eq_nil_iff.1 hnone) r hr (decide_eq_true heq)
    have hgone : specsOf c2 id d.name = [] := by
      rw [← hname, h'.named id hid]
      rcases renewed_cases d' (specsOf c1 id d'.name) with ⟨_, hnone⟩ | ⟨_, hne, _⟩
      · exact hnone
      · exact absurd hnil hne
    have hothers := h'.others id
    rw [hname] at hothers
    rw [← hself hgone, hothers, h.others id, hself (hnew id hid)]
  · rw [h'.elsewhere id hid, h.elsewhere id hid]

/-- The frontends have the rule that has been ensured. -/
theorem hasRule (h : Renews d ids c c') {id : String} (hid : ids id) :
    HasRule (rulesOf c' id) d.name d.subnets :=
  hasRule_of_renewed (h.named id hid)

end Renews

/-- Ensuring a rule on one frontend. -/
theorem ensureRule_renews {u : Unit} (hc : c.Sound) (h : (ensureRule s f d).Returns c u c') :
    Renews d (· = f.id) c c' := by
  have hothers := (ensureRule_spec hc h).2.2
  -- The rules of the name on the frontend itself, by what was done.
  have hnamed : (specsOf c f.id d.name).length ≤ 1 ∧
      specsOf c' f.id d.name = renewed d (specsOf c f.id d.name) := by
    unfold specsOf
    obtain ⟨_, ⟨hhas, rfl⟩ | ⟨hne, hnone, ruleId, hc'⟩ |
      ⟨r, hr, ⟨hnil, hc'⟩ | ⟨hne, hdiffer, hc'⟩⟩⟩ := ensureRule_cases h
    · unfold HasRule at hhas
      split at hhas
      · next hnil =>
        rw [hhas]
        exact ⟨Nat.zero_le 1, (if_pos hnil).symm⟩
      · next hne =>
        obtain ⟨r, hr, hperm⟩ := hhas
        rw [hr]
        exact ⟨Nat.le_refl 1, ((if_neg hne).trans (if_pos hperm)).symm⟩
    · have hnone' : (rulesOf c f.id).filter (·.name = (sent d).name) = [] := hnone
      have hrules : (rulesOf c' f.id).filter (·.name = d.name) = [⟨sent d, ruleId, f.id⟩] :=
        (rules_of_create hnone' hc').1
      rw [hrules, hnone]
      exact ⟨Nat.zero_le 1, (if_neg hne).symm⟩
    · rw [(rules_of_delete hc hr hc').1, hr]
      exact ⟨Nat.le_refl 1, (if_pos hnil).symm⟩
    · have hr' : (rulesOf c f.id).filter (·.name = (sent d).name) = [r] := hr
      have hchanged : (rulesOf c' f.id).filter (·.name = d.name) =
          [{ r with toRuleSpec := sent d }] := (rules_of_update hc hr' hc').1
      rw [hchanged, hr]
      exact ⟨Nat.le_refl 1, ((if_neg hne).trans (if_neg hdiffer)).symm⟩
  -- The other rules, and the other frontends.
  constructor
  case single => exact fun id hid => hid ▸ hnamed.1
  case named => exact fun id hid => hid ▸ hnamed.2
  case others =>
    intro id
    by_cases hid : id = f.id
    · rw [hid]
      exact hothers
    · rw [ensureRule_elsewhere hc h hid]
  case elsewhere => exact fun id hid => ensureRule_elsewhere hc h hid

/-- What a rule says can be replaced by what is desired. -/
theorem updateRule_returns {r : Rule} (hzone : f.zone ∈ s.zones) (hlow : 0 ≤ d.index)
    (hhigh : d.index ≤ RuleSpec.maxIndex) (hr : r ∈ c.rules) :
    ∃ r' c', (s.updateRule f.zone r.id d.name d.index d.action d.subnets).Returns c r' c' := by
  have hspec : Site.specified (RuleSpec.checked d.name d.index d.action d.subnets) =
      .ok (sent d) := specified_checked hlow hhigh
  have hanswer : ∃ r' c', c.answer (.updateRule f.zone r.id (sent d)) = (.ok r', c') := by
    unfold Cloud.answer Cloud.updateRule
    obtain ⟨_, _, _, hanswer⟩ := Cloud.withFirst_of_mem ⟨r, hr, rfl⟩
    exact ⟨_, _, hanswer⟩
  obtain ⟨r', c', hanswer⟩ := hanswer
  refine ⟨r', c', returns_bind.2 ⟨(), c, Site.checkZone_returns.2 ⟨hzone, rfl⟩, ?_⟩⟩
  exact returns_bind.2 ⟨sent d, c, returns_ofExcept.2 ⟨hspec, rfl⟩, returns_request.2 hanswer⟩

/-- A rule can be ensured on a frontend that is there, if there is at most one under its name. -/
theorem ensureRule_returns (hf : f ∈ c.frontends) (hzone : f.zone ∈ s.zones)
    (hlow : 0 ≤ d.index) (hhigh : d.index ≤ RuleSpec.maxIndex)
    (hsingle : (specsOf c f.id d.name).length ≤ 1) :
    ∃ c', (ensureRule s f d).Returns c () c' := by
  have hfind : ∀ found : Option Rule, (rulesOf c f.id).filter (·.name = d.name) = found.toList →
      (s.findRule f.zone f.id d.name).orNone.Returns c found c := by
    intro found hfound
    refine Site.findRule_returns.2 ⟨hzone, ?_, rfl⟩
    rw [← List.filter_filter]
    exact hfound
  by_cases hhas : HasRule (rulesOf c f.id) d.name d.subnets
  · exact ⟨c, (ensureRule_idles hzone hhas).returns⟩
  rw [specsOf, List.length_map] at hsingle
  obtain ⟨step, heq, hstep⟩ := ensureRule_steps s f d
  rw [heq]
  cases hfound : (rulesOf c f.id).filter (·.name = d.name) with
  | nil =>
    -- As nothing is there, something is desired.
    have hne : d.subnets ≠ [] := fun hnil => hhas (by rw [HasRule, if_pos hnil]; exact hfound)
    cases hstep none with
    | absent hnil _ => exact absurd hnil hne
    | created _ hp =>
      have hcreate := createRule_returns (d := d) hf hzone hlow hhigh
      exact ⟨_, returns_bind.2 ⟨none, c, hfind none hfound, hp ▸ returns_discard.2 ⟨_, hcreate⟩⟩⟩
  | cons r rest =>
    rw [hfound, List.length_cons] at hsingle
    obtain rfl : rest = [] := List.length_eq_zero_iff.1 (by omega)
    have hmem : r ∈ c.rules :=
      List.mem_of_mem_filter (List.mem_of_mem_filter (hfound ▸ List.mem_singleton_self r))
    cases hstep (some r) with
    | removed _ _ hp =>
      have hdelete : (s.deleteRule f.zone r.id).Returns c () _ :=
        Site.change_returns.2 ⟨hzone, Cloud.deleteRule_succeeds hmem⟩
      exact ⟨_, returns_bind.2 ⟨some r, c, hfind (some r) hfound, hp ▸ hdelete⟩⟩
    | kept _ hsome hsame _ =>
      refine absurd ?_ hhas
      rw [HasRule, if_neg hsome]
      exact ⟨r, hfound, hsame⟩
    | replaced _ _ _ hp =>
      obtain ⟨r', c', hupdate⟩ := updateRule_returns (d := d) hzone hlow hhigh hmem
      refine ⟨c', returns_bind.2 ⟨some r, c, hfind (some r) hfound, ?_⟩⟩
      exact hp ▸ returns_discard.2 ⟨r', hupdate⟩

end Access

end ControlPlane
