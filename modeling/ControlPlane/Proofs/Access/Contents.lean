import ControlPlane.Proofs.Access.Rules

/-!
# What one rule leaves under its name

The rules of frontends agree if under every name they have the same contents in the same order
(`agree_iff`). What ensuring a rule leaves under its name depends on the contents that were there
alone, and it changes nothing under other names (`ensureRule_under`) and on other frontends
(`ensureRule_elsewhere`). So frontends whose rules agree still do after one rule has been ensured on
each of them.
-/

namespace ControlPlane

namespace Access

variable {c c' : Cloud} {f : Frontend} {s : Site} {d : DesiredRule}

/-- What counts of a rule. -/
abbrev Content : Type := String × Int × RuleAction × Multiset String

/-- The contents under a name of a frontend, in order. -/
def under (c : Cloud) (frontendId name : String) : List Content :=
  RuleSpec.contentsOf name ((rulesOf c frontendId).map (·.toRuleSpec))

/-- The contents of the rules that have a name on a frontend are read off the frontend's list of
rules. -/
theorem under_eq (c : Cloud) (frontendId name : String) : under c frontendId name =
    ((rulesOf c frontendId).filter (·.name = name)).map (·.toRuleSpec.content) := by
  unfold under RuleSpec.contentsOf
  rw [List.filter_map, List.map_map]
  rfl

/-- Frontends agree exactly if they have the same contents under each name. -/
theorem agree_iff {frontendId frontendId' : String} :
    Agree (rulesOf c frontendId) c frontendId' ↔
      ∀ name, under c frontendId name = under c frontendId' name :=
  RuleSpec.sameRules_iff

/-- Whether there is a rule as desired depends on the contents under its name. -/
theorem HasRule.of_under {frontendId frontendId' name : String} {subnets : List String}
    (h : HasRule (rulesOf c frontendId) name subnets)
    (hsame : under c' frontendId' name = under c frontendId name) :
    HasRule (rulesOf c' frontendId') name subnets := by
  rw [under_eq, under_eq] at hsame
  unfold HasRule at h ⊢
  split
  · next hnil =>
    rw [if_pos hnil] at h
    rw [h] at hsame
    exact List.map_eq_nil_iff.1 hsame
  · next hne =>
    rw [if_neg hne] at h
    obtain ⟨r, hr, hperm⟩ := h
    rw [hr] at hsame
    obtain ⟨r', hr', hcontent⟩ := List.map_eq_singleton_iff.1 hsame
    -- The content of a rule tells its subnets up to order.
    have hsubnets : (r'.subnets : Multiset String) = r.subnets :=
      congrArg (fun x : Content => x.2.2.2) hcontent
    exact ⟨r', hr', (Multiset.coe_eq_coe.1 hsubnets).trans hperm⟩

/-- What is left under the name of a rule that has been ensured: nothing if it has no subnets, what
was there if the subnets are the same, and else what is desired. -/
def ensured (d : DesiredRule) : List Content → List Content
  | [] => if d.subnets = [] then [] else [(sent d).content]
  | x :: _ =>
    if d.subnets = [] then []
    else if x.2.2.2 = (d.subnets : Multiset String) then [x] else [(sent d).content]

/-- Rules of another frontend have other ids than the one that is found under a name. -/
theorem id_ne_of_frontend (hc : c.Sound) {r r' : Rule} {name frontendId : String}
    (hr : (rulesOf c frontendId).filter (·.name = name) = [r]) (hr' : r' ∈ c.rules)
    (hfrontend : r'.frontendId ≠ frontendId) : r'.id ≠ r.id := by
  intro hid
  have hrmem := List.mem_singleton_self r
  rw [← hr] at hrmem
  have hmem := List.mem_filter.1 (List.mem_of_mem_filter hrmem)
  have hself : r' = r := hc.rules.inj hr' hmem.1 hid
  rw [hself] at hfrontend
  exact hfrontend (of_decide_eq_true hmem.2)

/-- Ensuring a rule leaves the rules of other frontends alone. -/
theorem ensureRule_elsewhere {u : Unit} (hc : c.Sound) (h : (ensureRule s f d).Returns c u c')
    {id : String} (hid : id ≠ f.id) : rulesOf c' id = rulesOf c id := by
  obtain ⟨_, ⟨_, rfl⟩ | ⟨_, _, ruleId, hc'⟩ | ⟨r, hr, ⟨_, hc'⟩ | ⟨_, _, hc'⟩⟩⟩ :=
    ensureRule_cases h
  · rfl
  · -- A rule that is created stands on this frontend.
    rw [hc']
    unfold rulesOf
    rw [List.filter_append]
    simp [Ne.symm hid]
  all_goals
    -- The rule that is deleted or updated is on this frontend, and identifiers are not shared.
    have hother : ∀ r' ∈ c.rules, decide (r'.frontendId = id) = true → r'.id ≠ r.id := by
      intro r' hr' hfrontend
      refine id_ne_of_frontend hc hr hr' ?_
      rw [of_decide_eq_true hfrontend]
      exact hid
    rw [hc']
    unfold rulesOf
    dsimp only
  · rw [List.filter_filter]
    refine List.filter_congr fun r' hr' => ?_
    cases hfrontend : decide (r'.frontendId = id) with
    | false => rfl
    | true => rw [decide_eq_true (hother r' hr' hfrontend), Bool.and_true]
  · refine Cloud.filter_map_of_fixed (fun r' _ => ?_) fun r' hr' hfrontend =>
      if_neg (hother r' hr' hfrontend)
    split <;> rfl

/-- Ensuring a rule settles what is under its name, by what was there. -/
private theorem ensureRule_named {u : Unit} (hc : c.Sound) (h : (ensureRule s f d).Returns c u c') :
    under c' f.id d.name = ensured d (under c f.id d.name) := by
  rw [under_eq, under_eq]
  obtain ⟨_, ⟨hhas, rfl⟩ | ⟨hne, hnone, ruleId, hc'⟩ | ⟨r, hr, ⟨hnil, hc'⟩ | ⟨hne, hdiffer, hc'⟩⟩⟩ :=
    ensureRule_cases h
  · -- No change is sent: the rule is as desired, or absent as desired.
    unfold HasRule at hhas
    split at hhas
    · next hnil =>
      rw [hhas]
      exact (if_pos hnil).symm
    · next hne =>
      obtain ⟨r, hr, hperm⟩ := hhas
      have hsame : r.toRuleSpec.content.2.2.2 = (d.subnets : Multiset String) :=
        Multiset.coe_eq_coe.2 hperm
      rw [hr]
      show _ = if d.subnets = [] then _ else _
      rw [if_neg hne, if_pos hsame]
      rfl
  · -- The rule is created.
    have hnone' : (rulesOf c f.id).filter (·.name = (sent d).name) = [] := hnone
    have hrules : (rulesOf c' f.id).filter (·.name = d.name) = [⟨sent d, ruleId, f.id⟩] :=
      (rules_of_create hnone' hc').1
    rw [hrules, hnone]
    exact (if_neg hne).symm
  · -- The rule is deleted.
    rw [(rules_of_delete hc hr hc').1, hr]
    exact (if_pos hnil).symm
  · -- The rule is updated, as its subnets are other ones.
    have hr' : (rulesOf c f.id).filter (·.name = (sent d).name) = [r] := hr
    have hchanged : (rulesOf c' f.id).filter (·.name = d.name) =
        [{ r with toRuleSpec := sent d }] := (rules_of_update hc hr' hc').1
    have hother : ¬r.toRuleSpec.content.2.2.2 = (d.subnets : Multiset String) := fun hsame =>
      hdiffer (Multiset.coe_eq_coe.1 hsame)
    rw [hchanged, hr]
    show _ = if d.subnets = [] then _ else _
    rw [if_neg hne, if_neg hother]
    rfl

/-- What becomes of the contents under a name as a rule is ensured. -/
def ruled (d : DesiredRule) (name : String) (contents : List Content) : List Content :=
  if name = d.name then ensured d contents else contents

/-- Ensuring a rule settles what is under its name, by what was there, and nothing else. -/
theorem ensureRule_under {u : Unit} (hc : c.Sound) (h : (ensureRule s f d).Returns c u c')
    (name : String) : under c' f.id name = ruled d name (under c f.id name) := by
  unfold ruled
  split
  · next hname => rw [hname, ensureRule_named hc h]
  · next hname =>
    rw [under_eq, under_eq, filter_name_of_others hname (ensureRule_spec hc h).2.2]

end Access

end ControlPlane
