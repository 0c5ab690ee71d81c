import ControlPlane.Proofs.Access.Contents
import ControlPlane.Proofs.Provider.Progress
import ControlPlane.Proofs.Topology.Standstill

/-!
# Rules in the making

On a frontend that had no rules, a run makes those that are desired, one after the other, in the
words in which they are desired (`drafts`). Cut short, it leaves some of them and nothing else
(`Drafted`). Then each desired rule is either there as it shall be or missing, and ensuring it does
nothing or makes it (`ensureRule_drafts`). In the end the rules are the drafts (`perm_drafts`).
-/

namespace ControlPlane

open Program hiding ofExcept
open Cloud (numbered)

namespace Access

/-- What the desired rules say that there shall be. -/
def drafts (ds : List DesiredRule) : List RuleSpec :=
  (ds.filter (·.subnets ≠ [])).map sent

/-- All rules of a frontend are drafts. -/
def Drafted (ds : List DesiredRule) (rules : List Rule) : Prop :=
  ∀ r ∈ rules, r.toRuleSpec ∈ drafts ds

variable {ds : List DesiredRule} {d : DesiredRule} {rules : List Rule} {c c' : Cloud} {s : Site}
  {f : Frontend}

/-- The drafts are what is sent for the desired rules that have subnets. -/
theorem mem_drafts {spec : RuleSpec} :
    spec ∈ drafts ds ↔ ∃ d ∈ ds, d.subnets ≠ [] ∧ sent d = spec := by
  unfold drafts
  rw [List.mem_map]
  simp only [List.mem_filter, decide_eq_true_eq, and_assoc]

/-- A draft is told by its name. -/
theorem eq_sent_of_mem_drafts (hnames : (ds.map (·.name)).Nodup) (hd : d ∈ ds) {spec : RuleSpec}
    (hspec : spec ∈ drafts ds) (hname : spec.name = d.name) : d.subnets ≠ [] ∧ spec = sent d := by
  obtain ⟨d', hd', hne, rfl⟩ := mem_drafts.1 hspec
  have hself : d' = d := List.inj_on_of_nodup_map hnames hd' hd hname
  rw [hself] at hne ⊢
  exact ⟨hne, rfl⟩

/-- Where names are distinct, at most one rule is found under a name. -/
theorem filter_name_of_nodup (hnamed : (rules.map (·.name)).Nodup) (name : String) :
    rules.filter (·.name = name) = [] ∨
      ∃ r ∈ rules, r.name = name ∧ rules.filter (·.name = name) = [r] := by
  cases hfound : rules.filter (·.name = name) with
  | nil => exact .inl rfl
  | cons r rest =>
    have hr : r ∈ rules.filter (·.name = name) := hfound ▸ List.mem_cons_self
    obtain ⟨hmem, hname⟩ := List.mem_filter.1 hr
    -- A second rule of the name would be the first one again.
    have hrest : rest = [] := by
      refine List.eq_nil_iff_forall_not_mem.2 fun r' hr' => ?_
      have hmem' : r' ∈ rules.filter (·.name = name) := hfound ▸ List.mem_cons_of_mem _ hr'
      obtain ⟨hr'mem, hname'⟩ := List.mem_filter.1 hmem'
      have hsame : r'.name = r.name :=
        (of_decide_eq_true hname').trans (of_decide_eq_true hname).symm
      have hself : r' = r := List.inj_on_of_nodup_map hnamed hr'mem hmem hsame
      have hnodup : (r :: rest).Nodup := by
        rw [← hfound]
        exact (List.Nodup.of_map _ hnamed).filter _
      rw [hself] at hr'
      exact (List.nodup_cons.1 hnodup).1 hr'
    rw [hrest]
    exact .inr ⟨r, hmem, of_decide_eq_true hname, rfl⟩

/-- The rules are the drafts, if they are drafts and every desired rule is there. -/
theorem perm_drafts (hnames : (ds.map (·.name)).Nodup) (hnodup : rules.Nodup)
    (hdrafted : Drafted ds rules) (hall : ∀ d ∈ ds, HasRule rules d.name d.subnets) :
    (rules.map (·.toRuleSpec)).Perm (drafts ds) := by
  have hdrafts : (drafts ds).Nodup := by
    refine List.Nodup.map_on (fun d hd d' hd' heq => ?_) ((List.Nodup.of_map _ hnames).filter _)
    exact List.inj_on_of_nodup_map hnames (List.mem_of_mem_filter hd) (List.mem_of_mem_filter hd')
      (congrArg RuleSpec.name heq)
  -- Under the name of a draft there is one rule.
  have hone : ∀ r ∈ rules, rules.filter (·.name = r.name) = [r] := by
    intro r hr
    obtain ⟨d, hd, hne, hsent⟩ := mem_drafts.1 (hdrafted r hr)
    have hhas := hall d hd
    rw [HasRule, if_neg hne] at hhas
    obtain ⟨r', hr', _⟩ := hhas
    have hname : d.name = r.name := congrArg RuleSpec.name hsent
    rw [hname] at hr'
    have hmem : r ∈ rules.filter (·.name = r.name) := List.mem_filter.2 ⟨hr, decide_eq_true rfl⟩
    rw [hr', List.mem_singleton] at hmem
    rw [hr', hmem]
  have hrules : (rules.map (·.toRuleSpec)).Nodup := by
    refine List.Nodup.map_on (fun r hr r' hr' heq => ?_) hnodup
    have hname : r'.name = r.name := congrArg RuleSpec.name heq.symm
    have hmem : r' ∈ rules.filter (·.name = r.name) :=
      List.mem_filter.2 ⟨hr', decide_eq_true hname⟩
    rw [hone r hr, List.mem_singleton] at hmem
    exact hmem.symm
  refine (List.perm_ext_iff_of_nodup hrules hdrafts).2 fun spec =>
    ⟨fun hspec => ?_, fun hspec => ?_⟩
  · obtain ⟨r, hr, rfl⟩ := List.mem_map.1 hspec
    exact hdrafted r hr
  · obtain ⟨d, hd, hne, rfl⟩ := mem_drafts.1 hspec
    have hhas := hall d hd
    rw [HasRule, if_neg hne] at hhas
    obtain ⟨r, hr, _⟩ := hhas
    have hmem : r ∈ rules := List.mem_of_mem_filter (hr ▸ List.mem_singleton_self r)
    have hname : r.name = d.name := name_eq_of_filter hr
    rw [← (eq_sent_of_mem_drafts hnames hd (hdrafted r hmem) hname).2]
    exact List.mem_map_of_mem hmem

/-! ## Making one -/

/-- The indices of desired rules are within the bounds. -/
theorem index_of_desiredOn {s : Scope} (hd : d ∈ desiredOn s c) :
    0 ≤ d.index ∧ d.index ≤ RuleSpec.maxIndex := by
  unfold desiredOn at hd
  simp only [List.mem_cons, List.not_mem_nil, or_false] at hd
  have hmax : (0 : Int) ≤ RuleSpec.maxIndex := by decide
  rcases hd with rfl | rfl | rfl
  · exact ⟨Int.le_refl 0, hmax⟩
  · exact ⟨Int.le_refl 0, hmax⟩
  · exact ⟨hmax, Int.le_refl _⟩

/-- A rule whose index is in range is sent as it is wanted. -/
theorem specified_checked {name : String} {index : Int} {action : RuleAction}
    {subnets : List String} (hlow : 0 ≤ index) (hhigh : index ≤ RuleSpec.maxIndex) :
    Site.specified (RuleSpec.checked name index action subnets) =
      .ok { name, index, action, subnets } := by
  unfold RuleSpec.checked RuleSpec.checkIndex Schema.between
  rw [if_neg (Int.not_lt.2 hlow), if_neg (Int.not_lt.2 hhigh)]
  rfl

/-- A rule that is to be at an index in range is added to the rules, under a new id. -/
theorem createRule_returns (hf : f ∈ c.frontends) (hzone : f.zone ∈ s.zones)
    (hlow : 0 ≤ d.index) (hhigh : d.index ≤ RuleSpec.maxIndex) :
    (s.createRule f.zone f.id d.name d.index d.action d.subnets).Returns c
      ⟨sent d, numbered "acl" c.nextId, f.id⟩
      { c with
        rules := c.rules ++ [⟨sent d, numbered "acl" c.nextId, f.id⟩]
        nextId := c.nextId + 1 } := by
  have hspec : Site.specified (RuleSpec.checked d.name d.index d.action d.subnets) =
      .ok (sent d) := specified_checked hlow hhigh
  refine returns_bind.2 ⟨(), c, Site.checkZone_returns.2 ⟨hzone, rfl⟩, ?_⟩
  exact returns_bind.2 ⟨sent d, c, returns_ofExcept.2 ⟨hspec, rfl⟩,
    returns_request.2 (Cloud.createRule_succeeds ⟨f, hf, rfl⟩)⟩

/-- Creating a rule is one request. -/
theorem createRule_changesLast {zone frontendId name : String} {index : Int} {action : RuleAction}
    {subnets : List String} :
    (s.createRule zone frontendId name index action subnets).ChangesLast :=
  ReadOnly.changesLast_bind Site.checkZone_orderly fun _ =>
    ReadOnly.changesLast_bind (orderly_ofExcept _) fun _ => changesLast_request _

/-- Updating a rule is one request. -/
theorem updateRule_changesLast {zone ruleId name : String} {index : Int} {action : RuleAction}
    {subnets : List String} :
    (s.updateRule zone ruleId name index action subnets).ChangesLast :=
  ReadOnly.changesLast_bind Site.checkZone_orderly fun _ =>
    ReadOnly.changesLast_bind (orderly_ofExcept _) fun _ => changesLast_request _

/-- Ensuring a rule changes the cloud with its last request, if at all. -/
theorem ensureRule_changesLast : (ensureRule s f d).ChangesLast := by
  obtain ⟨step, heq, hstep⟩ := ensureRule_steps s f d
  rw [heq]
  refine Site.findRule_readOnly.orNone.changesLast_bind fun existing => ?_
  cases hstep existing with
  | removed r _ hp => exact hp ▸ Site.changesLast_in_zone _
  | absent _ hp | kept _ _ _ hp => exact hp ▸ trivial
  | created _ hp => exact hp ▸ createRule_changesLast.map _
  | replaced r _ _ hp => exact hp ▸ updateRule_changesLast.map _

/-- Where the rules are drafts with distinct names, ensuring a desired one does nothing or makes
it. -/
theorem ensureRule_drafts (hf : f ∈ c.frontends) (hzone : f.zone ∈ s.zones)
    (hnames : (ds.map (·.name)).Nodup)
    (hdrafted : Drafted ds (rulesOf c f.id)) (hnamed : ((rulesOf c f.id).map (·.name)).Nodup)
    (hd : d ∈ ds) (hlow : 0 ≤ d.index) (hhigh : d.index ≤ RuleSpec.maxIndex) :
    ∃ c', (ensureRule s f d).Returns c () c' ∧
      (c' = c ∨ (d.subnets ≠ [] ∧ (rulesOf c f.id).filter (·.name = d.name) = [] ∧
        c' = { c with
          rules := c.rules ++ [⟨sent d, numbered "acl" c.nextId, f.id⟩]
          nextId := c.nextId + 1 })) := by
  rcases filter_name_of_nodup hnamed d.name with hnone | ⟨r, hr, hname, hone⟩
  · -- No rule has the name: it is created if subnets are desired.
    by_cases hsubnets : d.subnets = []
    · have hhas : HasRule (rulesOf c f.id) d.name d.subnets := by
        rw [HasRule, if_pos hsubnets]
        exact hnone
      exact ⟨c, (ensureRule_idles hzone hhas).returns, .inl rfl⟩
    · have hfind : (s.findRule f.zone f.id d.name).orNone.Returns c none c := by
        refine Site.findRule_returns.2 ⟨hzone, ?_, rfl⟩
        rw [← List.filter_filter]
        exact hnone
      refine ⟨_, ?_, .inr ⟨hsubnets, hnone, rfl⟩⟩
      obtain ⟨step, heq, hstep⟩ := ensureRule_steps s f d
      rw [heq]
      refine returns_bind.2 ⟨none, c, hfind, ?_⟩
      cases hstep none with
      | absent hnil _ => exact absurd hnil hsubnets
      | created _ hp => exact hp ▸ returns_discard.2 ⟨_, createRule_returns hf hzone hlow hhigh⟩
  · -- The one rule of the name is a draft, and so it already says what would be sent.
    obtain ⟨hne, hspec⟩ := eq_sent_of_mem_drafts hnames hd (hdrafted r hr) hname
    have hhas : HasRule (rulesOf c f.id) d.name d.subnets := by
      rw [HasRule, if_neg hne]
      refine ⟨r, hone, ?_⟩
      have hsubnets : r.subnets = d.subnets := congrArg RuleSpec.subnets hspec
      rw [hsubnets]
    exact ⟨c, (ensureRule_idles hzone hhas).returns, .inl rfl⟩

end Access

end ControlPlane
