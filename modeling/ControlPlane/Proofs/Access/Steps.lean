import ControlPlane.Access.Sync
import ControlPlane.Proofs.Access.Comparison
import ControlPlane.Proofs.Provider.Walks

/-!
# The steps of syncing rules

What is done about one rule depends on the rule that is found under its name, and what is done about
a copy on the rules that are listed. `RuleStep` and `CopyStep` say what follows each finding, and
when; `ensureRule_steps` and `copyTo_steps` say that nothing else does. The rules and the copies of
a frontend map are walks through lists of these (`ensureRules_eq`, `copyRules_eq`). Whatever is
proved of syncing is proved along these steps.
-/

namespace ControlPlane

open Program hiding ofExcept

namespace Access

/-- The programs that ensuring a rule goes on with, by the rule that was found. -/
inductive RuleStep (s : Site) (f : Frontend) (d : DesiredRule) (p : Program Unit) :
    (found : Option Rule) → Prop
  | removed (r : Rule) (hnone : d.subnets = []) (hp : p = s.deleteRule f.zone r.id) :
    RuleStep s f d p (some r)
  | absent (hnone : d.subnets = []) (hp : p = done ()) : RuleStep s f d p none
  | created (hsome : d.subnets ≠ [])
    (hp : p = discard (s.createRule f.zone f.id d.name d.index d.action d.subnets)) :
    RuleStep s f d p none
  | kept (r : Rule) (hsome : d.subnets ≠ []) (hsame : r.subnets.Perm d.subnets) (hp : p = done ()) :
    RuleStep s f d p (some r)
  | replaced (r : Rule) (hsome : d.subnets ≠ []) (hdiffer : ¬r.subnets.Perm d.subnets)
    (hp : p = discard (s.updateRule f.zone r.id d.name d.index d.action d.subnets)) :
    RuleStep s f d p (some r)

/-- Ensuring a rule looks for it and then takes one step. -/
theorem ensureRule_steps (s : Site) (f : Frontend) (d : DesiredRule) :
    ∃ step : Option Rule → Program Unit,
      ensureRule s f d = (s.findRule f.zone f.id d.name).orNone >>= step ∧
        ∀ found, RuleStep s f d (step found) found := by
  refine ⟨_, rfl, fun found => ?_⟩
  split
  · next r hnone => exact .removed r hnone rfl
  · next hnone => exact .absent hnone rfl
  · next hsome => exact .created hsome rfl
  · next r hsome =>
    split
    · next hsame => exact .kept r hsome (sameTexts_iff.1 hsame).symm rfl
    · next hdiffer =>
      exact .replaced r hsome (fun hperm => hdiffer (sameTexts_iff.2 hperm.symm)) rfl

/-- Rules are ensured one after the other. -/
theorem ensureRules_eq (s : Site) (f : Frontend) (ds : List DesiredRule) :
    ensureRules s f ds = ds.forM (ensureRule s f) := by
  induction ds with
  | nil => rfl
  | cons d rest ih => exact congrArg (ensureRule s f d >>= fun _ => ·) ih

/-- The programs that copying rules to a frontend goes on with, by the rules that it has. -/
inductive CopyStep (s : Site) (rules : List Rule) (f : Frontend) (others : List Rule)
    (p : Program Unit) : Prop
  | agreed (hsame : RuleSpec.sameRules (rules.map (·.toRuleSpec)) (others.map (·.toRuleSpec)) = true)
    (hp : p = done ())
  | copied
    (hdiffer : ¬RuleSpec.sameRules (rules.map (·.toRuleSpec)) (others.map (·.toRuleSpec)) = true)
    (hp : p = discard (s.setRules f.zone f.id (rules.map (·.toRuleSpec))))

/-- Copying rules to a frontend lists its own and then takes one step. -/
theorem copyTo_steps (s : Site) (rules : List Rule) (f : Frontend) :
    ∃ step : List Rule → Program Unit, copyTo s rules f = s.listRules f.zone f.id >>= step ∧
      ∀ others, CopyStep s rules f others (step others) := by
  refine ⟨_, rfl, fun others => ?_⟩
  split
  · next hsame => exact .agreed hsame rfl
  · next hdiffer => exact .copied hdiffer rfl

/-- Rules are copied to all frontends but those of one load balancer, one after the other. -/
theorem copyRules_eq (s : Site) (primaryId : String) (rules : List Rule) (m : FrontendMap) :
    copyRules s primaryId rules m =
      (m.filter (·.1 ≠ primaryId)).forM fun e => copyTo s rules e.2 := by
  induction m with
  | nil => rfl
  | cons e rest ih =>
    unfold copyRules
    rw [ih]
    by_cases h : e.1 ≠ primaryId
    · rw [List.filter_cons_of_pos (by simpa using h)]
      exact if_pos h
    · rw [List.filter_cons_of_neg (by simpa using h)]
      exact if_neg h

/-- The programs that copying the rules of the primary is, by the frontends that there are. -/
inductive SpreadStep (s : Site) (primaryId : String) (f : Frontend) (m : FrontendMap)
    (p : Program Unit) : Prop
  | alone (hone : ¬1 < m.length) (hp : p = done ())
  | copied (hmore : 1 < m.length)
    (hp : p = s.listRules f.zone f.id >>= fun rules => copyRules s primaryId rules m)

/-- Copying the rules of the primary takes one step. -/
theorem spread_steps (s : Site) (primaryId : String) (f : Frontend) (m : FrontendMap) :
    SpreadStep s primaryId f m (spread s primaryId f m) := by
  by_cases hmore : 1 < m.length
  · exact .copied hmore (if_pos hmore)
  · exact .alone hmore (if_neg hmore)

section

variable {s : Scope} {primaryId : String} {m : FrontendMap}

/-- Rules cannot be synced without a frontend of the primary. -/
theorem sync_of_none (h : m.lookup primaryId = none) :
    sync s primaryId m = fail (.ofFault ⟨.missingKey, .absentKey primaryId⟩) := by
  unfold sync
  rw [h]

/-- The rules of the primary are ensured before they are copied. -/
theorem sync_of_some {f : Frontend} (h : m.lookup primaryId = some f) :
    sync s primaryId m = desiredRules s >>= fun desired =>
      ensureRules s.site f desired >>= fun _ => spread s.site primaryId f m := by
  unfold sync
  rw [h]

end

end Access

end ControlPlane
