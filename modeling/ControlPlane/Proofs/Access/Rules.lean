import ControlPlane.Proofs.Access.Steps
import ControlPlane.Proofs.Cloud.Effects
import ControlPlane.Proofs.Ensure.Targets
import ControlPlane.Proofs.Provider.Operations

/-!
# What syncing rules leaves

`HasRule` says that a frontend has a rule under a name exactly if there are subnets for it, and then
one with these. Ensuring a rule establishes that and leaves the rules of all other names alone, so
rules of distinct names can be ensured one after the other (`ensureRules_spec`).

Copying passes over a frontend whose rules are found the same as the given ones, and gives them to
any other. Rules that are found the same are never touched again (`copyRules_spec`): those of the
primary's frontend, which are the ones that are copied, are among them.
-/

namespace ControlPlane

open Program hiding ofExcept

/-- A request to look something up, or to change rules. -/
def Request.IsRule : Request → Prop
  | .createRule .. | .updateRule .. | .deleteRule .. | .setRules .. => True
  | r => r.isMutation = false

namespace Access

variable {c c' : Cloud} {f : Frontend}

/-- The rules of a frontend. -/
def rulesOf (c : Cloud) (frontendId : String) : List Rule :=
  c.rules.filter (·.frontendId = frontendId)

/-- Among some rules there is one with a name exactly if there are subnets, and then it has
these. -/
def HasRule (rules : List Rule) (name : String) (subnets : List String) : Prop :=
  if subnets = [] then rules.filter (·.name = name) = []
  else ∃ r, rules.filter (·.name = name) = [r] ∧ r.subnets.Perm subnets

/-- The rules of one name are told by those that are not of another name. -/
theorem filter_name_of_others {rules rules' : List Rule} {name name' : String} (hne : name ≠ name')
    (hothers : rules'.filter (·.name ≠ name') = rules.filter (·.name ≠ name')) :
    rules'.filter (·.name = name) = rules.filter (·.name = name) := by
  have hsplit : ∀ rules : List Rule, rules.filter (·.name = name) =
      (rules.filter (·.name ≠ name')).filter (·.name = name) := by
    intro rules
    rw [List.filter_filter]
    apply List.filter_congr
    intro r _
    by_cases hr : r.name = name
    · simp [hr, hne]
    · simp [hr]
  rw [hsplit rules', hothers, ← hsplit rules]

/-- A rule of one name does not depend on the rules of another. -/
theorem HasRule.of_others {rules rules' : List Rule} {name name' : String}
    {subnets : List String} (h : HasRule rules name subnets) (hne : name ≠ name')
    (hothers : rules'.filter (·.name ≠ name') = rules.filter (·.name ≠ name')) :
    HasRule rules' name subnets := by
  unfold HasRule at h ⊢
  rw [filter_name_of_others hne hothers]
  exact h

/-! ## One rule -/

/-- A look-up is a request of the rules phase. -/
theorem isRule_of_lookup (r : Request) (h : r.isMutation = false) : r.IsRule := by
  cases r <;> first
    | exact trivial
    | exact h

section

variable {s : Site} {d : DesiredRule}

/-- Creating a rule changes rules only. -/
theorem createRule_orderly {zone frontendId name : String} {index : Int} {action : RuleAction}
    {subnets : List String} :
    (s.createRule zone frontendId name index action subnets).Orderly Request.IsRule :=
  Site.orderly_in_zone ((orderly_ofExcept _).bind fun _ => orderly_request trivial)

/-- Updating a rule changes rules only. -/
theorem updateRule_orderly {zone ruleId name : String} {index : Int} {action : RuleAction}
    {subnets : List String} :
    (s.updateRule zone ruleId name index action subnets).Orderly Request.IsRule :=
  Site.orderly_in_zone ((orderly_ofExcept _).bind fun _ => orderly_request trivial)

/-- Ensuring a rule changes rules only. -/
theorem ensureRule_orderly : (ensureRule s f d).Orderly Request.IsRule := by
  obtain ⟨step, heq, hstep⟩ := ensureRule_steps s f d
  rw [heq]
  refine (Site.findRule_readOnly.orNone.mono isRule_of_lookup).bind fun found => ?_
  cases hstep found with
  | removed r _ hp => exact hp ▸ Site.orderly_in_zone (orderly_request trivial)
  | created _ hp => exact hp ▸ createRule_orderly.discard
  | replaced r _ _ hp => exact hp ▸ updateRule_orderly.discard
  | absent _ hp | kept _ _ _ hp => exact hp ▸ trivial

/-- What a desired rule says when it is sent. -/
def sent (d : DesiredRule) : RuleSpec :=
  { name := d.name, index := d.index, action := d.action, subnets := d.subnets }

/-- The rule that is sent says what is desired. -/
theorem specified_eq_ok {name : String} {index : Int} {action : RuleAction}
    {subnets : List String} {spec : RuleSpec}
    (h : Site.specified (RuleSpec.checked name index action subnets) = .ok spec) :
    spec = { name, index, action, subnets } := by
  unfold RuleSpec.checked RuleSpec.checkIndex Schema.between at h
  split at h
  · cases h
  · split at h
    · cases h
    · cases h
      rfl

/-- A request with what is desired is sent in a zone of the region. -/
theorem specified_returns {zone name : String} {index : Int} {action : RuleAction}
    {subnets : List String} {request : RuleSpec → Program Rule} {r : Rule}
    (h : (s.checkZone zone >>= fun _ =>
      .ofExcept (Site.specified (RuleSpec.checked name index action subnets)) >>= request).Returns
        c r c') :
    (request { name, index, action, subnets }).Returns c r c' := by
  obtain ⟨_, c1, hzone, hrest⟩ := returns_bind.1 h
  obtain ⟨spec, c2, hspec, hrequest⟩ := returns_bind.1 hrest
  obtain ⟨hok, hc2⟩ := returns_ofExcept.1 hspec
  rw [hc2, (Site.checkZone_returns.1 hzone).2, specified_eq_ok hok] at hrequest
  exact hrequest

/-- What ensuring a rule leaves of the rules of its frontend, by what there was under its name. -/
theorem ensureRule_cases {u : Unit} (h : (ensureRule s f d).Returns c u c') :
    f.zone ∈ s.zones ∧
    ((HasRule (rulesOf c f.id) d.name d.subnets ∧ c' = c) ∨
    (d.subnets ≠ [] ∧ (rulesOf c f.id).filter (·.name = d.name) = [] ∧
      ∃ id, c' = { c with
        rules := c.rules ++ [⟨sent d, id, f.id⟩]
        nextId := c'.nextId }) ∨
    ∃ r, (rulesOf c f.id).filter (·.name = d.name) = [r] ∧
      ((d.subnets = [] ∧ c' = { c with rules := c.rules.filter (·.id ≠ r.id) }) ∨
      (d.subnets ≠ [] ∧ ¬r.subnets.Perm d.subnets ∧ c' = { c with rules := c.rules.map fun r' =>
        if r'.id = r.id then { r' with toRuleSpec := sent d } else r' }))) := by
  obtain ⟨step, heq, hstep⟩ := ensureRule_steps s f d
  rw [heq] at h
  -- What is found decides, and the look-up leaves the cloud as it is.
  obtain ⟨found, c1, hfind, hrest⟩ := returns_bind.1 h
  obtain ⟨hzone, hfilter, rfl⟩ := Site.findRule_returns.1 hfind
  rw [← List.filter_filter] at hfilter
  refine ⟨hzone, ?_⟩
  cases hstep found with
  | removed r hnone hp =>
    rw [hp] at hrest
    have hanswer := (Site.change_returns.1 hrest).2
    exact .inr (.inr ⟨r, hfilter, .inl ⟨hnone, Cloud.deleteRule_effect hanswer⟩⟩)
  | absent hnone hp =>
    rw [hp] at hrest
    refine .inl ⟨?_, (returns_done.1 hrest).2⟩
    rw [HasRule, if_pos hnone]
    exact hfilter
  | created hsome hp =>
    rw [hp] at hrest
    obtain ⟨r, hcreate⟩ := returns_discard.1 hrest
    have hanswer := returns_request.1 (specified_returns hcreate)
    obtain ⟨_, rfl, rfl⟩ := Cloud.createRule_effect hanswer
    exact .inr (.inl ⟨hsome, hfilter, _, rfl⟩)
  | kept r hsome hsame hp =>
    rw [hp] at hrest
    refine .inl ⟨?_, (returns_done.1 hrest).2⟩
    rw [HasRule, if_neg hsome]
    exact ⟨r, hfilter, hsame⟩
  | replaced r hsome hdiffer hp =>
    rw [hp] at hrest
    obtain ⟨r', hupdate⟩ := returns_discard.1 hrest
    have hanswer := returns_request.1 (specified_returns hupdate)
    exact .inr (.inr ⟨r, hfilter, .inr ⟨hsome, hdiffer, Cloud.updateRule_effect hanswer⟩⟩)

/-- Filters can be swapped. -/
theorem filter_comm {α : Type} (items : List α) (p q : α → Bool) :
    (items.filter p).filter q = (items.filter q).filter p := by
  rw [List.filter_filter, List.filter_filter]
  exact List.filter_congr fun _ _ => Bool.and_comm _ _

/-- The rule that is found under a name is the only one of its frontend with its id. -/
theorem eq_of_id_eq (hc : c.Sound) {r r' : Rule} {name frontendId : String}
    (hr : (rulesOf c frontendId).filter (·.name = name) = [r]) (hr' : r' ∈ rulesOf c frontendId)
    (hid : r'.id = r.id) : r' = r := by
  have hrmem := List.mem_singleton_self r
  rw [← hr] at hrmem
  have hmem : r ∈ c.rules := List.mem_of_mem_filter (List.mem_of_mem_filter hrmem)
  have hmem' : r' ∈ c.rules := List.mem_of_mem_filter hr'
  exact hc.rules.inj hmem' hmem hid

/-- A rule that is found by its name has that name. -/
theorem name_eq_of_filter {rules : List Rule} {r : Rule} {name : String}
    (hr : rules.filter (·.name = name) = [r]) : r.name = name := by
  have hrmem := List.mem_singleton_self r
  rw [← hr, List.mem_filter, decide_eq_true_eq] at hrmem
  exact hrmem.2

/-- Deleting the only rule of a name by its id. -/
theorem rules_of_delete (hc : c.Sound) {r : Rule} {name frontendId : String}
    (hr : (rulesOf c frontendId).filter (·.name = name) = [r])
    (hc' : c' = { c with rules := c.rules.filter (·.id ≠ r.id) }) :
    (rulesOf c' frontendId).filter (·.name = name) = [] ∧
      (rulesOf c' frontendId).filter (·.name ≠ name) =
        (rulesOf c frontendId).filter (·.name ≠ name) := by
  have hrules : rulesOf c' frontendId = (rulesOf c frontendId).filter (·.id ≠ r.id) := by
    rw [hc']
    exact filter_comm _ _ _
  constructor
  · rw [hrules, filter_comm, hr]
    simp
  -- A rule of another name has another id.
  · rw [hrules, filter_comm]
    apply List.filter_eq_self.2
    intro r' hr'
    rw [List.mem_filter, decide_eq_true_eq] at hr'
    rw [decide_eq_true_eq]
    intro hid
    have hself : r' = r := eq_of_id_eq hc hr hr'.1 hid
    rw [hself] at hr'
    exact hr'.2 (name_eq_of_filter hr)

/-- Replacing what the only rule of a name says, by its id, under the same name. -/
theorem rules_of_update (hc : c.Sound) {r : Rule} {spec : RuleSpec} {frontendId : String}
    (hr : (rulesOf c frontendId).filter (·.name = spec.name) = [r])
    (hc' : c' = { c with rules := c.rules.map fun r' =>
      if r'.id = r.id then { r' with toRuleSpec := spec } else r' }) :
    (rulesOf c' frontendId).filter (·.name = spec.name) = [{ r with toRuleSpec := spec }] ∧
      (rulesOf c' frontendId).filter (·.name ≠ spec.name) =
        (rulesOf c frontendId).filter (·.name ≠ spec.name) := by
  let change (r' : Rule) : Rule := if r'.id = r.id then { r' with toRuleSpec := spec } else r'
  -- The update keeps rules on their frontends, and under their names.
  have hrules : rulesOf c' frontendId = (rulesOf c frontendId).map change := by
    rw [hc']
    unfold rulesOf
    rw [List.filter_map]
    refine congrArg _ (List.filter_congr fun r' _ => ?_)
    show decide ((change r').frontendId = frontendId) = _
    unfold change
    split <;> rfl
  have hname : ∀ r' ∈ rulesOf c frontendId, (change r').name = r'.name := by
    intro r' hr'
    unfold change
    split
    · next hid =>
      have hself : r' = r := eq_of_id_eq hc hr hr' hid
      rw [hself]
      exact (name_eq_of_filter hr).symm
    · rfl
  rw [hrules]
  constructor
  · -- The only rule of the name is the one with the id.
    have hfilter : (rulesOf c frontendId).filter
        ((fun r' : Rule => decide (r'.name = spec.name)) ∘ change) = [r] := by
      refine Eq.trans (List.filter_congr fun r' hr' => ?_) hr
      show decide ((change r').name = spec.name) = _
      rw [hname r' hr']
    rw [List.filter_map, hfilter]
    exact congrArg (fun r' => [r']) (if_pos rfl)
  · -- A rule of another name has another id, and is left as it is.
    refine Cloud.filter_map_of_fixed (fun r' hr' => ?_) fun r' hr' hne => ?_
    · rw [hname r' hr']
    · rw [decide_eq_true_eq] at hne
      refine if_neg fun hid => hne ?_
      have hself : r' = r := eq_of_id_eq hc hr hr' hid
      rw [hself]
      exact name_eq_of_filter hr

/-- Adding a rule where there is none of its name. -/
theorem rules_of_create {spec : RuleSpec} {id frontendId : String} {next : Nat}
    (hnone : (rulesOf c frontendId).filter (·.name = spec.name) = [])
    (hc' : c' = { c with rules := c.rules ++ [⟨spec, id, frontendId⟩], nextId := next }) :
    (rulesOf c' frontendId).filter (·.name = spec.name) = [⟨spec, id, frontendId⟩] ∧
      (rulesOf c' frontendId).filter (·.name ≠ spec.name) =
        (rulesOf c frontendId).filter (·.name ≠ spec.name) := by
  have hrules : rulesOf c' frontendId = rulesOf c frontendId ++ [⟨spec, id, frontendId⟩] := by
    rw [hc']
    unfold rulesOf
    rw [List.filter_append]
    simp
  rw [hrules, List.filter_append, List.filter_append, hnone]
  simp

/-- Ensuring a rule leaves it as desired, and the rules of all other names of its frontend as they
were. -/
theorem ensureRule_spec {u : Unit} (hc : c.Sound) (h : (ensureRule s f d).Returns c u c') :
    f.zone ∈ s.zones ∧ HasRule (rulesOf c' f.id) d.name d.subnets ∧
      (rulesOf c' f.id).filter (·.name ≠ d.name) = (rulesOf c f.id).filter (·.name ≠ d.name) := by
  obtain ⟨hzone, hcases⟩ := ensureRule_cases h
  refine ⟨hzone, ?_⟩
  rcases hcases with ⟨hhas, rfl⟩ | ⟨hne, hnone, id, hc'⟩ | ⟨r, hr, ⟨hnil, hc'⟩ | ⟨hne, _, hc'⟩⟩
  · exact ⟨hhas, rfl⟩
  · -- There is no such rule, and one is created.
    have hnone' : (rulesOf c f.id).filter (·.name = (sent d).name) = [] := hnone
    obtain ⟨hmade, hothers⟩ := rules_of_create hnone' hc'
    refine ⟨?_, hothers⟩
    rw [HasRule, if_neg hne]
    exact ⟨_, hmade, List.Perm.refl _⟩
  · -- No subnets are desired, and the rule goes.
    obtain ⟨hgone, hothers⟩ := rules_of_delete hc hr hc'
    refine ⟨?_, hothers⟩
    rw [HasRule, if_pos hnil]
    exact hgone
  · -- Its subnets differ, and it is updated in place.
    have hr' : (rulesOf c f.id).filter (·.name = (sent d).name) = [r] := hr
    obtain ⟨hchanged, hothers⟩ := rules_of_update hc hr' hc'
    refine ⟨?_, hothers⟩
    rw [HasRule, if_neg hne]
    exact ⟨_, hchanged, List.Perm.refl _⟩

/-! ## Several rules of one frontend -/

/-- Ensuring several rules changes rules only. -/
theorem ensureRules_orderly {ds : List DesiredRule} :
    (ensureRules s f ds).Orderly Request.IsRule := by
  rw [ensureRules_eq]
  exact (orderly_closed Request.IsRule).forM fun d _ => ensureRule_orderly

/-- Rules with none of some names are filtered one name after the other. -/
theorem filter_not_mem_cons (name : String) (names : List String) (rules : List Rule) :
    rules.filter (·.name ∉ name :: names) =
      (rules.filter (·.name ≠ name)).filter (·.name ∉ names) := by
  rw [List.filter_filter]
  apply List.filter_congr
  intro r _
  simp [Bool.and_comm]

/-- Ensuring rules of distinct names leaves each of them as desired, and the rules of all other
names of their frontend as they were. -/
theorem ensureRules_spec {ds : List DesiredRule} {u : Unit} (hc : c.Sound)
    (hnames : (ds.map (·.name)).Nodup) (h : (ensureRules s f ds).Returns c u c') :
    (∀ d ∈ ds, f.zone ∈ s.zones ∧ HasRule (rulesOf c' f.id) d.name d.subnets) ∧
      (rulesOf c' f.id).filter (·.name ∉ ds.map (·.name)) =
        (rulesOf c f.id).filter (·.name ∉ ds.map (·.name)) ∧
      ∀ name subnets, name ∉ ds.map (·.name) → HasRule (rulesOf c f.id) name subnets →
        HasRule (rulesOf c' f.id) name subnets := by
  rw [ensureRules_eq] at h
  induction ds generalizing c with
  | nil =>
    obtain ⟨_, rfl⟩ := returns_done.1 h
    exact ⟨nofun, rfl, fun _ _ _ hrule => hrule⟩
  | cons d rest ih =>
    obtain ⟨_, c1, hd, hrest⟩ := returns_bind.1 h
    rw [List.map_cons, List.nodup_cons] at hnames
    -- The first rule is of another name than those that come after it.
    obtain ⟨hzone, hrule, hothers⟩ := ensureRule_spec hc hd
    obtain ⟨hrules, hothers', hkeep⟩ := ih (hc.returns hd) hnames.2 hrest
    refine ⟨?_, ?_, fun name subnets hname hrule' => ?_⟩
    · rintro d' (_ | ⟨_, hd'⟩)
      · exact ⟨hzone, hkeep _ _ hnames.1 hrule⟩
      · exact hrules d' hd'
    -- The rules of neither name are among those that each of the two parts leaves alone.
    · have hsplit : ∀ rules : List Rule, rules.filter (·.name ∉ (d :: rest).map (·.name)) =
          (rules.filter (·.name ≠ d.name)).filter (·.name ∉ rest.map (·.name)) :=
        filter_not_mem_cons d.name _
      calc (rulesOf c' f.id).filter (·.name ∉ (d :: rest).map (·.name))
          = ((rulesOf c' f.id).filter (·.name ∉ rest.map (·.name))).filter (·.name ≠ d.name) := by
            rw [hsplit, filter_comm]
        _ = ((rulesOf c1 f.id).filter (·.name ∉ rest.map (·.name))).filter (·.name ≠ d.name) := by
            rw [hothers']
        _ = ((rulesOf c1 f.id).filter (·.name ≠ d.name)).filter (·.name ∉ rest.map (·.name)) :=
            filter_comm _ _ _
        _ = ((rulesOf c f.id).filter (·.name ≠ d.name)).filter (·.name ∉ rest.map (·.name)) := by
            rw [hothers]
        _ = (rulesOf c f.id).filter (·.name ∉ (d :: rest).map (·.name)) := (hsplit _).symm
    · rw [List.map_cons, List.mem_cons, not_or] at hname
      exact hkeep _ _ hname.2 (hrule'.of_others hname.1 hothers)

/-! ## Copies -/

section

variable {primaryId : String} {rules : List Rule}

/-- The rules of a frontend are found the same as the given ones. -/
def Agree (rules : List Rule) (c : Cloud) (frontendId : String) : Prop :=
  RuleSpec.sameRules (rules.map (·.toRuleSpec))
    ((rulesOf c frontendId).map (·.toRuleSpec)) = true

/-- Copying rules to a frontend changes rules only. -/
theorem copyTo_orderly {g : Frontend} : (copyTo s rules g).Orderly Request.IsRule := by
  obtain ⟨step, heq, hstep⟩ := copyTo_steps s rules g
  rw [heq]
  refine (Site.listRules_readOnly.mono isRule_of_lookup).bind fun others => ?_
  cases hstep others with
  | agreed _ hp => exact hp ▸ trivial
  | copied _ hp => exact hp ▸ (Site.orderly_in_zone (orderly_request trivial)).discard

/-- Copying rules to all frontends but the primary's changes rules only. -/
theorem copyRules_orderly {m : FrontendMap} :
    (copyRules s primaryId rules m).Orderly Request.IsRule := by
  rw [copyRules_eq]
  exact (orderly_closed Request.IsRule).forM fun e _ => copyTo_orderly

/-- Replacing the rules of one frontend by the given ones makes them agree, and leaves the rules of
another one alone. -/
theorem rulesOf_replaced {frontendId : String} {new : List Rule} {n : Nat}
    (hnew : ∀ r ∈ new, r.frontendId = frontendId) (id : String) :
    rulesOf { c with
        rules := c.rules.filter (fun r => decide (r.frontendId ≠ frontendId)) ++ new
        nextId := n } id = if id = frontendId then new else rulesOf c id := by
  unfold rulesOf
  rw [List.filter_append, filter_comm]
  split
  -- Its old rules are gone.
  · next hid =>
    subst hid
    have hold : ((c.rules.filter fun r => decide (r.frontendId = id)).filter
        fun r => decide (r.frontendId ≠ id)) = [] := by
      rw [List.filter_filter, List.filter_eq_nil_iff]
      intro r _
      simp
    rw [hold, List.nil_append, List.filter_eq_self]
    exact fun r hr => decide_eq_true (hnew r hr)
  -- None of the new rules is another frontend's.
  · next hid =>
    have hnone : (new.filter fun r => decide (r.frontendId = id)) = [] := by
      rw [List.filter_eq_nil_iff]
      intro r hr
      rw [hnew r hr, decide_eq_true_eq]
      exact Ne.symm hid
    rw [hnone, List.append_nil, List.filter_eq_self]
    intro r hr
    rw [List.mem_filter, decide_eq_true_eq] at hr
    rw [decide_eq_true_eq, hr.2]
    exact hid

/-- Copying rules to a frontend makes its own agree, and leaves those of every frontend alone that
agreed before. -/
theorem copyTo_spec {g : Frontend} {u : Unit} (h : (copyTo s rules g).Returns c u c') :
    g.zone ∈ s.zones ∧ Agree rules c' g.id ∧
      ∀ id, Agree rules c id → rulesOf c' id = rulesOf c id := by
  obtain ⟨step, heq, hstep⟩ := copyTo_steps s rules g
  rw [heq] at h
  obtain ⟨others, c1, hlist, hrest⟩ := returns_bind.1 h
  obtain ⟨hzone, hothers, rfl⟩ := Site.listRules_returns.1 hlist
  refine ⟨hzone, ?_⟩
  cases hstep others with
  | agreed hsame hp =>
    rw [hothers] at hsame
    rw [hp] at hrest
    obtain ⟨_, rfl⟩ := returns_done.1 hrest
    exact ⟨hsame, fun _ _ => rfl⟩
  | copied hdiffer hp =>
    rw [hothers] at hdiffer
    rw [hp] at hrest
    obtain ⟨rs, hset⟩ := returns_discard.1 hrest
    obtain ⟨new, n, rfl, hspecs, hnew⟩ := Cloud.setRules_effect (Site.change_returns.1 hset).2
    constructor
    · rw [Agree, rulesOf_replaced hnew, if_pos rfl, hspecs]
      exact RuleSpec.sameRules_refl _
    · intro id hid
      -- The frontend itself did not agree.
      have hne : id ≠ g.id := by
        rintro rfl
        exact hdiffer hid
      rw [rulesOf_replaced hnew, if_neg hne]

/-- Copying rules makes every other frontend of the map agree; the rules of a frontend that agreed
before are as they were. -/
theorem copyRules_spec {m : FrontendMap} {u : Unit}
    (h : (copyRules s primaryId rules m).Returns c u c') :
    (∀ e ∈ m, e.1 ≠ primaryId → e.2.zone ∈ s.zones ∧ Agree rules c' e.2.id) ∧
      ∀ id, Agree rules c id → rulesOf c' id = rulesOf c id := by
  -- The other frontends are those that the walk goes through.
  suffices hwalk : ∀ {es : FrontendMap} {c : Cloud},
      (es.forM fun e => copyTo s rules e.2).Returns c u c' →
        (∀ e ∈ es, e.2.zone ∈ s.zones ∧ Agree rules c' e.2.id) ∧
          ∀ id, Agree rules c id → rulesOf c' id = rulesOf c id by
    rw [copyRules_eq] at h
    obtain ⟨hagree, hkeep⟩ := hwalk h
    exact ⟨fun e he hne => hagree e (List.mem_filter.2 ⟨he, by simpa using hne⟩), hkeep⟩
  intro es c h
  induction es generalizing c with
  | nil =>
    obtain ⟨_, rfl⟩ := returns_done.1 h
    exact ⟨nofun, fun _ _ => rfl⟩
  | cons e rest ih =>
    obtain ⟨_, c1, hfirst, hrest⟩ := returns_bind.1 h
    obtain ⟨hzone, hsame, hkeep1⟩ := copyTo_spec hfirst
    obtain ⟨hagree, hkeep⟩ := ih hrest
    -- What agrees after the first step is not touched any more.
    have hlater : ∀ {c0 c1 : Cloud} {id : String}, rulesOf c1 id = rulesOf c0 id →
        Agree rules c0 id → Agree rules c1 id := by
      intro c0 c1 id heq hid
      rw [Agree, heq]
      exact hid
    refine ⟨List.forall_mem_cons.2 ⟨⟨hzone, hlater (hkeep _ hsame) hsame⟩, hagree⟩, fun id hid => ?_⟩
    calc rulesOf c' id = rulesOf c1 id := hkeep id (hlater (hkeep1 id hid) hid)
      _ = rulesOf c id := hkeep1 id hid

end

end

/-! ## The whole run -/

section

variable {s : Scope}

/-- The subnets of the cluster's public gateways, which only matter on a private network. -/
def gatewaySubnets (s : Scope) (c : Cloud) : List String :=
  if s.hasPrivateNetwork then
    ((s.site.gatewaysWith (s.tags []) c).filterMap (·.v4)).filter (· ≠ "")
  else []

/-- The rules to have on the primary's frontend. -/
def desiredOn (s : Scope) (c : Cloud) : List DesiredRule :=
  [⟨rangesName, .allow, 0, s.primary.allowedRanges⟩, ⟨gatewayName, .allow, 0, gatewaySubnets s c⟩,
    ⟨denyAllName, .deny, RuleSpec.maxIndex,
      if s.primary.allowedRanges = [] then [] else everywhere⟩]

/-- The names of the rules that are ensured. -/
def ruleNames : List String := [rangesName, gatewayName, denyAllName]

/-- The rules that are desired have the names of those that are ensured. -/
theorem desiredOn_names (s : Scope) (c : Cloud) : (desiredOn s c).map (·.name) = ruleNames := rfl

/-- The rules that are ensured have distinct names. -/
theorem nodup_ruleNames : ruleNames.Nodup := by decide +kernel

/-- No two rules are desired under one name. -/
theorem nodup_desiredOn (s : Scope) (c : Cloud) : ((desiredOn s c).map (·.name)).Nodup :=
  desiredOn_names s c ▸ nodup_ruleNames

/-- Finding out which rules are desired only looks up. -/
theorem desiredRules_readOnly : (desiredRules s).ReadOnly := by
  unfold desiredRules gatewayAddresses
  refine Orderly.bind ?_ fun _ => trivial
  split
  · exact Site.findGateways_readOnly.bind fun _ => trivial
  · trivial

/-- What is found are the subnets of the cluster's gateways. -/
theorem gatewayAddresses_returns {subnets : List String} :
    (gatewayAddresses s).Returns c subnets c' ↔ subnets = gatewaySubnets s c ∧ c' = c := by
  have htags : s.tags [] ≠ [] := List.cons_ne_nil _ _
  unfold gatewayAddresses gatewaySubnets
  split
  · rw [returns_bind]
    constructor
    · rintro ⟨gs, c1, hfind, hdone⟩
      obtain ⟨rfl, rfl⟩ := returns_done.1 hdone
      obtain ⟨rfl, rfl⟩ := (Site.findGateways_returns htags).1 hfind
      exact ⟨rfl, rfl⟩
    · rintro ⟨rfl, rfl⟩
      exact ⟨_, _, (Site.findGateways_returns htags).2 ⟨rfl, rfl⟩, returns_done.2 ⟨rfl, rfl⟩⟩
  · exact returns_done

/-- What is found are the rules that are desired on the cloud. -/
theorem desiredRules_returns {ds : List DesiredRule} :
    (desiredRules s).Returns c ds c' ↔ ds = desiredOn s c ∧ c' = c := by
  unfold desiredRules
  dsimp only
  rw [returns_bind]
  constructor
  · rintro ⟨subnets, c1, hsubnets, hdone⟩
    obtain ⟨rfl, rfl⟩ := returns_done.1 hdone
    obtain ⟨rfl, rfl⟩ := gatewayAddresses_returns.1 hsubnets
    exact ⟨rfl, rfl⟩
  · rintro ⟨rfl, rfl⟩
    exact ⟨_, _, gatewayAddresses_returns.2 ⟨rfl, rfl⟩, returns_done.2 ⟨rfl, rfl⟩⟩

/-- Spreading the rules of the primary changes rules only. -/
theorem spread_orderly {site : Site} {primaryId : String} {f : Frontend} {m : FrontendMap} :
    (spread site primaryId f m).Orderly Request.IsRule := by
  cases spread_steps site primaryId f m with
  | alone _ hp => exact hp ▸ trivial
  | copied _ hp =>
    exact hp ▸ (Site.listRules_readOnly.mono isRule_of_lookup).bind fun _ => copyRules_orderly

/-- The rules phase changes rules only. -/
theorem sync_orderly {primaryId : String} {m : FrontendMap} :
    (sync s primaryId m).Orderly Request.IsRule := by
  cases hf : m.lookup primaryId with
  | none => exact sync_of_none hf ▸ trivial
  | some f =>
    rw [sync_of_some hf]
    refine (desiredRules_readOnly.mono isRule_of_lookup).bind fun _ => ?_
    exact ensureRules_orderly.bind fun _ => spread_orderly

/-- In a map with one entry, the load balancer that it leads from is its only key. -/
theorem eq_key_of_length {primaryId : String} {m : FrontendMap} {f : Frontend}
    (hf : m.lookup primaryId = some f) (hlen : ¬1 < m.length) {e : String × Frontend}
    (he : e ∈ m) : e.1 = primaryId := by
  match m with
  | [] => cases he
  | _ :: _ :: _ => exact absurd (by simp) hlen
  | [(id, g)] =>
    rw [Reconciler.lookup_cons_if] at hf
    rw [List.mem_singleton.1 he]
    by_cases hid : primaryId = id
    · exact hid.symm
    · rw [if_neg hid] at hf
      cases hf

/-- Copying the rules of the primary leaves them as they are, and rules that agree with them on
every other frontend of the map. -/
theorem spread_spec {site : Site} {primaryId : String} {f : Frontend} {m : FrontendMap} {u : Unit}
    (hf : m.lookup primaryId = some f) (h : (spread site primaryId f m).Returns c u c') :
    rulesOf c' f.id = rulesOf c f.id ∧
      ∀ e ∈ m, e.1 ≠ primaryId → e.2.zone ∈ site.zones ∧ Agree (rulesOf c' f.id) c' e.2.id := by
  cases spread_steps site primaryId f m with
  | alone hone hp =>
    rw [hp] at h
    obtain ⟨_, rfl⟩ := returns_done.1 h
    exact ⟨rfl, fun e he hne => absurd (eq_key_of_length hf hone he) hne⟩
  | copied _ hp =>
    rw [hp] at h
    obtain ⟨rules, c1, hlist, hcopy⟩ := returns_bind.1 h
    obtain ⟨_, rfl, rfl⟩ := Site.listRules_returns.1 hlist
    obtain ⟨hagree, hkeep⟩ := copyRules_spec hcopy
    -- The rules that are copied are the primary's, and agree with themselves.
    have hself : rulesOf c' f.id = rulesOf c1 f.id := hkeep _ (RuleSpec.sameRules_refl _)
    rw [hself]
    exact ⟨rfl, hagree⟩

/-- Syncing rules leaves the desired ones on the primary's frontend, its other rules as they were,
and rules that agree with all of these on every other frontend of the map. -/
theorem sync_spec {primaryId : String} {m : FrontendMap} {u : Unit} (hc : c.Sound)
    (h : (sync s primaryId m).Returns c u c') :
    ∃ f, m.lookup primaryId = some f ∧ f.zone ∈ s.site.zones ∧
      (∀ d ∈ desiredOn s c, HasRule (rulesOf c' f.id) d.name d.subnets) ∧
      (rulesOf c' f.id).filter (·.name ∉ ruleNames) =
        (rulesOf c f.id).filter (·.name ∉ ruleNames) ∧
      ∀ e ∈ m, e.1 ≠ primaryId → e.2.zone ∈ s.site.zones ∧ Agree (rulesOf c' f.id) c' e.2.id := by
  cases hf : m.lookup primaryId with
  | none =>
    rw [sync_of_none hf] at h
    exact (returns_fail h).elim
  | some f =>
    rw [sync_of_some hf] at h
    obtain ⟨ds, c1, hdesired, hrest⟩ := returns_bind.1 h
    obtain ⟨rfl, rfl⟩ := desiredRules_returns.1 hdesired
    -- The primary's frontend first: each desired rule in its turn.
    obtain ⟨_, c2, hensure, hrest⟩ := returns_bind.1 hrest
    obtain ⟨hrules, hothers, _⟩ :=
      ensureRules_spec hc (nodup_desiredOn s c1) hensure
    rw [desiredOn_names] at hothers
    have hzone := (hrules _ List.mem_cons_self).1
    -- Its rules are then copied to the others, and stay as they are.
    obtain ⟨hself, hagree⟩ := spread_spec hf hrest
    refine ⟨f, rfl, hzone, ?_⟩
    rw [hself] at hagree ⊢
    exact ⟨fun d hd => (hrules d hd).2, hothers, hagree⟩

/-- Syncing rules changes nothing but rules. -/
theorem changes_rules {α : Type} {p : Program α} {a : α} (hp : p.Orderly Request.IsRule)
    (h : p.Returns c a c') : c' = { c with rules := c'.rules, nextId := c'.nextId } := by
  refine hp.changes (R := fun c c' =>
    c' = { c with rules := c'.rules, nextId := c'.nextId }) h (fun _ => rfl) ?_ ?_
  · intro c c1 c2 h1 h2
    rw [h2, h1]
  · -- Every request that may be sent changes rules and numbers at most.
    intro r c v c' hr hv
    cases r with
    | createRule =>
      obtain ⟨_, rfl, rfl⟩ := Cloud.createRule_effect hv
      rfl
    | updateRule zone ruleId spec =>
      have hv' : c.updateRule ruleId spec = (.ok v, c') := hv
      rw [Cloud.updateRule_effect hv']
    | deleteRule zone ruleId => rw [Cloud.deleteRule_effect hv]
    | setRules zone frontendId specs =>
      obtain ⟨new, n, rfl, _⟩ := Cloud.setRules_effect hv
      rfl
    | listBalancers | listAddresses | listBackends | listFrontends | listRules | listAttachments
    | listPrivateAddresses | listGateways => cases hv; rfl
    | createBalancer | migrateBalancer | deleteBalancer | createBackend | setServers | addServer
    | removeServer | createFrontend | attach => cases hr

end

end Access

end ControlPlane
