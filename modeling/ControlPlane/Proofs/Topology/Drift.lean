import ControlPlane.Proofs.Access.Contents
import ControlPlane.Proofs.Topology.Convergence
import ControlPlane.Proofs.Topology.Standstill

/-!
# Rules that have drifted

A rule that has got other subnets than desired is replaced as a whole. One that has the desired
subnets is passed over, whatever it does and wherever it stands. So what ensuring a rule leaves has
the desired subnets, and it has the desired action and index unless what was there had drifted in
these alone (`Access.ensureRule_repairs`). Copies are compared with all that a rule says, so they
come to say what the rule of the primary says: a drift of the primary's rules is carried to every
load balancer (`Topology.drift_stays`).
-/

namespace ControlPlane

open Program hiding ofExcept

namespace Access

variable {c c' : Cloud} {f : Frontend} {s : Site} {d : DesiredRule} {rules before after : List Rule}

/-- A rule does what is desired, where it is desired. -/
def Fulfils (d : DesiredRule) (r : Rule) : Prop := r.action = d.action ∧ r.index = d.index

instance (d : DesiredRule) (r : Rule) : Decidable (Fulfils d r) :=
  inferInstanceAs (Decidable (r.action = d.action ∧ r.index = d.index))

/-- There is one rule of the name. It has the desired subnets, but another action or index. -/
def Adrift (d : DesiredRule) (rules : List Rule) : Prop :=
  ∃ r, rules.filter (·.name = d.name) = [r] ∧ r.subnets.Perm d.subnets ∧ ¬Fulfils d r

/-- Afterwards there is one rule of the name. It has the desired subnets; and it has the desired
action and index as well, unless it was adrift before. -/
def Repairs (d : DesiredRule) (before after : List Rule) : Prop :=
  ∃ r, after.filter (·.name = d.name) = [r] ∧ r.subnets.Perm d.subnets ∧
    (Fulfils d r ↔ ¬Adrift d before)

/-- Only the rules of the name matter. -/
theorem Repairs.congr {before' after' : List Rule} (h : Repairs d before after)
    (hbefore : before'.filter (·.name = d.name) = before.filter (·.name = d.name))
    (hafter : after'.filter (·.name = d.name) = after.filter (·.name = d.name)) :
    Repairs d before' after' := by
  unfold Repairs Adrift at h ⊢
  rwa [hbefore, hafter]

/-- Rules with the same contents are repaired alike. -/
theorem Repairs.of_under {id id' : String} (h : Repairs d before (rulesOf c id))
    (hsame : under c' id' d.name = under c id d.name) : Repairs d before (rulesOf c' id') := by
  obtain ⟨r, hr, hperm, hfulfils⟩ := h
  rw [under_eq, under_eq, hr] at hsame
  obtain ⟨r', hr', hcontent⟩ := List.map_eq_singleton_iff.1 hsame
  obtain ⟨_, hindex, haction, hsubnets⟩ := RuleSpec.content_eq_iff.1 hcontent
  refine ⟨r', hr', hsubnets.trans hperm, ?_⟩
  unfold Fulfils at hfulfils ⊢
  rwa [haction, hindex]

/-- Ensuring a rule that returns has found at most one of the name. -/
theorem ensureRule_found {u : Unit} (h : (ensureRule s f d).Returns c u c') :
    ∃ found : Option Rule, (rulesOf c f.id).filter (·.name = d.name) = found.toList := by
  obtain ⟨step, heq, -⟩ := ensureRule_steps s f d
  rw [heq] at h
  obtain ⟨existing, _, hfind, _⟩ := returns_bind.1 h
  obtain ⟨_, hfilter, _⟩ := Site.findRule_returns.1 hfind
  exact ⟨existing, by rw [rulesOf, List.filter_filter, hfilter]⟩

/-- A rule is replaced exactly if there is none yet or its subnets are others. -/
theorem ensureRule_repairs {u : Unit} (hc : c.Sound) (hsubnets : d.subnets ≠ [])
    (h : (ensureRule s f d).Returns c u c') :
    Repairs d (rulesOf c f.id) (rulesOf c' f.id) := by
  obtain ⟨found, hfound⟩ := ensureRule_found h
  have hunder := ensureRule_under hc h d.name
  rw [ruled, if_pos rfl, under_eq, under_eq, hfound] at hunder
  -- What is sent says what is desired.
  have hsent : ((rulesOf c' f.id).filter (·.name = d.name)).map (·.toRuleSpec.content) =
      [(sent d).content] → ¬Adrift d (rulesOf c f.id) →
        Repairs d (rulesOf c f.id) (rulesOf c' f.id) := by
    intro hlist hnot
    obtain ⟨r, hr, hcontent⟩ := List.map_eq_singleton_iff.1 hlist
    obtain ⟨_, hindex, haction, hperm⟩ := RuleSpec.content_eq_iff.1 hcontent
    exact ⟨r, hr, hperm, iff_of_true ⟨haction, hindex⟩ hnot⟩
  cases found with
  | none =>
    refine hsent (hunder.trans (if_neg hsubnets)) ?_
    rintro ⟨r, hr, _⟩
    cases hfound.symm.trans hr
  | some x =>
    have hensured : ensured d [x.toRuleSpec.content] =
        if (x.subnets : Multiset String) = d.subnets then [x.toRuleSpec.content]
        else [(sent d).content] := if_neg hsubnets
    have hself : ∀ r, (rulesOf c f.id).filter (·.name = d.name) = [r] → r = x := fun r hr =>
      List.singleton_inj.1 (hr.symm.trans hfound)
    rw [Option.toList_some, List.map_singleton, hensured] at hunder
    by_cases hperm : x.subnets.Perm d.subnets
    · rw [if_pos (Multiset.coe_eq_coe.2 hperm)] at hunder
      refine (show Repairs d (rulesOf c f.id) (rulesOf c f.id) from
        ⟨x, hfound, hperm, ?_⟩).of_under ?_
      · constructor
        · rintro hfulfils ⟨r, hr, _, hnot⟩
          exact hnot (hself r hr ▸ hfulfils)
        · intro hnot
          by_contra hfulfils
          exact hnot ⟨x, hfound, hperm, hfulfils⟩
      · rw [under_eq, under_eq, hunder, hfound]
        rfl
    · rw [if_neg fun heq => hperm (Multiset.coe_eq_coe.1 heq)] at hunder
      refine hsent hunder ?_
      rintro ⟨r, hr, hperm', _⟩
      exact hperm (hself r hr ▸ hperm')

/-- Rules of distinct names are repaired one after the other. -/
theorem ensureRules_repairs {ds : List DesiredRule} {u : Unit} (hc : c.Sound)
    (hnames : (ds.map (·.name)).Nodup) (h : (ensureRules s f ds).Returns c u c') :
    ∀ d ∈ ds, d.subnets ≠ [] → Repairs d (rulesOf c f.id) (rulesOf c' f.id) := by
  induction ds generalizing c with
  | nil => exact nofun
  | cons d rest ih =>
    obtain ⟨_, c1, hd, hrest⟩ := returns_bind.1 h
    rw [List.map_cons, List.nodup_cons] at hnames
    have hc1 := hc.returns hd
    refine List.forall_mem_cons.2 ⟨fun hsubnets => ?_, fun d' hd' hsubnets => ?_⟩
    -- The rules that come later have other names than the first one.
    · refine (ensureRule_repairs hc hsubnets hd).congr rfl ?_
      obtain ⟨_, hothers, _⟩ := ensureRules_spec hc1 hnames.2 hrest
      have hsplit : ∀ rules : List Rule, rules.filter (·.name = d.name) =
          (rules.filter (·.name ∉ rest.map (·.name))).filter (·.name = d.name) := by
        intro rules
        rw [List.filter_filter]
        refine List.filter_congr fun r _ => ?_
        by_cases hr : r.name = d.name
        · simp only [hr, decide_true, Bool.true_and, decide_eq_true hnames.1]
        · simp only [hr, decide_false, Bool.false_and]
      rw [hsplit, hothers, ← hsplit]
    · have hne : d'.name ≠ d.name := fun heq => hnames.1 (heq ▸ List.mem_map_of_mem hd')
      refine (ih hc1 hnames.2 hrest d' hd' hsubnets).congr ?_ rfl
      exact (filter_name_of_others hne (ensureRule_spec hc hd).2.2).symm

/-- Syncing repairs the rules of the primary's frontend, and leaves the same ones on every other
frontend of the map. -/
theorem sync_repairs {s : Scope} {primaryId : String} {m : FrontendMap} {u : Unit} (hc : c.Sound)
    (hkeys : (m.map (·.1)).Nodup) (h : (sync s primaryId m).Returns c u c') :
    ∃ f, (primaryId, f) ∈ m ∧ ∀ d ∈ desiredOn s c, d.subnets ≠ [] →
      ∀ e ∈ m, Repairs d (rulesOf c f.id) (rulesOf c' e.2.id) := by
  obtain ⟨f, hlookup, _, _, _, hcopies⟩ := sync_spec hc h
  have hentry : (primaryId, f) ∈ m := (Reconciler.lookup_eq_some_iff_mem hkeys).1 hlookup
  rw [sync_of_some hlookup] at h
  obtain ⟨ds, c1, hdesired, hrest⟩ := returns_bind.1 h
  obtain ⟨rfl, rfl⟩ := desiredRules_returns.1 hdesired
  obtain ⟨_, c2, hensure, hrest⟩ := returns_bind.1 hrest
  have hkept : rulesOf c' f.id = rulesOf c2 f.id := (spread_spec hlookup hrest).1
  refine ⟨f, hentry, fun d hd hsubnets e he => ?_⟩
  have hself : Repairs d (rulesOf c1 f.id) (rulesOf c' f.id) := by
    rw [hkept]
    exact ensureRules_repairs hc (nodup_desiredOn s c1) hensure d hd hsubnets
  -- The primary's frontend is repaired, and the others are copies of it.
  by_cases hid : e.1 = primaryId
  · have heq : e = (primaryId, f) := List.inj_on_of_nodup_map hkeys he hentry hid
    rwa [heq]
  · exact hself.of_under (agree_iff.1 (hcopies e he hid).2 d.name).symm

end Access

namespace Topology

variable {s : Scope}

/-- On a load balancer there is one rule for each that is to be there, with the desired subnets; it
has the desired action and index as well, unless the primary's rule of the name was adrift before.
-/
def DriftsAlong (s : Scope) (c c' : Cloud) (p b : LoadBalancer) : Prop :=
  ∃ f g, HasFrontend c' p.id f ∧ HasFrontend c' b.id g ∧
    ∀ d ∈ Access.desiredOn s c', d.subnets ≠ [] →
      Access.Repairs d (Access.rulesOf c f.id) (Access.rulesOf c' g.id)

/-- Over the phases of a run, the rules of every load balancer of the topology drift along with
those of the primary. -/
theorem Phases.driftsAlong {b : LoadBalancer} {bs : List LoadBalancer} {ks : List Backend}
    {m : FrontendMap} {c c1 c2 c3 c4 c5 c' : Cloud} (h : Phases s b bs ks m c c1 c2 c3 c4 c5 c')
    (hc : c.Sound) {p x : LoadBalancer} (hp : p ∈ c'.balancers) (hprimary : IsPrimary s p)
    (hx : x ∈ c'.balancers) (htopology : InTopology s x) : DriftsAlong s c c' p x := by
  obtain ⟨hmaps, hkeys, _⟩ := h.frontends_spec
  obtain ⟨f, hentry, hrepairs⟩ := Access.sync_repairs (h.sound_frontends hc) hkeys h.rules
  have hf : HasFrontend c' p.id f := by
    rw [h.id_eq_of_isPrimary hc hp hprimary]
    exact hmaps _ hentry
  obtain ⟨g, hg, hhas⟩ := h.exists_frontend hc hx htopology
  -- The rules phase changes no gateways, and so the same is desired after it.
  have hdesired : Access.desiredOn s c5 = Access.desiredOn s c' := by
    unfold Access.desiredOn
    rw [h.gatewaySubnets_eq hc]
  refine ⟨f, g, hf, hhas, fun d hd hsubnets => ?_⟩
  rw [← hdesired] at hd
  rw [← h.rulesOf_eq hc hp hf]
  exact hrepairs d hd hsubnets _ hg

/-- Which drift is repaired. If ensuring a rule with subnets returns, there is one rule of the name
and it has the subnets; and it does what is desired, where it is desired, exactly if there was no
rule before that had the subnets and an action or an index of its own. After a run for the cluster
that returns, the same holds on every load balancer of the topology, of what was on the primary
before. -/
theorem drift_stays (s : Scope) (deadline : Option Seconds) {x : Session Cloud}
    (hc : x.world.store.Sound) :
    (∀ (f : Frontend) (d : DesiredRule) (c' : Cloud) (u : Unit), d.subnets ≠ [] →
      (Access.ensureRule s.site f d).Returns x.world.store u c' →
        Access.Repairs d (Access.rulesOf x.world.store f.id) (Access.rulesOf c' f.id)) ∧
    ∀ (x' : Session Cloud) (u : Unit), (reconcile s).run Cloud.provider deadline x = (.ok u, x') →
      ∀ p ∈ x'.world.store.balancers, IsPrimary s p →
        ∀ b ∈ x'.world.store.balancers, InTopology s b →
          DriftsAlong s x.world.store x'.world.store p b := by
  refine ⟨fun _ _ _ _ hsubnets h => Access.ensureRule_repairs hc hsubnets h, ?_⟩
  intro x' u h p hp hprimary b hb htopology
  obtain ⟨_, _, _, _, harrange, _⟩ := reconcile_run h
  obtain ⟨_, _, _, _, _, _, _, _, _, _, hphases⟩ := arrange_returns harrange
  exact hphases.driftsAlong hc hp hprimary hb htopology

end Topology

namespace Sample

/-- The rule that has come to deny what is declared to be allowed. -/
def driftedRule : Rule where
  name := Access.rangesName
  index := 3
  action := .deny
  subnets := ["10.0.0.0/8"]
  id := "rule"
  frontendId := "port"

/-- The sample's cloud with that rule on the frontend of the primary. -/
def drifted : Cloud := { cloud with rules := [driftedRule] }

/-- The frontend of the primary. -/
def driftedPort : Frontend where
  id := "port"
  balancerId := "main"
  zone := "fr-par-1"
  name := Topology.frontendName
  inboundPort := 443
  backendId := "pool"

/-- The cloud of the example is sound. -/
theorem drifted_sound : drifted.Sound := by
  refine ⟨?_, ?_, ?_, ?_, ?_, ?_⟩ <;> exact .of_foreign (by decide +kernel) (by decide +kernel)

end Sample

namespace Topology

/-- The declared ranges are denied on the primary; they still are after the rule has been ensured
and after a run for the cluster, on the secondary as well. -/
theorem sample_drift_stays :
    let s := Sample.scope ["10.0.0.0/8"]
    let d : DesiredRule := ⟨Access.rangesName, .allow, 0, ["10.0.0.0/8"]⟩
    let run := (reconcile s).run Cloud.provider none (Sample.session Sample.drifted)
    Access.Adrift d (Access.rulesOf Sample.drifted "port") ∧
      (Access.ensureRule s.site Sample.driftedPort d).Returns Sample.drifted () Sample.drifted ∧
      Access.Repairs d (Access.rulesOf Sample.drifted "port")
        (Access.rulesOf Sample.drifted "port") ∧
      run.1 = .ok () ∧
      (∃ p ∈ run.2.world.store.balancers, IsPrimary s p ∧
        ∃ b ∈ run.2.world.store.balancers, Secondary.IsSecondary s b ∧
          DriftsAlong s Sample.drifted run.2.world.store p b) ∧
      (run.2.world.store.rules.filter (·.name = Access.rangesName)).map (·.action) =
        [.deny, .deny] := by
  intro s d run
  obtain ⟨hrule, hreconcile⟩ := drift_stays s none (x := Sample.session Sample.drifted)
    Sample.drifted_sound
  have hfound : (Access.rulesOf Sample.drifted "port").filter (·.name = d.name) =
      [Sample.driftedRule] := by decide +kernel
  have hhas : Access.HasRule (Access.rulesOf Sample.drifted "port") d.name d.subnets := by
    rw [Access.HasRule, if_neg (List.cons_ne_nil _ _)]
    exact ⟨Sample.driftedRule, hfound, .refl _⟩
  have hensure : (Access.ensureRule s.site Sample.driftedPort d).Returns Sample.drifted ()
      Sample.drifted := (Access.ensureRule_idles (by decide +kernel) hhas).returns
  obtain ⟨_, x', hrun⟩ := Sample.exists_of_isOk (r := run) (by decide +kernel)
  -- The primary and a secondary are there at the end.
  have hprimary : ∃ p ∈ run.2.world.store.balancers, p.zone = "fr-par-1" ∧
      hasTags p.tags (primaryTags s) = true := by decide +kernel
  have hsecondary : ∃ b ∈ run.2.world.store.balancers, b.zone ∈ s.site.zones ∧
      hasTags b.tags (Secondary.tags s) = true := by decide +kernel
  obtain ⟨p, hp, hzone, htags⟩ := hprimary
  obtain ⟨b, hb, hsec⟩ := hsecondary
  have hisPrimary : IsPrimary s p := ⟨hzone ▸ rfl, htags⟩
  refine ⟨⟨_, hfound, List.Perm.refl _, by decide +kernel⟩, hensure,
    hrule _ _ _ _ (List.cons_ne_nil _ _) hensure, congrArg Prod.fst hrun,
    ⟨p, hp, hisPrimary, b, hb, hsec, ?_⟩, by decide +kernel⟩
  have hx' : run.2 = x' := congrArg Prod.snd hrun
  rw [hx'] at hp hb ⊢
  exact hreconcile x' _ hrun p hp hisPrimary b hb (.inr hsec)

end Topology

end ControlPlane
