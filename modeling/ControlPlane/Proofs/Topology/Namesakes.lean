import Mathlib.Data.List.Basic
import ControlPlane.Proofs.Provider.Tracking
import ControlPlane.Proofs.Topology.Membership

/-!
# Members with the names of rules

The rule of a member is named after its cluster and the member, with a dash between them. The rules
that a run for a cluster ensures have names of two words with a dash between them. So there are a
few names of clusters and members that come down to the name of such a rule, and no others
(`ruleName_mem_iff`).

A member's program touches rules of that one name only, however the run is disturbed
(`Member.touching_reconcile`, `Member.touching_delete`), and so it leaves alone what the cluster
ensures unless the two are namesakes. If they are, it takes that rule for its own
(`Member.rules_collide_iff`).
-/

namespace ControlPlane

open Program hiding ofExcept
open ControlPlane.Topology (HasFrontend HasPrimary InTopology)

/-! ## Names -/

/-- A name with one suffix has a dash before the suffix. -/
theorem toList_suffixedName (name suffix : String) :
    (suffixedName name [suffix]).toList = name.toList ++ '-' :: suffix.toList := by
  have hjoined : suffixedName name [suffix] = name ++ "-" ++ suffix := rfl
  rw [hjoined, String.toList_append, String.toList_append, List.append_assoc]
  rfl

/-- A text with a single dash is cut there in one way only. -/
theorem suffixedName_eq_iff {name suffix first second : String} (hfirst : '-' ∉ first.toList)
    (hsecond : '-' ∉ second.toList) :
    suffixedName first [second] = suffixedName name [suffix] ↔ (name, suffix) = (first, second) := by
  rw [← String.toList_inj, toList_suffixedName, toList_suffixedName,
    List.append_cons_inj_of_notMem hfirst hsecond, String.toList_inj, String.toList_inj,
    Prod.mk.injEq, eq_comm (a := name), eq_comm (a := suffix)]
  exact and_congr_right fun _ => and_iff_right rfl

namespace Member

variable {m : Member}

/-- The names of a cluster and of a member whose rule has the name of a rule of the cluster. -/
def namesakes : List (String × String) :=
  [("allowed", "ranges"), ("public", "gateway"), ("deny", "all")]

/-- The rules of namesakes have the names of rules that are ensured. -/
theorem namesakes_names :
    namesakes.map (fun n => suffixedName n.1 [n.2]) = Access.ruleNames := by decide +kernel

/-- A member's rule has the name of a rule of the cluster for the namesakes only. -/
theorem ruleName_mem_iff :
    m.ruleName ∈ Access.ruleNames ↔ (m.scope.cluster.name, m.name) ∈ namesakes := by
  have hdashes : ∀ n ∈ namesakes, '-' ∉ n.1.toList ∧ '-' ∉ n.2.toList := by decide +kernel
  rw [← namesakes_names, List.mem_map]
  constructor
  · rintro ⟨n, hn, heq⟩
    obtain ⟨hfirst, hsecond⟩ := hdashes n hn
    rw [(suffixedName_eq_iff hfirst hsecond).1 heq]
    exact hn
  · exact fun hn => ⟨_, hn, rfl⟩

end Member

/-! ## Rules of one name -/

/-- A request that leaves rules as they are. -/
def Request.LeavesRules : Request → Prop
  | .createRule .. | .updateRule .. | .deleteRule .. | .setRules .. | .deleteBalancer .. => False
  | _ => True

namespace Cloud

variable {c c' : Cloud} {name : String} {r : Request}

/-- Answered or refused, such a request leaves the rules. -/
theorem rules_answer (hr : r.LeavesRules) (c : Cloud) : (c.answer r).2.rules = c.rules := by
  rcases hv : c.answer r with ⟨e | v, c'⟩
  · exact congrArg (fun c => c.rules) (eq_of_refused hv)
  show c'.rules = c.rules
  cases r with
  | createRule | updateRule | deleteRule | setRules | deleteBalancer => exact hr.elim
  | setServers zone id servers =>
    -- Requests for pools change backends only.
    have hv' : c.changePool id (fun _ => servers) = (.ok v, c') := hv
    rw [(changePool_effect hv').2]
  | addServer =>
    obtain ⟨k, hk⟩ := addServer_effect hv
    rw [(changePool_effect hk).2]
  | removeServer =>
    obtain ⟨k, hk⟩ := removeServer_effect hv
    rw [(changePool_effect hk).2]
  | createBalancer => rw [(createBalancer_effect hv).2.2]
  | migrateBalancer => rw [(migrateBalancer_effect hv).2]
  | attach => rw [(attach_effect hv).2.1]
  | createBackend => rw [(createBackend_effect hv).2.2]
  | createFrontend => rw [(createFrontend_effect hv).2.2.2]
  | listBalancers | listAddresses | listBackends | listFrontends | listRules | listAttachments
  | listPrivateAddresses | listGateways =>
    cases hv
    rfl

/-- If the request creates, changes or deletes rules, then those of a name. -/
def TouchesOnly (name : String) (c : Cloud) : Request → Prop
  | .createRule _ _ spec => spec.name = name
  | .updateRule _ id spec => spec.name = name ∧ ∀ r ∈ c.rules, r.id = id → r.name = name
  | .deleteRule _ id => ∀ r ∈ c.rules, r.id = id → r.name = name
  | .setRules .. | .deleteBalancer .. => False
  | _ => True

/-- A look-up touches no rules. -/
theorem touchesOnly_of_lookup (h : r.isMutation = false) : c.TouchesOnly name r := by
  cases r <;> first
    | exact trivial
    | cases h

/-- The rules of all frontends that have another name. -/
def rulesBut (name : String) (c : Cloud) : List Rule := c.rules.filter (·.name ≠ name)

/-- A request that touches rules of a name only leaves the others as they are. -/
theorem TouchesOnly.rulesBut_eq (h : c.TouchesOnly name r) :
    (c.answer r).2.rulesBut name = c.rulesBut name := by
  -- Most requests leave all rules; the other three touch one of the name.
  have hsame : r.LeavesRules → (c.answer r).2.rulesBut name = c.rulesBut name := fun hr => by
    rw [rulesBut, rules_answer hr, rulesBut]
  rcases hv : c.answer r with ⟨e | v, c'⟩
  · exact congrArg (·.rulesBut name) (eq_of_refused hv)
  rw [hv] at hsame
  show c'.rulesBut name = c.rulesBut name
  cases r with
  | setRules | deleteBalancer => exact h.elim
  | createRule zone frontendId spec =>
    obtain ⟨_, rfl, rfl⟩ := createRule_effect hv
    have hself : spec.name = name := h
    unfold rulesBut
    dsimp only
    rw [List.filter_append]
    simp [hself]
  | updateRule zone id spec =>
    have hv' : c.updateRule id spec = (.ok v, c') := hv
    rw [updateRule_effect hv']
    refine filter_map_of_fixed (fun x hx => ?_) fun x hx hname => if_neg fun hid => ?_
    · split
      · next hid => rw [decide_eq_decide, h.2 x hx hid, ← h.1]
      · rfl
    · exact of_decide_eq_true hname (h.2 x hx hid)
  | deleteRule zone id =>
    rw [deleteRule_effect hv]
    unfold rulesBut
    dsimp only
    rw [List.filter_filter]
    refine List.filter_congr fun x hx => ?_
    by_cases hid : x.id = id
    · simp [h x hx hid]
    · simp [hid]
  | _ => exact hsame trivial

end Cloud

/-! ## What a member touches -/

section

variable {c : Cloud} {name : String} {site : Site} {zone frontendId : String}

/-- From a cloud on which ids name rules, the program touches rules of a name only. -/
abbrev Touching (name : String) {α : Type} (P : α → Cloud → Prop) (p : Program α) (c : Cloud) :
    Prop :=
  p.Tracked (Cloud.TouchesOnly name) Cloud.Sound P c

/-- A rule that is found has the name that it is looked for by. -/
theorem touching_findRule (hc : c.Sound) :
    Touching name (fun r c' => r ∈ c'.rules ∧ r.name = name)
      (site.findRule zone frontendId name) c := by
  refine (tracked_ofExcept _).bind hc ?_
  rintro _ c1 _ ⟨_, rfl⟩
  refine (tracked_request (Cloud.touchesOnly_of_lookup rfl)).bind hc ?_
  rintro found c2 _ ⟨⟩
  refine (tracked_ofExcept _).mono hc ?_
  rintro r c' _ ⟨hsingle, rfl⟩
  have hmem : r ∈ (c'.rules.filter (·.frontendId = frontendId)).filter (·.name = name) :=
    single_eq_ok.1 hsingle ▸ List.mem_singleton_self r
  obtain ⟨hmem, hname⟩ := List.mem_filter.1 hmem
  exact ⟨List.mem_of_mem_filter hmem, of_decide_eq_true hname⟩

/-- A rule is sent under the name that it was specified with. -/
theorem touching_specified (hc : c.Sound) {index : Int} {action : RuleAction}
    {subnets : List String} {send : RuleSpec → Program Rule}
    (hsend : ∀ spec, spec.name = name → Touching name (fun _ _ => True) (send spec) c) :
    Touching name (fun _ _ => True) (site.checkZone zone >>= fun _ =>
      Program.ofExcept (Site.specified (RuleSpec.checked name index action subnets)) >>= send) c := by
  refine (tracked_ofExcept _).bind hc ?_
  rintro _ c1 _ ⟨_, rfl⟩
  refine (tracked_ofExcept _).bind hc ?_
  rintro spec c2 _ ⟨hspec, rfl⟩
  exact hsend spec (congrArg RuleSpec.name (Access.specified_eq_ok hspec))

/-- A request for a zone is sent after the zone has been checked. -/
theorem touching_checked {r : Request} (hc : c.Sound) (hr : c.TouchesOnly name r) :
    Touching name (fun _ _ => True) (site.checkZone zone >>= fun _ => request r) c := by
  refine (tracked_ofExcept _).bind hc ?_
  rintro _ c1 _ ⟨_, rfl⟩
  exact (tracked_request hr).mono hc fun _ _ _ _ => trivial

/-- Ensuring a rule touches rules of its name only. -/
theorem touching_ensureRule {f : Frontend} {d : DesiredRule} (hc : c.Sound) :
    Touching d.name (fun _ _ => True) (Access.ensureRule site f d) c := by
  obtain ⟨step, heq, hstep⟩ := Access.ensureRule_steps site f d
  rw [heq]
  refine ((touching_findRule hc).orNone hc).bind hc fun found c1 h1 hfound => ?_
  -- Whatever has the id of the rule that has been found is that rule.
  have hid : ∀ r ∈ found, ∀ x ∈ c1.rules, x.id = r.id → x.name = d.name := by
    intro r hr x hx hid
    obtain ⟨hmem, hname⟩ := hfound r hr
    rw [h1.rules.inj hx hmem hid]
    exact hname
  cases hstep found with
  | removed r _ hp => exact hp ▸ touching_checked (r := .deleteRule _ _) h1 (hid r rfl)
  | absent _ hp | kept _ _ _ hp => exact hp ▸ trivial
  | created _ hp =>
    rw [hp]
    refine (touching_specified h1 fun spec hname => ?_).discard h1
    exact (tracked_request (r := .createRule _ _ spec) hname).mono h1 fun _ _ _ _ => trivial
  | replaced r _ _ hp =>
    rw [hp]
    refine (touching_specified h1 fun spec hname => ?_).discard h1
    exact (tracked_request (r := .updateRule _ _ spec) ⟨hname, hid r rfl⟩).mono h1
      fun _ _ _ _ => trivial

end

namespace Member

variable {m : Member} {c : Cloud} {bs : List LoadBalancer} {node : String}
  {addresses : List String} {deletion : Bool}

/-- Acting on live load balancers touches what the single actions touch. -/
theorem touching_eachLive {act : LoadBalancer → Program Unit} {name : String} (hc : c.Sound)
    (hact : ∀ b c, c.Sound → Touching name (fun _ _ => True) (act b) c) :
    Touching name (fun _ _ => True) (eachLive act bs) c := by
  rw [eachLive_eq]
  exact (tracked_closed _ _).forM (fun b _ => hact b) c hc

/-- Looking for load balancers touches no rules. -/
theorem touching_of_readOnly {α : Type} {p : Program α} {name : String} (hp : p.ReadOnly) :
    Touching name (fun _ _ => True) p c :=
  Orderly.tracked hp fun _ _ hr => Cloud.touchesOnly_of_lookup hr

/-- Registering a node with pools touches no rules. -/
theorem touching_servers {site : Site} {name : String} (hc : c.Sound) :
    Touching name (fun _ _ => True) (eachLive (ensureServer site node deletion) bs) c := by
  refine touching_eachLive hc fun b c1 h1 => ?_
  obtain ⟨step, heq, hstep⟩ := ensureServer_steps site node deletion b
  rw [heq]
  refine (touching_of_readOnly Site.findBackend_readOnly).bind h1 fun k c2 h2 _ => ?_
  cases hstep k with
  | removed _ _ hp => exact hp ▸ touching_checked (r := .removeServer _ _ _) h2 trivial
  | added _ _ hp => exact hp ▸ touching_checked (r := .addServer _ _ _) h2 trivial
  | kept _ hp => exact hp ▸ trivial

/-- Ensuring the rule of a member touches rules of its name only. -/
theorem touching_rules (hc : c.Sound) :
    Touching m.ruleName (fun _ _ => True) (m.ensureRules bs addresses deletion) c := by
  refine touching_eachLive hc fun b c1 h1 => ?_
  refine (touching_of_readOnly findFrontend_readOnly).bind h1 fun found c2 h2 _ => ?_
  cases found with
  | none => trivial
  | some f => exact touching_ensureRule (d := m.desiredRule addresses) h2

/-- A run that registers a member touches rules of the name of its rule only. -/
theorem touching_reconcile (hc : c.Sound) :
    Touching m.ruleName (fun _ _ => True) (m.reconcile node addresses) c := by
  refine (touching_of_readOnly findBalancers_readOnly).bind hc fun bs c1 h1 _ => ?_
  exact (touching_servers h1).bind h1 fun _ c2 h2 _ => touching_rules h2

/-- A run that removes a member touches rules of the name of its rule only. -/
theorem touching_delete (hc : c.Sound) :
    Touching m.ruleName (fun _ _ => True) (m.delete node) c := by
  refine (touching_of_readOnly findBalancers_readOnly.orNone).bind hc fun bs c1 h1 _ => ?_
  exact (touching_rules h1).bind h1 fun _ c2 h2 _ => touching_servers h2

/-- A run of a member's program touches rules with the name of the member's rule only, however it is
disturbed. If nothing disturbs it and it returns, every live load balancer of the cluster with a
frontend has that rule with the subnets that are wanted, or no such rule if none are. -/
structure ActsOnRule (m : Member) (wanted : List String) (p : Program Unit) (deadline : Option Seconds)
    (x : Session Trial) : Prop where
  touched : ∀ k ∈ p.exchanges Trial.provider deadline x,
    k.before.cloud.TouchesOnly m.ruleName k.request
  others : (p.run Trial.provider deadline x).2.cloud.rulesBut m.ruleName =
    x.cloud.rulesBut m.ruleName
  settled : ∀ c', p.Returns x.cloud () c' → (∃ q, HasPrimary m.scope q x.cloud) →
    ∀ b ∈ c'.balancers, InTopology m.scope b → b.status ≠ .deleting →
      ∀ f, HasFrontend c' b.id f → Access.HasRule (Access.rulesOf c' f.id) m.ruleName wanted

/-- A member's program acts on its rule if it touches only that, and if its undisturbed runs leave
the rule as it is wanted. -/
theorem ActsOnRule.of_touching {p : Program Unit} {deadline : Option Seconds} {x : Session Trial}
    (hx : x.cloud.Sound) (hp : Touching m.ruleName (fun _ _ => True) p x.cloud)
    (hsettled : ∀ c', p.Returns x.cloud () c' → (∃ q, HasPrimary m.scope q x.cloud) →
      ∀ b ∈ c'.balancers, InTopology m.scope b → b.status ≠ .deleting →
        ∀ f, HasFrontend c' b.id f →
          Access.HasRule (Access.rulesOf c' f.id) m.ruleName addresses) :
    ActsOnRule m addresses p deadline x := by
  let inv (c : Cloud) : Prop := c.Sound ∧ c.rulesBut m.ruleName = x.cloud.rulesBut m.ruleName
  have hkept : p.Tracked (fun c r => c.TouchesOnly m.ruleName r) inv (fun _ _ => True) x.cloud :=
    Tracked.of_imp hp fun _ h => h.1
  have hstep : ∀ c r, inv c → c.TouchesOnly m.ruleName r → inv (c.answer r).2 :=
    fun _ r hc hr => ⟨hc.1.answer r, hr.rulesBut_eq.trans hc.2⟩
  have hinv : inv x.cloud := ⟨hx, rfl⟩
  exact ⟨fun k hk => (hkept.exchanges hstep hinv deadline k hk).2,
    (hkept.run hstep hinv deadline).1.2, hsettled⟩

/-- Which rules a member touches. However a run of its programs is disturbed, it touches the rules
of one name only, the member's. This is the name of a rule that is ensured for the cluster exactly
if the names of the cluster and the member are among three pairs, all of them with names that a
cluster can have. Then the addresses of the member take the place of what is to be admitted or
denied, and a removal removes the rule. -/
theorem rules_collide_iff (m : Member) (node : String) (addresses : List String)
    (deadline : Option Seconds) (x : Session Trial) (hx : x.cloud.Sound) :
    (m.ruleName ∈ Access.ruleNames ↔ (m.scope.cluster.name, m.name) ∈ namesakes) ∧
      (∀ n ∈ namesakes, Cluster.checkName n.1 = .valid n.1) ∧
      ActsOnRule m addresses (m.reconcile node addresses) deadline x ∧
      ActsOnRule m [] (m.delete node) deadline x := by
  refine ⟨ruleName_mem_iff, by decide +kernel, ?_, ?_⟩
  · exact .of_touching hx (touching_reconcile hx) fun c' h _ => reconcile_leaves hx h
  · refine .of_touching hx (touching_delete hx) fun c' h hprimary b hb htopology hlive f hf => ?_
    obtain ⟨q, hq⟩ := hprimary
    rw [Access.HasRule, if_pos rfl]
    rcases delete_leaves hx h with ⟨hnone, _⟩ | ⟨_, hframe, hall⟩
    · exact (hnone q hq.mem hq.primary).elim
    · have hbalancers : c'.balancers = x.cloud.balancers := by rw [hframe]
      have hfrontends : c'.frontends = x.cloud.frontends := by rw [hframe]
      exact (hall b (hbalancers ▸ hb) htopology hlive).1 f (hf.congr hfrontends.symm)

end Member

namespace Sample

/-- A member of a cluster that is its namesake. -/
def namesake : Member where
  scope :=
    { site := (scope []).site
      cluster :=
        { name := "deny"
          namespaceName := "infra"
          network := { primary := { allowedRanges := ["10.0.0.0/8"] } } } }
  name := "all"

/-- The primary load balancer of that cluster. -/
def deniedPrimary : LoadBalancer where
  id := "main"
  zone := "fr-par-1"
  name := "deny"
  type := "lb-s"
  tags := Topology.primaryTags namesake.scope

/-- The frontend of that load balancer. -/
def deniedPort : Frontend where
  id := "port"
  balancerId := "main"
  zone := "fr-par-1"
  name := Topology.frontendName
  inboundPort := 6443
  backendId := "pool"

/-- A cloud with that load balancer alone, on which all others are denied. -/
def denied : Cloud where
  balancers := [deniedPrimary]
  backends :=
    [{ id := "pool", balancerId := "main", zone := "fr-par-1", name := Topology.backendName
       forwardPort := 6443 }]
  frontends := [deniedPort]
  rules :=
    [{ name := Access.denyAllName, index := RuleSpec.maxIndex, action := .deny
       subnets := Access.everywhere, id := "rule", frontendId := "port" }]

/-- The cloud of the example is sound. -/
theorem denied_sound : denied.Sound := by
  refine ⟨?_, ?_, ?_, ?_, ?_, ?_⟩ <;> exact .of_foreign (by decide +kernel) (by decide +kernel)

end Sample

/-- A namesake is removed, and nobody is denied any more. -/
theorem Member.sample_rules_collide :
    let p := Sample.namesake.delete "10.1.0.9"
    p.Returns Sample.denied () (p.exec Sample.denied).2 ∧
      Sample.namesake.ruleName ∈ Access.ruleNames ∧
      (Access.rulesOf Sample.denied "port").any (·.name = Access.denyAllName) = true ∧
      Access.HasRule (Access.rulesOf (p.exec Sample.denied).2 "port") Access.denyAllName [] := by
  intro p
  have hreturns : p.Returns Sample.denied () (p.exec Sample.denied).2 := by
    obtain ⟨_, c', h⟩ := Sample.exists_of_isOk (r := p.exec Sample.denied) (by decide +kernel)
    unfold Program.Returns
    rw [h]
  have hbalancers : (p.exec Sample.denied).2.balancers = Sample.denied.balancers := by
    decide +kernel
  obtain ⟨hnames, _, _, hremoval⟩ := rules_collide_iff Sample.namesake "10.1.0.9" [] none
    { world := { store := { cloud := Sample.denied }, now := 0, canceled := false } }
    Sample.denied_sound
  have hprimary : HasPrimary Sample.namesake.scope Sample.deniedPrimary Sample.denied :=
    Topology.hasPrimary_of_filter rfl (by decide +kernel)
  refine ⟨hreturns, hnames.2 (by decide +kernel), by decide +kernel, ?_⟩
  -- A removal settles the rule by its name, and the name is that of the cluster's own rule.
  refine hremoval.settled _ hreturns ⟨_, hprimary⟩ _ (hbalancers ▸ hprimary.mem)
    (.inl hprimary.primary) (by decide +kernel) Sample.deniedPort ?_
  unfold HasFrontend
  decide +kernel

end ControlPlane
