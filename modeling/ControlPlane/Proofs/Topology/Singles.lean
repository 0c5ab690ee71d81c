import Mathlib.Data.List.Basic
import ControlPlane.Proofs.Topology.Launch
import ControlPlane.Proofs.Topology.Registration
import ControlPlane.Proofs.Topology.Undoing

/-!
# Nothing is made twice

From a cloud on which a cluster has no load balancer, all load balancers that it comes to have get
ids that were still to be given out. `NoneTwice` says of everything under such ids that it is there
once: a backend and a frontend of each, a server in each pool, and a rule of each name. `Fits` says
which requests keep that (`NoneTwice.answer`): what is made has been looked for and was not there.
All programs that are run for a cluster send such requests only, as long as no look-up fails as if
nothing was found (`NoneTwice.upholds_job`), so the same holds after any history of runs
(`noneTwice_aftermath`).
-/

namespace ControlPlane

open Program hiding ofExcept
open Cloud (numbered)

/-- The id was still to be given out on a cloud. -/
def Cloud.Later (c0 : Cloud) (kind id : String) : Prop := ∃ n, c0.nextId ≤ n ∧ id = numbered kind n

namespace Topology

variable {s : Scope} {c0 c c' : Cloud}

/-- The backends of a load balancer for the API server. -/
def backendsOf (c : Cloud) (id : String) : List Backend :=
  c.backends.filter fun k => decide (k.name = backendName) && decide (k.balancerId = id)

/-- The frontends of a load balancer for the API server. -/
def frontendsOf (c : Cloud) (id : String) : List Frontend :=
  c.frontends.filter fun f => decide (f.name = frontendName) && decide (f.balancerId = id)

/-- Of what is under load balancers whose ids have been given out since `c0`, nothing is there
twice; and the load balancers of the cluster have such ids. -/
structure NoneTwice (s : Scope) (c0 c : Cloud) : Prop where
  sound : c.Sound
  nextId : c0.nextId ≤ c.nextId
  own : ∀ b ∈ c.balancers, s.owns b.tags = true → c0.Later "lb" b.id
  backends : ∀ id, c0.Later "lb" id → (backendsOf c id).length ≤ 1
  pools : ∀ k ∈ c.backends, c0.Later "lb" k.balancerId → k.pool.Nodup
  frontends : ∀ id, c0.Later "lb" id → (frontendsOf c id).length ≤ 1
  ports : ∀ f ∈ c.frontends, c0.Later "lb" f.balancerId →
    f.zone ∈ s.site.zones ∧ c0.Later "frontend" f.id
  rules : ∀ id, c0.Later "frontend" id → ((Access.rulesOf c id).map (·.name)).Nodup

/-- A cloud with nothing of the cluster has nothing twice. -/
theorem NoneTwice.of_vacant (h : Vacant s c) : NoneTwice s c c := by
  -- At the start nothing is under an identifier that is still to be given out.
  have hbackends : ∀ k ∈ c.backends, ¬c.Later "lb" k.balancerId := by
    rintro k hk ⟨n, hn, heq⟩
    exact h.rooted.backends k hk n hn heq
  have hfrontends : ∀ f ∈ c.frontends, ¬c.Later "lb" f.balancerId := by
    rintro f hf ⟨n, hn, heq⟩
    exact h.rooted.frontends f hf n hn heq
  refine ⟨h.sound, Nat.le_refl _, fun b hb hown => ?_, fun id hid => ?_,
    fun k hk hid => (hbackends k hk hid).elim, fun id hid => ?_,
    fun f hf hid => (hfrontends f hf hid).elim, ?_⟩
  · exact absurd (h.unowned b hb) (hown ▸ Bool.noConfusion)
  · obtain ⟨n, hn, rfl⟩ := hid
    rw [backendsOf, Cloud.filter_and_eq_nil (h.rooted.blank hn).backends]
    exact Nat.zero_le 1
  · obtain ⟨n, hn, rfl⟩ := hid
    rw [frontendsOf, Cloud.filter_and_eq_nil (h.rooted.blank hn).frontends]
    exact Nat.zero_le 1
  · rintro id ⟨n, hn, rfl⟩
    have hnone : Access.rulesOf c (numbered "frontend" n) = [] :=
      List.filter_eq_nil_iff.2 fun r hr hid => h.rooted.rules r hr n hn (of_decide_eq_true hid)
    rw [hnone]
    exact List.nodup_nil

/-! ## Requests -/

/-- What is made by the request is not there yet, and neither is what is changed by it. -/
def Fits (s : Scope) (c : Cloud) : Request → Prop
  | .createBackend _ id name servers _ => name = backendName ∧ backendsOf c id = [] ∧ servers.Nodup
  | .setServers _ _ servers => servers.Nodup
  | .addServer _ id server => ∀ k ∈ c.backends, k.id = id → server ∉ k.pool
  | .createFrontend zone id name _ _ =>
    name = frontendName ∧ frontendsOf c id = [] ∧ zone ∈ s.site.zones
  | .createRule _ id spec => ∀ r ∈ Access.rulesOf c id, r.name ≠ spec.name
  | .updateRule _ id spec => ∀ r ∈ c.rules, r.id = id → r.name = spec.name
  | .setRules _ _ specs => (specs.map (·.name)).Nodup
  | _ => True

namespace NoneTwice

/-- Nothing is there twice of what becomes less. -/
theorem of_sublist (h : NoneTwice s c0 c) (hsound : c'.Sound) (hnext : c.nextId ≤ c'.nextId)
    (hown : ∀ b ∈ c'.balancers, s.owns b.tags = true → c0.Later "lb" b.id)
    (hbackends : c'.backends.Sublist c.backends) (hfrontends : c'.frontends.Sublist c.frontends)
    (hrules : c'.rules.Sublist c.rules) : NoneTwice s c0 c' where
  sound := hsound
  nextId := Nat.le_trans h.nextId hnext
  own := hown
  backends id hid := Nat.le_trans (hbackends.filter _).length_le (h.backends id hid)
  pools k hk := h.pools k (hbackends.subset hk)
  frontends id hid := Nat.le_trans (hfrontends.filter _).length_le (h.frontends id hid)
  ports f hf := h.ports f (hfrontends.subset hf)
  rules id hid := (h.rules id hid).sublist ((hrules.filter _).map _)

/-- A pool may change if it still has no server twice. -/
theorem of_pool (h : NoneTwice s c0 c) {id : String} {f : List String → List String} {k : Backend}
    (hk : c.changePool id f = (.ok k, c')) (hsound : c'.Sound)
    (hf : ∀ k ∈ c.backends, k.id = id → k.pool.Nodup → (f k.pool).Nodup) : NoneTwice s c0 c' := by
  rw [(Cloud.changePool_effect hk).2] at hsound ⊢
  refine ⟨hsound, h.nextId, h.own, fun b hb => ?_, fun k' hk' hlater => ?_, h.frontends, h.ports,
    h.rules⟩
  · rw [backendsOf, filter_changePool, List.length_map]
    exact h.backends b hb
  · obtain ⟨k0, hk0, rfl⟩ := List.mem_map.1 hk'
    by_cases hid : k0.id = id
    · rw [if_pos hid] at hlater ⊢
      exact hf k0 hk0 hid (h.pools k0 hk0 hlater)
    · rw [if_neg hid] at hlater ⊢
      exact h.pools k0 hk0 hlater

/-- What is the only one of its load balancer was not there before. -/
theorem length_concat_le {α : Type} {items : List α} {p : α → Bool} {a : α}
    (h : (items.filter p).length ≤ 1) (hfree : p a = true → items.filter p = []) :
    ((items ++ [a]).filter p).length ≤ 1 := by
  rw [List.filter_append, List.length_append]
  cases hp : p a with
  | true =>
    rw [hfree hp]
    simp [hp]
  | false =>
    simp only [List.filter_cons, hp, List.filter_nil]
    exact h

/-- A backend that is made for a load balancer without one is there once. -/
theorem of_createBackend (h : NoneTwice s c0 c) {k : Backend} {n : Nat}
    (hsound : Cloud.Sound { c with backends := c.backends ++ [k], nextId := n })
    (hn : c.nextId ≤ n) (hpool : k.pool.Nodup)
    (hfree : k.name = backendName → backendsOf c k.balancerId = []) :
    NoneTwice s c0 { c with backends := c.backends ++ [k], nextId := n } := by
  refine ⟨hsound, Nat.le_trans h.nextId hn, h.own, fun id hid => ?_, fun k' hk' hlater => ?_,
    h.frontends, h.ports, h.rules⟩
  · refine length_concat_le (h.backends id hid) fun hp => ?_
    rw [Bool.and_eq_true, decide_eq_true_eq, decide_eq_true_eq] at hp
    rw [← hp.2]
    exact hfree hp.1
  · rcases List.mem_append.1 hk' with hk' | hk'
    · exact h.pools k' hk' hlater
    · rw [List.mem_singleton.1 hk']
      exact hpool

/-- A frontend that is made for a load balancer without one is there once. -/
theorem of_createFrontend (h : NoneTwice s c0 c) {f : Frontend}
    (hsound : Cloud.Sound { c with frontends := c.frontends ++ [f], nextId := c.nextId + 1 })
    (hid : f.id = numbered "frontend" c.nextId) (hzone : f.zone ∈ s.site.zones)
    (hfree : f.name = frontendName → frontendsOf c f.balancerId = []) :
    NoneTwice s c0 { c with frontends := c.frontends ++ [f], nextId := c.nextId + 1 } := by
  refine ⟨hsound, Nat.le_trans h.nextId (Nat.le_succ _), h.own, h.backends, h.pools, fun id hlater =>
    ?_, fun f' hf' hlater => ?_, h.rules⟩
  · refine length_concat_le (h.frontends id hlater) fun hp => ?_
    rw [Bool.and_eq_true, decide_eq_true_eq, decide_eq_true_eq] at hp
    rw [← hp.2]
    exact hfree hp.1
  · rcases List.mem_append.1 hf' with hf' | hf'
    · exact h.ports f' hf' hlater
    · rw [List.mem_singleton.1 hf']
      exact ⟨hzone, c.nextId, h.nextId, hid⟩

/-- Rules may change where no two of one name are on a frontend afterwards. -/
theorem of_rules (h : NoneTwice s c0 c) {rules : List Rule} {n : Nat}
    (hsound : Cloud.Sound { c with rules, nextId := n }) (hn : c.nextId ≤ n)
    (hrules : ∀ id, ((c.rules.filter (·.frontendId = id)).map (·.name)).Nodup →
      ((rules.filter (·.frontendId = id)).map (·.name)).Nodup) :
    NoneTwice s c0 { c with rules, nextId := n } :=
  ⟨hsound, Nat.le_trans h.nextId hn, h.own, h.backends, h.pools, h.frontends, h.ports,
    fun id hid => hrules id (h.rules id hid)⟩

/-- A rule may be added to a frontend that has none of its name. -/
theorem nodup_createRule {r : Rule} {id : String}
    (hfree : ∀ x ∈ Access.rulesOf c r.frontendId, x.name ≠ r.name)
    (h : ((c.rules.filter (·.frontendId = id)).map (·.name)).Nodup) :
    (((c.rules ++ [r]).filter (·.frontendId = id)).map (·.name)).Nodup := by
  rw [List.filter_append, List.map_append]
  by_cases hid : r.frontendId = id
  · have hnew : r.name ∉ (c.rules.filter (·.frontendId = id)).map (·.name) := by
      intro hmem
      obtain ⟨x, hx, hname⟩ := List.mem_map.1 hmem
      exact hfree x (hid ▸ hx) hname
    simpa [hid] using h.concat hnew
  · simpa [hid] using h

/-- A rule that keeps its name may say something else. -/
theorem nodup_updateRule {id frontendId : String} {spec : RuleSpec}
    (hname : ∀ r ∈ c.rules, r.id = id → r.name = spec.name)
    (h : ((c.rules.filter (·.frontendId = frontendId)).map (·.name)).Nodup) :
    (((c.rules.map fun r => if r.id = id then { r with toRuleSpec := spec } else r).filter
      (·.frontendId = frontendId)).map (·.name)).Nodup := by
  let put (r : Rule) : Rule := if r.id = id then { r with toRuleSpec := spec } else r
  -- The update moves no rule and renames none.
  have hput : ∀ r ∈ c.rules, (put r).frontendId = r.frontendId ∧ (put r).name = r.name := by
    intro r hmem
    by_cases hid : r.id = id
    · rw [show put r = { r with toRuleSpec := spec } from if_pos hid]
      exact ⟨rfl, (hname r hmem hid).symm⟩
    · rw [show put r = r from if_neg hid]
      exact ⟨rfl, rfl⟩
  have hfilter : c.rules.filter ((fun r => decide (r.frontendId = frontendId)) ∘ put) =
      c.rules.filter (·.frontendId = frontendId) :=
    List.filter_congr fun r hmem => by rw [Function.comp_apply, (hput r hmem).1]
  have hnames : (c.rules.filter (·.frontendId = frontendId)).map ((·.name) ∘ put) =
      (c.rules.filter (·.frontendId = frontendId)).map (·.name) :=
    List.map_congr_left fun r hmem => (hput r (List.mem_of_mem_filter hmem)).2
  rw [List.filter_map, hfilter, List.map_map, hnames]
  exact h

/-- What fits keeps everything there once, answered or refused. -/
theorem answer (h : NoneTwice s c0 c) {r : Request} (hr : Fits s c r) :
    NoneTwice s c0 (c.answer r).2 := by
  have hsound := h.sound.answer r
  have hnext := Cloud.nextId_le_answer c r
  rcases hv : c.answer r with ⟨e | v, c'⟩
  · -- A failure at most uses up ids.
    rw [hv] at hsound hnext
    rw [Cloud.eq_of_refused hv] at hsound hnext ⊢
    exact h.of_sublist hsound hnext h.own (.refl _) (.refl _) (.refl _)
  rw [hv] at hsound hnext
  -- A success is one of the four ways to change what is counted: less of it, a pool, one thing
  -- more, or rules. Load balancers matter only by what their ids are.
  dsimp only at hsound hnext ⊢
  cases r with
  | listBalancers | listAddresses | listBackends | listFrontends | listRules | listAttachments
  | listPrivateAddresses | listGateways =>
    cases hv
    exact h
  | createBalancer =>
    -- The new load balancer has an id that was still to be given out.
    obtain ⟨hb, _, hc'⟩ := Cloud.createBalancer_effect hv
    rw [hc'] at hsound hnext ⊢
    refine h.of_sublist hsound hnext (fun x hx hown => ?_) (.refl _) (.refl _) (.refl _)
    rcases List.mem_append.1 hx with hx | hx
    · exact h.own x hx hown
    · rw [List.mem_singleton.1 hx]
      exact ⟨c.nextId, h.nextId, congrArg LoadBalancer.id hb⟩
  | migrateBalancer =>
    rw [(Cloud.migrateBalancer_effect hv).2] at hsound hnext ⊢
    refine h.of_sublist hsound hnext (fun x hx hown => ?_) (.refl _) (.refl _) (.refl _)
    obtain ⟨x0, hx0, rfl⟩ := List.mem_map.1 hx
    split at hown
    · next hid => simpa only [if_pos hid] using h.own x0 hx0 hown
    · next hid => simpa only [if_neg hid] using h.own x0 hx0 hown
  | deleteBalancer =>
    -- With a load balancer goes what is under it.
    rw [(Cloud.deleteBalancer_effect hv).2] at hsound hnext ⊢
    exact h.of_sublist hsound hnext (fun x hx => h.own x (List.mem_of_mem_filter hx))
      List.filter_sublist List.filter_sublist List.filter_sublist
  | attach =>
    rw [(Cloud.attach_effect hv).2.1] at hsound hnext ⊢
    exact h.of_sublist hsound hnext h.own (.refl _) (.refl _) (.refl _)
  | createBackend zone id name servers port =>
    -- The request is fitting: there is no backend yet, nor a frontend below.
    obtain ⟨hname, hnone, hnodup⟩ := hr
    obtain ⟨_, rfl, rfl⟩ := Cloud.createBackend_effect hv
    exact h.of_createBackend hsound hnext hnodup fun _ => hnone
  | setServers zone id servers =>
    have hv' : c.changePool id (fun _ => servers) = (.ok v, c') := hv
    exact h.of_pool hv' hsound fun _ _ _ _ => hr
  | addServer zone id server =>
    obtain ⟨k, hk⟩ := Cloud.addServer_effect hv
    refine h.of_pool hk hsound fun k hk hid hnodup => ?_
    rw [← List.concat_eq_append]
    exact hnodup.concat (hr k hk hid)
  | removeServer =>
    obtain ⟨k, hk⟩ := Cloud.removeServer_effect hv
    exact h.of_pool hk hsound fun k _ _ hnodup => hnodup.erase _
  | createFrontend zone id name backendId port =>
    obtain ⟨hname, hnone, hzone⟩ := hr
    obtain ⟨_, _, rfl, rfl⟩ := Cloud.createFrontend_effect hv
    exact h.of_createFrontend hsound rfl hzone fun _ => hnone
  | createRule zone frontendId spec =>
    obtain ⟨_, rfl, rfl⟩ := Cloud.createRule_effect hv
    exact h.of_rules hsound hnext fun id => nodup_createRule hr
  | updateRule zone id spec =>
    have hv' : c.updateRule id spec = (.ok v, c') := hv
    rw [Cloud.updateRule_effect hv'] at hsound hnext ⊢
    exact h.of_rules hsound hnext fun frontendId => nodup_updateRule hr
  | deleteRule =>
    rw [Cloud.deleteRule_effect hv] at hsound hnext ⊢
    exact h.of_sublist hsound hnext h.own (.refl _) (.refl _) List.filter_sublist
  | setRules zone frontendId specs =>
    -- The rules that are set have the names that were given, each once.
    obtain ⟨new, n, hc', hspecs, hnew⟩ := Cloud.setRules_effect hv
    rw [hc'] at hsound hnext ⊢
    refine h.of_rules hsound hnext fun id hnodup => ?_
    have hrules := Access.rulesOf_replaced (c := c) (n := n) hnew id
    unfold Access.rulesOf at hrules
    dsimp only at hrules
    rw [hrules]
    split
    · have hnames : new.map (·.name) = specs.map (·.name) := by
        rw [← hspecs, List.map_map]
        rfl
      rw [hnames]
      exact hr
    · exact hnodup

/-! ## Programs -/

/-- A program of requests that always fit. -/
theorem upholds {α : Type} {allowed : Request → Prop} {p : Program α} (hp : p.Orderly allowed)
    (hallowed : ∀ r c, allowed r → Fits s c r) (h : NoneTwice s c0 c) :
    p.Upholds (NoneTwice s c0) c :=
  hp.upholds (fun r c hr hc => hc.answer (hallowed r c hr)) h

/-- What is done in a zone is done in a zone of the region. -/
theorem upholds_fitting (h : NoneTwice s c0 c) {site : Site} {zone : String} {r : Request}
    (hr : zone ∈ site.zones → Fits s c r) :
    (site.checkZone zone >>= fun _ => request r).Upholds (NoneTwice s c0) c :=
  upholds_in_zone h fun hzone => upholds_request h (h.answer (hr hzone))

/-! ### Backends and frontends -/

/-- Ensuring a backend makes nothing twice, whatever fails. -/
theorem upholds_backend (h : NoneTwice s c0 c) {site : Site} {b : LoadBalancer}
    {servers : List String} {update : Bool} (hservers : servers.Nodup) :
    (ensureBackend site b servers update).Upholds (NoneTwice s c0) c := by
  have hsorted : (sortTexts servers).Nodup := (sortTexts_perm servers).nodup_iff.2 hservers
  obtain ⟨step, heq, hstep⟩ := ensureBackend_steps site b servers update
  rw [heq]
  refine (ReadOnly.upholds Site.findBackend_readOnly.orNone h).bind fun found c1 hfind h1 => ?_
  obtain ⟨_, hfilter, rfl⟩ := Site.findBackend_returns.1 hfind
  cases hstep found with
  | created hp =>
    rw [hp]
    exact h1.upholds_fitting (r := .createBackend _ _ _ _ _) fun _ => ⟨rfl, hfilter, hsorted⟩
  | updated k _ _ hp => exact hp ▸ h1.upholds_fitting (r := .setServers _ _ _) fun _ => hsorted
  | kept k _ hp => exact hp ▸ upholds_done h1 _

/-- Copying a pool makes nothing twice. -/
theorem upholds_copyPool (h : NoneTwice s c0 c) {site : Site} {servers : List String}
    {bs : List LoadBalancer} (hservers : servers.Nodup) :
    (copyPool site servers bs).Upholds (NoneTwice s c0) c := by
  rw [copyPool_eq]
  exact (upholds_closed _).mapM' (fun _ _ _ h => h.upholds_backend hservers) c h

/-- The pool of the primary has no server twice, and so the copies have none. -/
theorem upholds_backends (h : NoneTwice s c0 c) {site : Site} {b : LoadBalancer}
    {bs : List LoadBalancer} (hb : c0.Later "lb" b.id) :
    (ensureBackends site b bs).Upholds (NoneTwice s c0) c := by
  refine (h.upholds_backend List.nodup_nil).bind fun k c1 hk h1 => ?_
  obtain ⟨_, hhas, _⟩ := ensureBackend_spec h.sound hk
  have hpool : k.pool.Nodup := h1.pools k hhas.mem (hhas.balancerId ▸ hb)
  exact (h1.upholds_copyPool hpool).bind fun more c2 _ h2 => upholds_done h2 _

/-- Ensuring a frontend makes nothing twice. -/
theorem upholds_frontend (h : NoneTwice s c0 c) {k : Backend} :
    (ensureFrontend s k).Upholds (NoneTwice s c0) c := by
  obtain ⟨step, heq, hstep⟩ := ensureFrontend_steps s k
  rw [heq]
  refine (ReadOnly.upholds Site.findFrontend_readOnly.orNone h).bind fun found c1 hfind h1 => ?_
  obtain ⟨_, hfilter, rfl⟩ := Site.findFrontend_returns.1 hfind
  cases hstep found with
  | created hp =>
    rw [hp]
    exact h1.upholds_fitting (r := .createFrontend _ _ _ _ _) fun hzone => ⟨rfl, hfilter, hzone⟩
  | kept f hp =>
    have hport : (checkPort f s.apiServerPort).ReadOnly := checkPort_orderly
    exact hp ▸ (ReadOnly.upholds hport h1).bind fun _ c2 _ h2 => upholds_done h2 _

/-- The frontend phase makes nothing twice. -/
theorem upholds_frontends (h : NoneTwice s c0 c) {known : FrontendMap} {ks : List Backend} :
    (ensureFrontends s known ks).Upholds (NoneTwice s c0) c := by
  rw [ensureFrontends_eq]
  have hclosed := upholds_closed (NoneTwice s c0)
  refine hclosed.foldlM (fun m k _ => ?_) known c h
  exact hclosed.bind (fun _ h => h.upholds_frontend) fun _ => hclosed.done _

/-! ### Rules -/

/-- Ensuring a rule makes nothing twice. -/
theorem upholds_rule (h : NoneTwice s c0 c) {site : Site} {f : Frontend} {d : DesiredRule} :
    (Access.ensureRule site f d).Upholds (NoneTwice s c0) c := by
  obtain ⟨step, heq, hstep⟩ := Access.ensureRule_steps site f d
  rw [heq]
  refine (ReadOnly.upholds Site.findRule_readOnly.orNone h).bind fun found c1 hfind h1 => ?_
  obtain ⟨_, hfilter, rfl⟩ := Site.findRule_returns.1 hfind
  rw [← List.filter_filter] at hfilter
  cases hstep found with
  | removed r _ hp => exact hp ▸ h1.upholds_fitting (r := .deleteRule _ _) fun _ => trivial
  | absent _ hp | kept _ _ _ hp => exact hp ▸ upholds_done h1 _
  | created _ hp =>
    rw [hp]
    refine Upholds.discard (upholds_specified h1 fun spec hspec => ?_)
    refine upholds_request h1 (h1.answer (r := .createRule _ _ _) fun r hr hsame => ?_)
    rw [Access.specified_eq_ok hspec] at hsame
    exact List.filter_eq_nil_iff.1 hfilter r hr (decide_eq_true hsame)
  | replaced r _ _ hp =>
    rw [hp]
    refine Upholds.discard (upholds_specified h1 fun spec hspec => ?_)
    refine upholds_request h1 (h1.answer (r := .updateRule _ _ _) fun x hx hid => ?_)
    -- Whatever has the id of the rule that has been found is that rule.
    have hr : r ∈ (Access.rulesOf c1 f.id).filter (·.name = d.name) :=
      hfilter ▸ List.mem_singleton_self r
    obtain ⟨hmem, hrname⟩ := List.mem_filter.1 hr
    rw [h1.sound.rules.inj hx (List.mem_of_mem_filter hmem) hid, Access.specified_eq_ok hspec]
    exact of_decide_eq_true hrname

/-- Ensuring several rules makes nothing twice. -/
theorem upholds_rules (h : NoneTwice s c0 c) {site : Site} {f : Frontend} {ds : List DesiredRule} :
    (Access.ensureRules site f ds).Upholds (NoneTwice s c0) c := by
  rw [Access.ensureRules_eq]
  exact (upholds_closed _).forM (fun _ _ _ h => h.upholds_rule) c h

/-- Copying rules of distinct names to a frontend makes nothing twice. -/
theorem upholds_copyTo (h : NoneTwice s c0 c) {site : Site} {rules : List Rule} {f : Frontend}
    (hrules : (rules.map (·.name)).Nodup) :
    (Access.copyTo site rules f).Upholds (NoneTwice s c0) c := by
  obtain ⟨step, heq, hstep⟩ := Access.copyTo_steps site rules f
  rw [heq]
  refine (ReadOnly.upholds Site.listRules_readOnly h).bind fun others c1 _ h1 => ?_
  cases hstep others with
  | agreed _ hp => exact hp ▸ upholds_done h1 _
  | copied _ hp =>
    rw [hp]
    refine Upholds.discard (h1.upholds_fitting (r := .setRules _ _ _) fun _ => ?_)
    rw [Fits, List.map_map]
    exact hrules

/-- Copying rules of distinct names to several frontends makes nothing twice. -/
theorem upholds_copyRules (h : NoneTwice s c0 c) {site : Site} {primaryId : String}
    {rules : List Rule} {m : FrontendMap} (hrules : (rules.map (·.name)).Nodup) :
    (Access.copyRules site primaryId rules m).Upholds (NoneTwice s c0) c := by
  rw [Access.copyRules_eq]
  exact (upholds_closed _).forM (fun _ _ _ h => h.upholds_copyTo hrules) c h

/-- The rules of the primary's frontend have distinct names, and so the copies have. -/
theorem upholds_sync (h : NoneTwice s c0 c) {primaryId : String} {m : FrontendMap}
    (hm : ∀ f, m.lookup primaryId = some f → c0.Later "frontend" f.id) :
    (Access.sync s primaryId m).Upholds (NoneTwice s c0) c := by
  cases hf : m.lookup primaryId with
  | none => exact Access.sync_of_none hf ▸ List.forall_mem_singleton.2 h
  | some f =>
    rw [Access.sync_of_some hf]
    refine (ReadOnly.upholds Access.desiredRules_readOnly h).bind fun ds c1 _ h1 => ?_
    refine h1.upholds_rules.bind fun _ c2 _ h2 => ?_
    cases Access.spread_steps s.site primaryId f m with
    | alone _ hp => exact hp ▸ upholds_done h2 _
    | copied _ hp =>
      rw [hp]
      -- The names of the rules that are copied are distinct, as the primary's frontend is one of
      -- the run.
      refine (ReadOnly.upholds Site.listRules_readOnly h2).bind fun rules c3 hlist h3 => ?_
      obtain ⟨_, rfl, rfl⟩ := Site.listRules_returns.1 hlist
      exact h3.upholds_copyRules (h3.rules f.id (hm f hf))

/-! ### Whole runs -/

/-- All phases of a run make nothing twice. -/
theorem upholds_arrange (h : NoneTwice s c0 c) : (arrange s).Upholds (NoneTwice s c0) c := by
  unfold arrange
  refine (h.upholds ensurePrimary_orderly fun r c hr => ?_).bind fun b c1 hprimary h1 => ?_
  · cases r <;> trivial
  obtain ⟨q, rfl, hq⟩ := ensurePrimary_spec h.sound hprimary
  -- The primary was made by a run, and therefore what is under it too.
  have hid : c0.Later "lb" q.id := h1.own q hq.only.mem (owns_of_primaryTags hq.only.primary.2)
  refine (h1.upholds Secondary.ensure_orderly fun r c hr => ?_).bind fun bs c2 _ h2 => ?_
  · cases r <;> trivial
  refine (upholds_ofExcept h2 _).bind fun _ c2' hready h2' => ?_
  refine (h2'.upholds ensurePrivateNetwork_orderly fun r c hr => ?_).bind fun rs c3 hnetwork h3 => ?_
  · cases r <;> trivial
  obtain rfl := (ensurePrivateNetwork_spec hnetwork).1
  dsimp only
  rw [(settled_append c3 _ bs).1, (settled_append c3 _ bs).2]
  refine (h3.upholds_backends hid).bind fun ks c4 _ h4 => ?_
  refine h4.upholds_frontends.bind fun m c5 hfrontends h5 => ?_
  have hport : ∀ f, m.lookup q.id = some f → c0.Later "frontend" f.id := by
    intro f hf
    obtain ⟨hmaps, hkeys, _⟩ := ensureFrontends_spec (List.forall_mem_nil _) List.nodup_nil hfrontends
    have hentry := (Reconciler.lookup_eq_some_iff_mem hkeys).1 hf
    obtain ⟨hmem, _, hparent⟩ := (hmaps _ hentry).mem_filter
    exact (h5.ports f hmem (hparent ▸ hid)).2
  exact (h5.upholds_sync hport).bind fun _ c6 _ h6 => upholds_done h6 _

/-- Acting on live load balancers makes nothing twice, if the single actions do not. -/
theorem upholds_eachLive (h : NoneTwice s c0 c) {act : LoadBalancer → Program Unit}
    {bs : List LoadBalancer} (hact : ∀ b c, NoneTwice s c0 c → (act b).Upholds (NoneTwice s c0) c) :
    (Member.eachLive act bs).Upholds (NoneTwice s c0) c := by
  rw [Member.eachLive_eq]
  exact (upholds_closed _).forM (fun b _ => hact b) c h

/-- Registering a node with a pool makes nothing twice. -/
theorem upholds_server (h : NoneTwice s c0 c) {site : Site} {node : String} {deletion : Bool}
    {b : LoadBalancer} : (Member.ensureServer site node deletion b).Upholds (NoneTwice s c0) c := by
  obtain ⟨step, heq, hstep⟩ := Member.ensureServer_steps site node deletion b
  rw [heq]
  refine (ReadOnly.upholds Site.findBackend_readOnly h).bind fun k c1 hfind h1 => ?_
  obtain ⟨_, hfilter, rfl⟩ := Site.findBackend_returns.1 (returns_orNone_some.2 hfind)
  have hk : HasBackend c1 b.id k := hfilter
  cases hstep k with
  | removed _ _ hp => exact hp ▸ h1.upholds_fitting (r := .removeServer _ _ _) fun _ => trivial
  | added _ hnone hp =>
    rw [hp]
    refine h1.upholds_fitting (r := .addServer _ _ _) fun _ x hx hid => ?_
    rw [h1.sound.backends.inj hx hk.mem hid]
    exact hnone
  | kept _ hp => exact hp ▸ upholds_done h1 _

/-- Ensuring the rule of a member makes nothing twice. -/
theorem upholds_memberRule {m : Member} (h : NoneTwice s c0 c) {addresses : List String}
    {deletion : Bool} {b : LoadBalancer} :
    (m.ensureRule addresses deletion b).Upholds (NoneTwice s c0) c := by
  refine (ReadOnly.upholds Member.findFrontend_readOnly h).bind fun found c1 _ h1 => ?_
  cases found with
  | none => exact upholds_done h1 _
  | some f => exact h1.upholds_rule

/-- Whatever is run for the cluster, nothing is made twice on the way. -/
theorem upholds_job (h : NoneTwice s c0 c) (j : Job) :
    (j.program s).Upholds (NoneTwice s c0) c := by
  cases j with
  | reconcile =>
    show (reconcile s).Upholds _ c
    rw [reconcile_eq]
    exact h.upholds_arrange.bind fun _ c1 _ h1 => publish_upholds h1
  | delete =>
    refine h.upholds delete_orderly fun r c hr => ?_
    cases r <;> trivial
  | register name node addresses =>
    refine (ReadOnly.upholds Member.findBalancers_readOnly h).bind fun bs c1 _ h1 => ?_
    refine (h1.upholds_eachLive fun _ _ hc => hc.upholds_server).bind fun _ c2 _ h2 => ?_
    exact h2.upholds_eachLive fun _ _ hc => hc.upholds_memberRule
  | remove name node =>
    refine (ReadOnly.upholds Member.findBalancers_readOnly.orNone h).bind fun found c1 _ h1 => ?_
    refine (h1.upholds_eachLive fun _ _ hc => hc.upholds_memberRule).bind fun _ c2 _ h2 => ?_
    exact h2.upholds_eachLive fun _ _ hc => hc.upholds_server

end NoneTwice

/-- After any history of runs nothing has been made twice, if no request has failed as a look-up
does that finds nothing. -/
theorem noneTwice_aftermath (h : NoneTwice s c0 c) {runs : List (Job × Circumstances)}
    (gentle : ∀ r ∈ runs, r.2.Gentle) : NoneTwice s c0 (aftermath s c runs) :=
  aftermath_keeps (fun _ hc j => hc.upholds_job j) h gentle

end Topology

end ControlPlane
