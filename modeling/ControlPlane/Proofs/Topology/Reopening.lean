import ControlPlane.Proofs.Topology.Namesakes

/-!
# Denying everyone else beside the declared ranges only

A frontend admits someone if there is no rule that denies everyone else without one that allows the
declared ranges beside it (`Access.Admits`). The rule that allows comes first in the order in which
the rules are ensured, and the rule that denies comes last. Where there are ranges, this is the
order that keeps the frontend admitting. Where there are none any more, both rules are deleted, in
the same order: in between, everyone is denied, and if the run is interrupted there, everyone stays
so. `Access.sync_admits_iff` says that this is the only way in which syncing can lock a frontend.
-/

namespace ControlPlane

open Program hiding ofExcept

/-! ## Interrupted runs -/

/-- The session goes on as it is until a request to an endpoint, which is answered and cancels it.
-/
def Session.CanceledAt (endpoint : String) (x : Session Trial) : Prop :=
  x.world.canceled = false ∧ x.world.store.disturbances = [{ endpoint, cancels := true }]

/-- A request is answered as the cloud answers it, and the session is canceled if it is to the
endpoint. -/
theorem Session.CanceledAt.call {endpoint : String} {x : Session Trial} (hx : x.CanceledAt endpoint)
    {r : Request} {v : r.Reply} {c' : Cloud} (h : x.cloud.answer r = (.ok v, c')) :
    ∃ x', x.call Trial.provider none r = (.ok v, x') ∧ x'.cloud = c' ∧
      (r.endpoint ≠ endpoint → x'.CanceledAt endpoint) ∧
      (r.endpoint = endpoint → x'.world.canceled = true) := by
  obtain ⟨hcanceled, hdisturbances⟩ := hx
  have hlive : checkRun x.world.canceled (remaining none x.world.now) = .ok () := by
    rw [hcanceled]
    rfl
  unfold Session.cloud at h
  by_cases hend : r.endpoint = endpoint
  · -- The one disturbance cancels the session, and fails no request.
    have happlies : ∀ n, [({ endpoint, cancels := true } : Disturbance)].filter
        (Trial.applies r.endpoint n) = [{ endpoint, cancels := true }] := fun n =>
      List.filter_cons_of_pos (by simp [Trial.applies, hend])
    simp only [Session.call, hlive, Trial.provider, hdisturbances, happlies, Trial.disturb, h,
      Bool.or_true]
    exact ⟨_, rfl, rfl, fun hne => absurd hend hne, fun _ => rfl⟩
  · have happlies : ∀ n, [({ endpoint, cancels := true } : Disturbance)].filter
        (Trial.applies r.endpoint n) = [] := fun n =>
      List.filter_cons_of_neg (by simp [Trial.applies, Ne.symm hend])
    simp only [Session.call, hlive, Trial.provider, hdisturbances, happlies, Trial.disturb, h]
    exact ⟨_, rfl, rfl, fun _ => ⟨hcanceled, rfl⟩, fun heq => absurd heq hend⟩

namespace Program

variable {α β : Type} {endpoint : String} {x : Session Trial} {c' : Cloud}

/-- Up to the endpoint, a run is that of the program on the cloud. -/
theorem Orderly.run_before {p : Program α} (hp : p.Orderly fun r => r.endpoint ≠ endpoint)
    (hx : x.CanceledAt endpoint) {a : α} (h : p.Returns x.cloud a c') :
    ∃ x', p.run Trial.provider none x = (.ok a, x') ∧ x'.cloud = c' ∧ x'.CanceledAt endpoint := by
  induction p generalizing x with
  | done b =>
    obtain ⟨rfl, rfl⟩ := returns_done.1 h
    exact ⟨x, rfl, rfl, hx⟩
  | fail e => exact (returns_fail h).elim
  | send r next ih =>
    obtain ⟨hr, hfail, hnext⟩ := hp
    have h' : (next (x.cloud.answer r).1).Returns (x.cloud.answer r).2 a c' := h
    rcases hv : x.cloud.answer r with ⟨e | v, c1⟩
    -- A refused request has ended the program.
    · rw [hv] at h'
      dsimp only at h'
      rw [hfail e (.inl (Cloud.isMutation_of_error hv))] at h'
      exact (returns_fail h').elim
    · rw [hv] at h'
      obtain ⟨x1, hcall, hx1, hbefore, -⟩ := hx.call hv
      unfold Program.run
      rw [hcall]
      exact ih (.ok v) (hnext _) (hbefore hr) (hx1.symm ▸ h')
  | report e next ih =>
    have hworld := x.note_world e
    cases e with
    | log level line => exact ih (x := x.note _) hp hx h
    | address | secondaryAddresses | condition => exact hp.elim

/-- A run that is canceled changes nothing any more. -/
theorem run_of_canceled (p : Program α) (deadline : Option Seconds)
    (hx : x.world.canceled = true) : (p.run Trial.provider deadline x).2.world = x.world := by
  induction p generalizing x with
  | done | fail => rfl
  | send r next ih =>
    obtain ⟨e, hcheck⟩ : ∃ e, checkRun x.world.canceled (remaining deadline x.world.now) =
        .error e := by
      rw [hx]
      exact ⟨_, rfl⟩
    unfold Program.run
    rw [Session.call_of_error hcheck]
    exact ih _ hx
  | report e next ih =>
    have hworld := x.note_world e
    exact (ih (x := x.note e) (hworld ▸ hx)).trans hworld

/-- Where the first part of a run is canceled, the rest changes nothing. -/
theorem run_bind_of_canceled {p : Program α} {f : α → Program β} {deadline : Option Seconds}
    {x' : Session Trial} (h : (p.run Trial.provider deadline x).2.world = x'.world)
    (hx' : x'.world.canceled = true) :
    ((p >>= f).run Trial.provider deadline x).2.world = x'.world := by
  rw [run_bind]
  rcases hrun : p.run Trial.provider deadline x with ⟨e | a, x1⟩
  · rw [hrun] at h
    exact h
  · rw [hrun] at h
    exact (run_of_canceled (f a) deadline (h ▸ hx')).trans h

end Program

/-! ## Rules of a name -/

namespace Access

variable {c c' : Cloud} {zone frontendId name : String}

/-- There is a rule of a name on a frontend. -/
def Named (c : Cloud) (frontendId name : String) : Prop :=
  ∃ r ∈ c.rules, r.frontendId = frontendId ∧ r.name = name

instance (c : Cloud) (frontendId name : String) : Decidable (Named c frontendId name) :=
  inferInstanceAs (Decidable (∃ r ∈ c.rules, r.frontendId = frontendId ∧ r.name = name))

/-- If everyone else is denied on a frontend, then the declared ranges are allowed. -/
def Admits (c : Cloud) (frontendId : String) : Prop :=
  Named c frontendId denyAllName → Named c frontendId rangesName

instance (c : Cloud) (frontendId : String) : Decidable (Admits c frontendId) :=
  inferInstanceAs (Decidable (_ → _))

/-- A frontend has a rule of a name if the name is among those of its rules. -/
theorem named_iff_mem :
    Named c frontendId name ↔ name ∈ (rulesOf c frontendId).map (·.name) := by
  rw [List.mem_map]
  refine exists_congr fun y => ?_
  rw [rulesOf, List.mem_filter, decide_eq_true_iff, and_assoc]

/-- A frontend has a rule of a name if some of its rules have that name. -/
theorem named_iff_filter :
    Named c frontendId name ↔ (rulesOf c frontendId).filter (·.name = name) ≠ [] := by
  rw [named_iff_mem, List.mem_map, ne_eq, List.filter_eq_nil_iff]
  simp

/-- The only rule of a name on a frontend. -/
theorem mem_of_sole {r : Rule} (h : (rulesOf c frontendId).filter (·.name = name) = [r]) :
    r ∈ c.rules ∧ r.frontendId = frontendId ∧ r.name = name := by
  obtain ⟨hmem, hname⟩ := List.mem_filter.1 (h ▸ List.mem_singleton_self r)
  obtain ⟨hmem, hfrontend⟩ := List.mem_filter.1 hmem
  exact ⟨hmem, of_decide_eq_true hfrontend, of_decide_eq_true hname⟩

/-- A rule that is created adds its name to those on its frontend. -/
theorem named_create {spec : RuleSpec} {x : Rule}
    (h : c.answer (.createRule zone frontendId spec) = (.ok x, c')) (g n : String) :
    Named c' g n ↔ Named c g n ∨ frontendId = g ∧ spec.name = n := by
  obtain ⟨_, rfl, rfl⟩ := Cloud.createRule_effect h
  unfold Named
  simp only [List.mem_append, List.mem_singleton, or_and_right, exists_or, exists_eq_left]

/-- A rule that is updated under its name leaves the names. -/
theorem named_update {spec : RuleSpec} {x : Rule} {ruleId : String}
    (hname : ∀ y ∈ c.rules, y.id = ruleId → y.name = spec.name)
    (h : c.answer (.updateRule zone ruleId spec) = (.ok x, c')) (g n : String) :
    Named c' g n ↔ Named c g n := by
  have h' : c.updateRule ruleId spec = (.ok x, c') := h
  rw [Cloud.updateRule_effect h']
  unfold Named
  dsimp only
  simp only [List.mem_map, exists_exists_and_eq_and]
  refine exists_congr fun y => and_congr_right fun hy => ?_
  split
  · next hid => rw [← hname y hy hid]
  · rfl

/-- A rule that is deleted takes its name away, unless another rule on the frontend has it. -/
theorem named_delete {ruleId : String} {u : Unit}
    (h : c.answer (.deleteRule zone ruleId) = (.ok u, c')) (g n : String) :
    Named c' g n ↔ ∃ y ∈ c.rules, y.id ≠ ruleId ∧ y.frontendId = g ∧ y.name = n := by
  rw [Cloud.deleteRule_effect h]
  unfold Named
  dsimp only
  refine exists_congr fun y => ?_
  rw [List.mem_filter, decide_eq_true_iff, and_assoc]

/-- Setting the rules of a frontend replaces its names. -/
theorem named_set {specs : List RuleSpec} {rs : List Rule}
    (h : c.answer (.setRules zone frontendId specs) = (.ok rs, c')) (g n : String) :
    Named c' g n ↔
      if g = frontendId then n ∈ specs.map (·.name) else Named c g n := by
  obtain ⟨new, k, rfl, hspecs, hnew⟩ := Cloud.setRules_effect h
  have hnames : specs.map (·.name) = new.map (·.name) := by
    rw [← hspecs, List.map_map]
    rfl
  unfold Named
  simp only [List.mem_append, List.mem_filter, decide_eq_true_iff, or_and_right, exists_or]
  split
  · next hg =>
    rw [hnames, List.mem_map]
    constructor
    · -- The frontend has the new rules and no others.
      rintro (⟨y, ⟨-, hother⟩, hself, -⟩ | ⟨y, hy, -, hname⟩)
      · exact absurd (hself.trans hg) hother
      · exact ⟨y, hy, hname⟩
    · rintro ⟨y, hy, hname⟩
      exact .inr ⟨y, hy, (hnew y hy).trans hg.symm, hname⟩
  · next hg =>
    constructor
    · rintro (⟨y, ⟨hy, -⟩, hnamed⟩ | ⟨y, hy, hself, -⟩)
      · exact ⟨y, hy, hnamed⟩
      · exact absurd (hself.symm.trans (hnew y hy)) hg
    · rintro ⟨y, hy, hself, hname⟩
      exact .inl ⟨y, ⟨hy, fun heq => hg (hself.symm.trans heq)⟩, hself, hname⟩

/-! ## Requests that keep frontends admitting -/

/-- A request that leaves every frontend admitting that does admit. -/
def KeepsOpen (c : Cloud) (r : Request) : Prop := ∀ g, Admits c g → Admits (c.answer r).2 g

/-- A request keeps frontends open if it does so when it succeeds, since a failure changes no rules.
-/
theorem keepsOpen_of_answered {r : Request}
    (h : ∀ v c', c.answer r = (.ok v, c') → ∀ g, Admits c g → Admits c' g) : KeepsOpen c r := by
  intro g hg
  rcases hv : c.answer r with ⟨e | v, c'⟩
  · exact (Cloud.eq_of_refused hv).symm ▸ hg
  · exact h v c' hv g hg

/-- A look-up keeps frontends open. -/
theorem keepsOpen_of_lookup {r : Request} (h : r.isMutation = false) : KeepsOpen c r := by
  obtain ⟨v, hv⟩ := Cloud.answer_lookup h c
  intro g hg
  rw [hv]
  exact hg

/-- To deny everyone else may come after the declared ranges are allowed. -/
theorem keepsOpen_create {spec : RuleSpec}
    (h : spec.name = denyAllName → Named c frontendId rangesName) :
    KeepsOpen c (.createRule zone frontendId spec) := by
  refine keepsOpen_of_answered fun v c' hv g hg hdeny => ?_
  rw [named_create hv] at hdeny ⊢
  rcases hdeny with hdeny | ⟨rfl, hname⟩
  · exact .inl (hg hdeny)
  · exact .inl (h hname)

/-- An update of a rule under its name keeps frontends open. -/
theorem keepsOpen_update {spec : RuleSpec} {ruleId : String}
    (hname : ∀ y ∈ c.rules, y.id = ruleId → y.name = spec.name) :
    KeepsOpen c (.updateRule zone ruleId spec) := by
  refine keepsOpen_of_answered fun v c' hv g hg => ?_
  unfold Admits
  rw [named_update hname hv, named_update hname hv]
  exact hg

/-- The declared ranges may be taken back where nobody is denied. -/
theorem keepsOpen_delete {ruleId : String}
    (h : ∀ y ∈ c.rules, y.id = ruleId → y.name = rangesName → ¬Named c y.frontendId denyAllName) :
    KeepsOpen c (.deleteRule zone ruleId) := by
  refine keepsOpen_of_answered fun v c' hv g hg hdeny => ?_
  rw [named_delete hv] at hdeny ⊢
  obtain ⟨x, hx, -, hfrontend, hdeny⟩ := hdeny
  have hnamed : Named c g denyAllName := ⟨x, hx, hfrontend, hdeny⟩
  obtain ⟨y, hy, rfl, hname⟩ := hg hnamed
  exact ⟨y, hy, fun hid => h y hy hid hname hnamed, rfl, hname⟩

/-- Setting rules keeps frontends open if they allow the ranges where they deny everyone else. -/
theorem keepsOpen_set {specs : List RuleSpec}
    (h : denyAllName ∈ specs.map (·.name) → rangesName ∈ specs.map (·.name)) :
    KeepsOpen c (.setRules zone frontendId specs) := by
  refine keepsOpen_of_answered fun v c' hv g hg => ?_
  unfold Admits
  rw [named_set hv, named_set hv]
  split
  · exact h
  · exact hg

/-! ## Runs that keep frontends admitting -/

section

variable {s : Site} {f : Frontend} {d : DesiredRule} {start : Cloud}

/-- Ids name rules still, and every frontend admits that did at the start. -/
def AsOpen (start : Cloud) (v : Cloud) : Prop := v.Sound ∧ ∀ g, Admits start g → Admits v g

/-- After such a request, all admit still that did at the start. -/
theorem AsOpen.answer {r : Request} (hc : AsOpen start c) (hr : KeepsOpen c r) :
    AsOpen start (c.answer r).2 :=
  ⟨hc.1.answer r, fun g hg => hr g (hc.2 g hg)⟩

/-- From a cloud on which all admit that did at the start, the program keeps it so. -/
abbrev KeepingOpen (start : Cloud) {α : Type} (P : α → Cloud → Prop) (p : Program α) (c : Cloud) :
    Prop :=
  p.Tracked KeepsOpen (AsOpen start) P c

/-- A rule that is found is the only one of its name. -/
theorem keepingOpen_findRule (hc : AsOpen start c) :
    KeepingOpen start (fun r c' => zone ∈ s.zones ∧
        (rulesOf c' frontendId).filter (·.name = name) = [r])
      (s.findRule zone frontendId name) c := by
  refine (tracked_ofExcept _).bind hc ?_
  rintro _ c1 _ ⟨hzone, rfl⟩
  refine (tracked_request (keepsOpen_of_lookup rfl)).bind hc ?_
  rintro found c2 _ ⟨⟩
  refine (tracked_ofExcept _).mono hc ?_
  rintro r c' _ ⟨hsingle, rfl⟩
  exact ⟨Region.checkZone_eq_ok.1 hzone, single_eq_ok.1 hsingle⟩

/-- A rule is sent under the name that it was specified with. -/
theorem keepingOpen_specified {P : Rule → Cloud → Prop} (hc : AsOpen start c) {index : Int}
    {action : RuleAction} {subnets : List String} {send : RuleSpec → Program Rule}
    (hsend : ∀ spec, spec.name = name → KeepingOpen start P (send spec) c) :
    KeepingOpen start P (s.checkZone zone >>= fun _ =>
      Program.ofExcept (Site.specified (RuleSpec.checked name index action subnets)) >>= send) c := by
  refine (tracked_ofExcept _).bind hc ?_
  rintro _ c1 _ ⟨_, rfl⟩
  refine (tracked_ofExcept _).bind hc ?_
  rintro spec c2 _ ⟨hspec, rfl⟩
  exact hsend spec (congrArg RuleSpec.name (specified_eq_ok hspec))

/-- There is a rule where one is desired, and no others come or go but of its name. -/
def Ensured (f : Frontend) (d : DesiredRule) (c c' : Cloud) : Prop :=
  (d.subnets ≠ [] → Named c' f.id d.name) ∧ ∀ g n, n ≠ d.name → (Named c' g n ↔ Named c g n)

/-- Ensuring a rule keeps frontends admitting, unless creating or deleting it does not. -/
theorem keepingOpen_ensureRule (hc : AsOpen start c)
    (hcreate : d.subnets ≠ [] → d.name = denyAllName → Named c f.id rangesName)
    (hdelete : d.subnets = [] → d.name = rangesName → f.zone ∈ s.zones →
      ∀ r, (rulesOf c f.id).filter (·.name = d.name) = [r] → ¬Named c f.id denyAllName) :
    KeepingOpen start (fun _ c' => Ensured f d c c') (ensureRule s f d) c := by
  obtain ⟨step, heq, hstep⟩ := ensureRule_steps s f d
  rw [heq]
  -- Whether the rule is found or not, the cloud is as it was.
  refine (((keepingOpen_findRule hc).orNone hc).and
    (Site.findRule_readOnly.orNone.tracked fun _ _ => keepsOpen_of_lookup)).bind hc ?_
  rintro found c1 - ⟨hfound, rfl⟩
  cases hstep found with
  | removed r hsubnets hp =>
    rw [hp]
    obtain ⟨hzone, hr⟩ := hfound r rfl
    obtain ⟨hmem, hfrontend, hself⟩ := mem_of_sole hr
    have hkeeps : KeepsOpen c1 (.deleteRule f.zone r.id) := by
      refine keepsOpen_delete fun y hy hid hname => ?_
      rw [hc.1.rules.inj hy hmem hid] at hname ⊢
      rw [hfrontend]
      exact hdelete hsubnets (hself.symm.trans hname) hzone r hr
    refine (tracked_ofExcept _).bind hc ?_
    rintro _ c2 _ ⟨_, rfl⟩
    refine (tracked_request hkeeps).mono hc fun _ c' _ hv => ?_
    refine ⟨fun hne => absurd hsubnets hne, fun g n hn => ?_⟩
    rw [named_delete hv]
    refine exists_congr fun y => and_congr_right fun hy => and_iff_right_of_imp ?_
    rintro ⟨-, rfl⟩ hid
    rw [hc.1.rules.inj hy hmem hid] at hn
    exact hn hself
  | absent hsubnets hp =>
    rw [hp]
    exact ⟨fun hne => absurd hsubnets hne, fun _ _ _ => .rfl⟩
  | created hsubnets hp =>
    rw [hp]
    refine Tracked.map (P := fun _ => Ensured f d c1) ?_ hc fun _ _ _ h => h
    refine keepingOpen_specified hc fun spec hspec => ?_
    refine (tracked_request (keepsOpen_create fun hname =>
      hcreate hsubnets (hspec.symm.trans hname))).mono hc fun _ c' _ hv => ⟨fun _ => ?_, ?_⟩
    · exact (named_create hv _ _).2 (.inr ⟨rfl, hspec⟩)
    · intro g n hn
      rw [named_create hv, or_iff_left fun h => hn (h.2.symm.trans hspec)]
  | kept r hsubnets _ hp =>
    rw [hp]
    obtain ⟨hmem, hfrontend, hself⟩ := mem_of_sole (hfound r rfl).2
    exact ⟨fun _ => ⟨r, hmem, hfrontend, hself⟩, fun _ _ _ => .rfl⟩
  | replaced r hsubnets _ hp =>
    rw [hp]
    obtain ⟨hmem, hfrontend, hself⟩ := mem_of_sole (hfound r rfl).2
    refine Tracked.map (P := fun _ => Ensured f d c1) ?_ hc fun _ _ _ h => h
    refine keepingOpen_specified hc fun spec hspec => ?_
    have hname : ∀ y ∈ c1.rules, y.id = r.id → y.name = spec.name := fun y hy hid => by
      rw [hc.1.rules.inj hy hmem hid, hself, hspec]
    refine (tracked_request (keepsOpen_update hname)).mono hc fun _ c' _ hv => ⟨fun _ => ?_, ?_⟩
    · exact (named_update hname hv _ _).2 ⟨r, hmem, hfrontend, hself⟩
    · exact fun g n _ => named_update hname hv g n

/-- Listing rules keeps frontends open. -/
theorem keepingOpen_listRules (hc : AsOpen start c) :
    KeepingOpen start (fun rules c' => rules = rulesOf c' frontendId)
      (s.listRules zone frontendId) c := by
  refine (tracked_ofExcept _).bind hc ?_
  rintro _ c1 _ ⟨_, rfl⟩
  refine (tracked_request (keepsOpen_of_lookup rfl)).mono hc ?_
  rintro rules c' _ ⟨⟩
  rfl

/-- A copy of rules that admit keeps frontends admitting. -/
theorem keepingOpen_copyTo {rules : List Rule} (hc : AsOpen start c)
    (hrules : denyAllName ∈ rules.map (·.name) → rangesName ∈ rules.map (·.name)) :
    KeepingOpen start (fun _ _ => True) (copyTo s rules f) c := by
  obtain ⟨step, heq, hstep⟩ := copyTo_steps s rules f
  rw [heq]
  refine (keepingOpen_listRules hc).bind hc fun others c1 h1 _ => ?_
  cases hstep others with
  | agreed _ hp => exact hp ▸ trivial
  | copied _ hp =>
    rw [hp]
    refine Tracked.discard (P := fun _ _ => True) ?_ h1
    refine (tracked_ofExcept _).bind h1 ?_
    rintro _ c2 h2 ⟨_, rfl⟩
    refine (tracked_request (keepsOpen_set ?_)).mono h2 fun _ _ _ _ => trivial
    -- The copies are named as the rules are, and all are set at once.
    rw [List.map_map]
    exact hrules

/-- Rules that admit are copied. -/
theorem keepingOpen_copyRules {primaryId : String} {rules : List Rule} {m : FrontendMap}
    (hc : AsOpen start c)
    (hrules : denyAllName ∈ rules.map (·.name) → rangesName ∈ rules.map (·.name)) :
    KeepingOpen start (fun _ _ => True) (copyRules s primaryId rules m) c := by
  rw [copyRules_eq]
  refine (tracked_closed KeepsOpen (AsOpen start)).forM (fun e _ c' hc' => ?_) c hc
  exact keepingOpen_copyTo hc' hrules

end

section

variable {s : Scope} {f : Frontend} {start : Cloud}

/-- The rules of the primary's frontend, if these are the addresses of the gateways. -/
def desiredWith (s : Scope) (gateways : List String) : List DesiredRule :=
  [⟨rangesName, .allow, 0, s.primary.allowedRanges⟩, ⟨gatewayName, .allow, 0, gateways⟩,
    ⟨denyAllName, .deny, RuleSpec.maxIndex,
      if s.primary.allowedRanges = [] then [] else everywhere⟩]

/-- Finding out which rules are desired keeps frontends open. -/
theorem keepingOpen_desiredRules (hc : AsOpen start c) :
    KeepingOpen start (fun ds c' => c' = c ∧ ∃ gateways, ds = desiredWith s gateways)
      (desiredRules s) c := by
  have hreadOnly : (gatewayAddresses s).ReadOnly := by
    unfold gatewayAddresses
    split
    · exact Site.findGateways_readOnly.bind fun _ => trivial
    · trivial
  refine (hreadOnly.tracked fun _ _ => keepsOpen_of_lookup).bind hc ?_
  rintro gateways c' - rfl
  exact ⟨rfl, gateways, rfl⟩

/-- There are no ranges any more, but everyone is denied still beside the only rule for the ranges,
which can be deleted. -/
def Reopens (s : Scope) (f : Frontend) (c : Cloud) : Prop :=
  s.primary.allowedRanges = [] ∧ f.zone ∈ s.site.zones ∧ Named c f.id denyAllName ∧
    ∃ r, (rulesOf c f.id).filter (·.name = rangesName) = [r]

/-- The rule for the ranges comes before that for everyone else, and so all that admit do so on the
way, unless the ranges are gone. -/
theorem keepingOpen_ensureRules (hc : AsOpen start c) (h : ¬Reopens s f c)
    {gateways : List String} :
    KeepingOpen start (fun _ _ => True) (ensureRules s.site f (desiredWith s gateways)) c := by
  obtain ⟨hdeny, hgateway, hgateway'⟩ : rangesName ≠ denyAllName ∧ gatewayName ≠ denyAllName ∧
      gatewayName ≠ rangesName := by decide
  refine Tracked.bind (keepingOpen_ensureRule hc (fun _ hname => absurd hname hdeny) ?_) hc ?_
  · exact fun hnil _ hzone r hr hnamed => h ⟨hnil, hzone, hnamed, r, hr⟩
  rintro _ c1 h1 ⟨hranges, -⟩
  refine Tracked.bind (keepingOpen_ensureRule h1 (fun _ hname => absurd hname hgateway)
    fun _ hname => absurd hname hgateway') h1 ?_
  rintro _ c2 h2 ⟨-, hothers⟩
  refine Tracked.bind (keepingOpen_ensureRule h2 (fun hsubnets _ => ?_)
    fun _ hname => absurd hname.symm hdeny) h2 fun _ _ _ _ => trivial
  have hne : s.primary.allowedRanges ≠ [] := fun hnil => hsubnets (if_pos hnil)
  exact (hothers _ _ hgateway'.symm).2 (hranges hne)

/-- The rules phase keeps frontends open, on a primary that admits and is not reopened. -/
theorem keepingOpen_sync {primaryId : String} {m : FrontendMap} (hc : AsOpen start c)
    (hf : m.lookup primaryId = some f) (hsafe : Admits start f.id) (h : ¬Reopens s f c) :
    KeepingOpen start (fun _ _ => True) (sync s primaryId m) c := by
  rw [sync_of_some hf]
  refine (keepingOpen_desiredRules hc).bind hc ?_
  rintro _ c1 - ⟨rfl, gateways, rfl⟩
  refine (keepingOpen_ensureRules hc h).bind hc fun _ c2 h2 _ => ?_
  cases spread_steps s.site primaryId f m with
  | alone _ hp => exact hp ▸ trivial
  | copied _ hp =>
    rw [hp]
    refine (keepingOpen_listRules h2).bind h2 ?_
    rintro rules c3 h3 rfl
    refine keepingOpen_copyRules h3 ?_
    -- What is copied are the rules of the primary, and it still admits.
    rw [← named_iff_mem, ← named_iff_mem]
    exact h3.2 _ hsafe

/-! ## The interruption that locks -/

/-- A look-up is no deletion of a rule. -/
theorem lookup_endpoint {r : Request} (h : r.isMutation = false) : r.endpoint ≠ "delete_acl" := by
  revert h
  cases r <;> simp [Request.endpoint, Request.isMutation]

/-- The session is interrupted right after the first rule has been deleted. -/
def interrupted : Circumstances := { disturbances := [{ endpoint := "delete_acl", cancels := true }] }

/-- Where the ranges are gone, their rule is deleted before anything else changes. -/
theorem run_ensureRule (hranges : s.primary.allowedRanges = []) (hzone : f.zone ∈ s.site.zones)
    {r : Rule} (hr : (rulesOf c f.id).filter (·.name = rangesName) = [r]) {x : Session Trial}
    (hx : x.CanceledAt "delete_acl") (hcloud : x.cloud = c) :
    ∃ x', (ensureRule s.site f ⟨rangesName, .allow, 0, s.primary.allowedRanges⟩).run
        Trial.provider none x = (.ok (), x') ∧ x'.world.canceled = true ∧
      x'.cloud = { c with rules := c.rules.filter (·.id ≠ r.id) } := by
  obtain ⟨hmem, -⟩ := mem_of_sole hr
  have hfound : (s.site.findRule f.zone f.id rangesName).orNone.Returns x.cloud (some r) c := by
    rw [hcloud]
    refine Site.findRule_returns.2 ⟨hzone, ?_, rfl⟩
    rw [← List.filter_filter]
    exact hr
  -- The look-up finds the rule, and cancels nothing.
  obtain ⟨x1, hfind, hx1, hbefore⟩ :=
    (Site.findRule_readOnly.orNone.mono fun _ => lookup_endpoint).run_before hx hfound
  -- The deletion is answered, and then the session is canceled.
  obtain ⟨x2, hcall, hx2, -, hcanceled⟩ :=
    hbefore.call (r := .deleteRule f.zone r.id) (hx1.symm ▸ Cloud.deleteRule_succeeds hmem)
  rw [hx1] at hx2
  refine ⟨x2, ?_, hcanceled rfl, hx2⟩
  have hchecked : s.site.region.checkZone s.site.balancerZones f.zone = .ok () :=
    Region.checkZone_eq_ok.2 hzone
  obtain ⟨step, heq, hstep⟩ :=
    ensureRule_steps s.site f ⟨rangesName, .allow, 0, s.primary.allowedRanges⟩
  rw [heq, run_bind, hfind]
  cases hstep (some r) with
  | removed _ _ hp =>
    show (step (some r)).run Trial.provider none x1 = _
    rw [hp]
    unfold Site.deleteRule Site.checkZone
    rw [hchecked]
    show (request (.deleteRule f.zone r.id)).run Trial.provider none x1 = _
    unfold Program.request Program.run
    rw [hcall]
    rfl
  | kept _ hsome _ _ | replaced _ hsome _ _ => exact absurd hranges hsome

/-- What is left then denies everyone. -/
theorem interrupted_locks {primaryId : String} {m : FrontendMap} (hc : c.Sound)
    (hf : m.lookup primaryId = some f) (h : Reopens s f c) :
    ¬Admits (interrupted.leaves (sync s primaryId m) c) f.id := by
  obtain ⟨hranges, hzone, hdeny, r, hr⟩ := h
  have hx : (interrupted.session c).CanceledAt "delete_acl" := ⟨rfl, rfl⟩
  have hreturns : (desiredRules s).Returns (interrupted.session c).cloud (desiredOn s c) c :=
    desiredRules_returns.2 ⟨rfl, rfl⟩
  obtain ⟨x1, hdesired, hx1, hbefore⟩ :=
    (desiredRules_readOnly.mono fun _ => lookup_endpoint).run_before hx hreturns
  obtain ⟨x2, hensure, hcanceled, hx2⟩ := run_ensureRule hranges hzone hr hbefore hx1
  -- Neither the other rules nor the other frontends are turned to any more.
  have hrules : ((ensureRules s.site f (desiredOn s c)).run Trial.provider none x1).2.world =
      x2.world := run_bind_of_canceled (by rw [hensure]) hcanceled
  have hrun : ((sync s primaryId m).run Trial.provider none (interrupted.session c)).2.world =
      x2.world := by
    rw [sync_of_some hf, run_bind, hdesired]
    exact run_bind_of_canceled hrules hcanceled
  have hleaves : interrupted.leaves (sync s primaryId m) c = x2.cloud :=
    congrArg (·.store.cloud) hrun
  obtain ⟨hgone, hothers⟩ := rules_of_delete hc hr hx2
  rw [hleaves]
  intro hadmits
  have hdenied : Named x2.cloud f.id denyAllName := by
    rw [named_iff_filter] at hdeny ⊢
    rwa [filter_name_of_others (by decide) hothers]
  exact named_iff_filter.1 (hadmits hdenied) hgone

/-- When syncing locks someone out. If the primary's frontend admits at the start, then every
frontend that admits does so throughout a run, wherever the run is cut short and whatever fails on
the way, exactly if there is no rule for the ranges to delete beside one that denies everyone else.
Otherwise a run that is interrupted after its first change leaves everyone denied. -/
theorem sync_admits_iff {primaryId : String} {m : FrontendMap} (hc : c.Sound)
    (hsafe : ∀ f ∈ m.lookup primaryId, Admits c f.id) :
    ((∀ k : Circumstances, ∀ v ∈ k.passes (sync s primaryId m) c, ∀ g, Admits c g → Admits v g) ↔
      ∀ f ∈ m.lookup primaryId, ¬Reopens s f c) ∧
    ∀ f ∈ m.lookup primaryId, Reopens s f c →
      ¬Admits (interrupted.leaves (sync s primaryId m) c) f.id := by
  have hlocks : ∀ f ∈ m.lookup primaryId, Reopens s f c →
      ¬Admits (interrupted.leaves (sync s primaryId m) c) f.id :=
    fun f hf h => interrupted_locks hc hf h
  refine ⟨⟨fun h f hf hreopens => hlocks f hf hreopens ?_, fun h k => ?_⟩, hlocks⟩
  -- What the interrupted run leaves is one of the clouds that it has passed.
  · rcases List.mem_cons.1 (run_mem_passes none (sync s primaryId m) (interrupted.session c)) with
      heq | hv
    · have hsame : interrupted.leaves (sync s primaryId m) c = c := heq
      exact hsame.symm ▸ hsafe f hf
    · exact h interrupted _ hv f.id (hsafe f hf)
  · have hstart : AsOpen c (k.session c).cloud := ⟨hc, fun _ hg => hg⟩
    have hkept : KeepingOpen c (fun _ _ => True) (sync s primaryId m) (k.session c).cloud := by
      rcases hf : m.lookup primaryId with _ | f
      · exact sync_of_none hf ▸ trivial
      · exact keepingOpen_sync hstart hf (hsafe f hf) (h f hf)
    exact fun v hv => (hkept.passes (fun _ _ => AsOpen.answer) hstart k.deadline v hv).2

end

end Access

namespace Sample

/-- The rule for some ranges. -/
def rangesRule : Rule where
  name := Access.rangesName
  index := 0
  action := .allow
  subnets := ["10.0.0.0/8"]
  id := "ranges"
  frontendId := "port"

/-- A cloud on which the ranges are allowed and all others are denied. -/
def guarded : Cloud := { denied with rules := rangesRule :: denied.rules }

/-- The cloud of the example is sound. -/
theorem guarded_sound : guarded.Sound := by
  refine ⟨?_, ?_, ?_, ?_, ?_, ?_⟩ <;> exact .of_foreign (by decide +kernel) (by decide +kernel)

end Sample

/-- If the ranges are gone from the declaration, an interrupted run denies everyone. -/
theorem Access.sample_reopening_locks :
    let m := [("main", Sample.deniedPort)]
    Admits Sample.guarded "port" ∧ Reopens (Sample.scope []) Sample.deniedPort Sample.guarded ∧
      ¬Admits (interrupted.leaves (sync (Sample.scope []) "main" m) Sample.guarded) "port" := by
  intro m
  have hsafe : Admits Sample.guarded "port" := by decide +kernel
  have hreopens : Reopens (Sample.scope []) Sample.deniedPort Sample.guarded :=
    ⟨rfl, by decide +kernel, by decide +kernel, Sample.rangesRule, by decide +kernel⟩
  refine ⟨hsafe, hreopens, ?_⟩
  refine (sync_admits_iff Sample.guarded_sound ?_).2 Sample.deniedPort rfl hreopens
  rintro f ⟨⟩
  exact hsafe

end ControlPlane
