import ControlPlane.Proofs.Cloud.Soundness

/-!
# What a change does

For every request that changes a cloud, what it does to it when it succeeds, written as the old
cloud with some of its lists replaced: the lists that are not named are the old ones.

Load balancers take what is under them along when they go. `Untouched` says that what is under one
of them is as it was, and `Restructures` what any number of creations, migrations and deletions of
load balancers leaves: under a load balancer that is still there, nothing has changed. And nothing
is made under one that is gone: where backends have their load balancers (`Grounded`), they have
them after any run (`Grounded.returns`).
-/

namespace ControlPlane

namespace Cloud

variable {c c' c'' : Cloud}

/-! ## Single changes -/

/-- What is done with the first item that is looked for succeeds on an item that is found. -/
theorem withFirst_eq_ok {α β : Type} {kind id : String} {items : List α} {p : α → Bool}
    {act : α → Answer β} {r : β} (h : c.withFirst kind id items p act = (.ok r, c')) :
    ∃ a, items.find? p = some a ∧ act a c = (.ok r, c') := by
  unfold withFirst at h
  split at h
  · next a ha => exact ⟨a, ha, h⟩
  · cases h

/-- What is found by an id is there with it. -/
theorem exists_of_find?_id {α : Type} {items : List α} {key : α → String} {id : String} {a : α}
    (h : items.find? (fun a => decide (key a = id)) = some a) : ∃ a ∈ items, key a = id := by
  refine ⟨a, List.mem_of_find?_eq_some h, ?_⟩
  simpa using List.find?_some h

/-- Under an id that is there, something is found and gone on with. -/
theorem withFirst_of_mem {α β : Type} {kind id : String} {items : List α} {key : α → String}
    {act : α → Answer β} (h : ∃ a ∈ items, key a = id) :
    ∃ a ∈ items, key a = id ∧
      c.withFirst kind id items (fun a => decide (key a = id)) act = act a c := by
  obtain ⟨a, ha, hid⟩ := h
  obtain ⟨b, hb⟩ := exists_find? ha (p := fun a => decide (key a = id)) (decide_eq_true hid)
  refine ⟨b, List.mem_of_find?_eq_some hb, by simpa using List.find?_some hb, ?_⟩
  unfold withFirst
  rw [hb]

/-- If it fails, what was done to a cloud has at most used up ids. -/
def Refuses {β : Type} (c : Cloud) (x : Except Failure β × Cloud) : Prop :=
  ∀ e, x.1 = .error e → x.2 = { c with nextId := x.2.nextId }

/-- What is done with the first item that is looked for, after ids have been used up, refuses if it
does so for every item. -/
theorem withFirst_refuses {α β : Type} {kind id : String} {items : List α} {p : α → Bool}
    {act : α → Answer β} {d : Cloud} (h : d = { c with nextId := d.nextId })
    (hact : ∀ a, Refuses c (act a d)) : Refuses c (d.withFirst kind id items p act) := by
  unfold withFirst
  split
  · exact hact _
  · exact fun _ _ => h

/-- What succeeds is not refused. -/
theorem refuses_ok {β : Type} (b : β) (d : Cloud) : Refuses c (.ok b, d) := nofun

/-- A request that is refused changes no resource. -/
theorem answer_refuses (c : Cloud) (r : Request) : Refuses c (c.answer r) := by
  have hpool : ∀ id change, Refuses c (c.changePool id change) :=
    fun _ _ => withFirst_refuses rfl fun _ => refuses_ok _ _
  have hdiscard : ∀ id change, Refuses c
      ((discard (c.changePool id change).1 : Except Failure Unit), (c.changePool id change).2) := by
    intro id change e he
    refine hpool id change e ?_
    dsimp only at he
    rcases hk : (c.changePool id change).1 with e' | k
    all_goals
      rw [hk] at he
      cases he
    rfl
  cases r with
  | createBalancer zone name type addressId isPrivate tags =>
    cases addressId with
    -- The new load balancer had taken its number.
    | some addressId =>
      exact withFirst_refuses (d := { c with nextId := c.nextId + 1 }) rfl fun _ => refuses_ok _ _
    | none => cases isPrivate <;> exact refuses_ok _ _
  | migrateBalancer | deleteBalancer | createBackend | createRule | updateRule | deleteRule =>
    exact withFirst_refuses rfl fun _ => refuses_ok _ _
  | createFrontend =>
    exact withFirst_refuses rfl fun _ => withFirst_refuses rfl fun _ => refuses_ok _ _
  | setServers zone id servers => exact hpool id fun _ => servers
  | addServer zone id server => exact hdiscard id (· ++ [server])
  | removeServer zone id server => exact hdiscard id (·.erase server)
  | setRules zone frontendId specs =>
    show Refuses c (c.setRules frontendId specs)
    unfold setRules
    dsimp only
    split
    · exact refuses_ok _ _
    · exact withFirst_refuses rfl fun _ => refuses_ok _ _
  | attach zone id networkId addressId =>
    refine withFirst_refuses rfl fun _ => ?_
    cases addressId with
    | some addressId => exact withFirst_refuses rfl fun _ => refuses_ok _ _
    | none => exact refuses_ok _ _
  | listBalancers | listAddresses | listBackends | listFrontends | listRules | listAttachments
  | listPrivateAddresses | listGateways => exact refuses_ok _ _

/-- A refused request leaves the cloud as it was, but for ids that are used up. -/
theorem eq_of_refused {r : Request} {e : Failure} (h : c.answer r = (.error e, c')) :
    c' = { c with nextId := c'.nextId } := by
  have hrefused := answer_refuses c r e (congrArg Prod.fst h)
  rwa [h] at hrefused

/-- A new load balancer is what was asked for, under a fresh id. -/
theorem createBalancer_effect {zone name type : String} {addressId : Option String}
    {isPrivate : Bool} {tags : List String} {b : LoadBalancer}
    (h : c.createBalancer zone name type addressId isPrivate tags = (.ok b, c')) :
    b = { id := numbered "lb" c.nextId, zone, name, type, status := c.newStatus, tags
          addresses := b.addresses } ∧
      c.nextId < c'.nextId ∧
      c' = { c with
        balancers := c.balancers ++ [b]
        addresses := c'.addresses
        nextId := c'.nextId
        nextPublic := c'.nextPublic } := by
  unfold createBalancer at h
  cases addressId with
  | some addressId =>
    obtain ⟨a, _, h⟩ := withFirst_eq_ok h
    cases h
    exact ⟨rfl, Nat.lt_succ_self _, rfl⟩
  | none =>
    -- A private load balancer takes one number, and a public one another for its address.
    dsimp only at h
    split at h
    · cases h
      exact ⟨rfl, Nat.lt_succ_self _, rfl⟩
    · cases h
      exact ⟨rfl, Nat.lt_trans (Nat.lt_succ_self _) (Nat.lt_succ_self _), rfl⟩

/-- A new load balancer that was to get an address has that address alone. -/
theorem createBalancer_pinned {zone name type addressId : String} {isPrivate : Bool}
    {tags : List String} {b : LoadBalancer}
    (h : c.createBalancer zone name type (some addressId) isPrivate tags = (.ok b, c')) :
    ∃ a, c.addresses.find? (·.id = addressId) = some a ∧
      b.addresses = [{ a with balancerId := some b.id }] := by
  unfold createBalancer at h
  obtain ⟨a, ha, h⟩ := withFirst_eq_ok h
  cases h
  exact ⟨a, ha, rfl⟩

/-- A new public load balancer has an address. -/
theorem createBalancer_public {zone name type : String} {tags : List String} {b : LoadBalancer}
    (h : c.createBalancer zone name type none false tags = (.ok b, c')) : b.addresses ≠ [] := by
  cases h
  exact List.cons_ne_nil _ _

/-- Migrating gives the load balancers with the id the new type, and nothing else is changed. -/
theorem migrateBalancer_effect {balancerId type : String} {b : LoadBalancer}
    (h : c.migrateBalancer balancerId type = (.ok b, c')) :
    (∃ old, c.balancers.find? (·.id = balancerId) = some old ∧ b = { old with type }) ∧
      c' = { c with balancers := c.balancers.map fun b =>
        if b.id = balancerId then { b with type } else b } := by
  obtain ⟨old, hold, h⟩ := withFirst_eq_ok h
  cases h
  exact ⟨⟨old, hold, rfl⟩, rfl⟩

/-- A load balancer that is deleted was there, and goes away with all that is under it. -/
theorem deleteBalancer_effect {balancerId : String} {release : Bool} {u : Unit}
    (h : c.deleteBalancer balancerId release = (.ok u, c')) :
    (∃ old ∈ c.balancers, old.id = balancerId) ∧
      c' = { c.removeBalancer balancerId with addresses := c'.addresses } := by
  obtain ⟨old, hold, h⟩ := withFirst_eq_ok h
  cases h
  exact ⟨exists_of_find?_id hold, rfl⟩

/-- A new backend is what was asked for, under a fresh id, and its load balancer is there. -/
theorem createBackend_effect {zone balancerId name : String} {pool : List String} {port : Int}
    {b : Backend} (h : c.createBackend zone balancerId name pool port = (.ok b, c')) :
    (∃ owner ∈ c.balancers, owner.id = balancerId) ∧
      b = { id := numbered "backend" c.nextId, balancerId, zone, name, forwardPort := port, pool } ∧
      c' = { c with backends := c.backends ++ [b], nextId := c.nextId + 1 } := by
  obtain ⟨owner, howner, h⟩ := withFirst_eq_ok h
  cases h
  exact ⟨exists_of_find?_id howner, rfl, rfl⟩

/-- A backend can be created for a load balancer that is there. -/
theorem createBackend_succeeds {zone balancerId name : String} {pool : List String} {port : Int}
    (h : ∃ owner ∈ c.balancers, owner.id = balancerId) :
    let b : Backend := ⟨numbered "backend" c.nextId, balancerId, zone, name, port, pool⟩
    c.createBackend zone balancerId name pool port =
      (.ok b, { c with backends := c.backends ++ [b], nextId := c.nextId + 1 }) := by
  obtain ⟨_, _, _, hanswer⟩ := withFirst_of_mem h
  exact hanswer

/-- Changing a pool changes those of the backends with the id, and nothing else. -/
theorem changePool_effect {backendId : String} {f : List String → List String} {b : Backend}
    (h : c.changePool backendId f = (.ok b, c')) :
    (∃ old, c.backends.find? (·.id = backendId) = some old ∧
        b = { old with pool := f old.pool }) ∧
      c' = { c with backends := c.backends.map fun b =>
        if b.id = backendId then { b with pool := f b.pool } else b } := by
  obtain ⟨old, hold, h⟩ := withFirst_eq_ok h
  cases h
  exact ⟨⟨old, hold, rfl⟩, rfl⟩

/-- Where the answer is thrown away, there was one. -/
theorem discard_eq_ok {β : Type} {p : Except Failure β × Cloud} {u : Unit}
    (h : ((discard p.1 : Except Failure Unit), p.2) = (.ok u, c')) : ∃ b, p = (.ok b, c') := by
  rcases p with ⟨e | b, c1⟩ <;> cases h
  exact ⟨b, rfl⟩

/-- Adding a server appends it to the pool. -/
theorem addServer_effect {zone backendId server : String} {u : Unit}
    (h : c.answer (.addServer zone backendId server) = (.ok u, c')) :
    ∃ b, c.changePool backendId (· ++ [server]) = (.ok b, c') :=
  discard_eq_ok h

/-- Removing a server takes its first occurrence out of the pool. -/
theorem removeServer_effect {zone backendId server : String} {u : Unit}
    (h : c.answer (.removeServer zone backendId server) = (.ok u, c')) :
    ∃ b, c.changePool backendId (·.erase server) = (.ok b, c') :=
  discard_eq_ok h

/-- A new frontend is what was asked for, under a fresh id. The load balancer and the backend are
there. -/
theorem createFrontend_effect {zone balancerId name backendId : String} {port : Int} {f : Frontend}
    (h : c.createFrontend zone balancerId name backendId port = (.ok f, c')) :
    (∃ owner ∈ c.balancers, owner.id = balancerId) ∧ (∃ b ∈ c.backends, b.id = backendId) ∧
      f = { id := numbered "frontend" c.nextId, balancerId, zone, name, inboundPort := port
            backendId } ∧
      c' = { c with frontends := c.frontends ++ [f], nextId := c.nextId + 1 } := by
  obtain ⟨owner, howner, h⟩ := withFirst_eq_ok h
  obtain ⟨b, hb, h⟩ := withFirst_eq_ok h
  cases h
  exact ⟨exists_of_find?_id howner, exists_of_find?_id hb, rfl, rfl⟩

/-- A frontend can be created for a load balancer and a backend that are there. -/
theorem createFrontend_succeeds {zone balancerId name backendId : String} {port : Int}
    (h : ∃ owner ∈ c.balancers, owner.id = balancerId) (hb : ∃ b ∈ c.backends, b.id = backendId) :
    let f : Frontend := ⟨numbered "frontend" c.nextId, balancerId, zone, name, port, backendId⟩
    c.createFrontend zone balancerId name backendId port =
      (.ok f, { c with frontends := c.frontends ++ [f], nextId := c.nextId + 1 }) := by
  obtain ⟨_, _, _, hanswer⟩ := withFirst_of_mem h
  obtain ⟨_, _, _, hanswer'⟩ := withFirst_of_mem hb
  exact hanswer.trans hanswer'

/-- A new rule is what was asked for, under a fresh id, and its frontend is there. -/
theorem createRule_effect {frontendId : String} {spec : RuleSpec} {r : Rule}
    (h : c.createRule frontendId spec = (.ok r, c')) :
    (∃ f ∈ c.frontends, f.id = frontendId) ∧
      r = { spec with id := numbered "acl" c.nextId, frontendId } ∧
      c' = { c with rules := c.rules ++ [r], nextId := c.nextId + 1 } := by
  obtain ⟨f, hf, h⟩ := withFirst_eq_ok h
  cases h
  exact ⟨exists_of_find?_id hf, rfl, rfl⟩

/-- A rule can be created for a frontend that is there. -/
theorem createRule_succeeds {frontendId : String} {spec : RuleSpec}
    (h : ∃ f ∈ c.frontends, f.id = frontendId) :
    let r : Rule := ⟨spec, numbered "acl" c.nextId, frontendId⟩
    c.createRule frontendId spec =
      (.ok r, { c with rules := c.rules ++ [r], nextId := c.nextId + 1 }) := by
  obtain ⟨_, _, _, hanswer⟩ := withFirst_of_mem h
  exact hanswer

/-- Updating a rule replaces what the rules with the id say. -/
theorem updateRule_effect {ruleId : String} {spec : RuleSpec} {r : Rule}
    (h : c.updateRule ruleId spec = (.ok r, c')) :
    c' = { c with rules := c.rules.map fun r =>
      if r.id = ruleId then { r with toRuleSpec := spec } else r } := by
  obtain ⟨old, hold, h⟩ := withFirst_eq_ok h
  cases h
  rfl

/-- Deleting a rule removes the rules with the id. -/
theorem deleteRule_effect {zone ruleId : String} {u : Unit}
    (h : c.answer (.deleteRule zone ruleId) = (.ok u, c')) :
    c' = { c with rules := c.rules.filter (·.id ≠ ruleId) } := by
  unfold answer at h
  obtain ⟨old, hold, h⟩ := withFirst_eq_ok h
  cases h
  rfl

/-- A rule that is there can be deleted. -/
theorem deleteRule_succeeds {zone : String} {r : Rule} (hr : r ∈ c.rules) :
    c.answer (.deleteRule zone r.id) =
      (.ok (), { c with rules := c.rules.filter (·.id ≠ r.id) }) := by
  unfold answer
  obtain ⟨_, _, _, hanswer⟩ := withFirst_of_mem ⟨r, hr, rfl⟩
  exact hanswer

/-- New rules come last. They say what was asked for, under the frontend. -/
theorem addRules_effect (frontendId : String) (specs : List RuleSpec) (c : Cloud) :
    ∃ new n, (c.addRules frontendId specs).2 =
        { c with rules := c.rules ++ new, nextId := n } ∧
      new.map (·.toRuleSpec) = specs ∧ ∀ r ∈ new, r.frontendId = frontendId := by
  induction specs generalizing c with
  | nil => exact ⟨[], c.nextId, by simp [addRules], rfl, nofun⟩
  | cons spec rest ih =>
    -- Each rule is added to the cloud that the one before has left.
    obtain ⟨new, n, hc, hspecs, hnew⟩ := ih (c.addRule frontendId spec).2
    refine ⟨(c.addRule frontendId spec).1 :: new, n, ?_, ?_, ?_⟩
    · show ((c.addRule frontendId spec).2.addRules frontendId rest).2 = _
      rw [hc]
      simp [addRule, freshId]
    · rw [List.map_cons, hspecs]
      rfl
    · rintro r (_ | ⟨_, hr⟩)
      · rfl
      · exact hnew r hr

/-- All rules of a frontend are replaced by what was asked for. -/
theorem setRules_effect {zone frontendId : String} {specs : List RuleSpec} {rs : List Rule}
    (h : c.answer (.setRules zone frontendId specs) = (.ok rs, c')) :
    ∃ new n, c' = { c with
          rules := c.rules.filter (fun r => decide (r.frontendId ≠ frontendId)) ++ new
          nextId := n } ∧
      new.map (·.toRuleSpec) = specs ∧ ∀ r ∈ new, r.frontendId = frontendId := by
  obtain ⟨new, n, hc, hspecs, hnew⟩ := addRules_effect frontendId specs
    { c with rules := c.rules.filter (·.frontendId ≠ frontendId) }
  refine ⟨new, n, ?_, hspecs, hnew⟩
  -- The old rules are taken away, and then the new ones are added.
  have h' : (({ c with rules := c.rules.filter (·.frontendId ≠ frontendId) } : Cloud).addRules
      frontendId specs).2 = c' := by
    unfold answer setRules at h
    dsimp only at h
    split at h
    · exact congrArg Prod.snd h
    · obtain ⟨_, _, h⟩ := withFirst_eq_ok h
      exact congrArg Prod.snd h
  rw [← h', hc]

/-- The rules of a frontend that is there can be replaced. -/
theorem setRules_succeeds {zone frontendId : String} {specs : List RuleSpec}
    (h : ∃ f ∈ c.frontends, f.id = frontendId) :
    ∃ rs c', c.answer (.setRules zone frontendId specs) = (.ok rs, c') := by
  unfold answer setRules
  dsimp only
  split
  · exact ⟨_, _, rfl⟩
  · obtain ⟨_, _, _, hanswer⟩ := withFirst_of_mem h
    exact ⟨_, _, hanswer⟩

/-- A load balancer that is there is attached with an address that is there, or gets a fresh one if
the cloud books addresses. -/
theorem attach_effect {zone balancerId networkId : String} {addressId : Option String} {u : Unit}
    (h : c.attach zone balancerId networkId addressId = (.ok u, c')) :
    (∃ b ∈ c.balancers, b.id = balancerId) ∧ c' = { c with
        attachments := c.attachments ++ [⟨balancerId, zone, networkId⟩]
        privateAddresses := c'.privateAddresses
        nextId := c'.nextId
        nextPrivate := c'.nextPrivate } ∧
      match addressId with
      | some addressId => c'.privateAddresses = c.privateAddresses.map fun a =>
          if a.id = addressId then { a with holder := some balancerId } else a
      | none => ∃ new, c'.privateAddresses = c.privateAddresses ++ new ∧
          (∀ a ∈ new, a.networkId = networkId ∧ a.holder = some balancerId) ∧
          (new ≠ [] ↔ c.booksAddresses = true) := by
  unfold attach at h
  dsimp only at h
  obtain ⟨b, hb, h⟩ := withFirst_eq_ok h
  refine ⟨exists_of_find?_id hb, ?_⟩
  cases addressId with
  | some addressId =>
    -- The given address is handed over, if it exists.
    obtain ⟨a, _, h⟩ := withFirst_eq_ok h
    cases h
    exact ⟨rfl, rfl⟩
  | none =>
    -- Whether an address is booked at once is up to the cloud.
    dsimp only at h
    split at h
    · next hbooks =>
      cases h
      exact ⟨rfl, _, rfl, List.forall_mem_singleton.2 ⟨rfl, rfl⟩,
        iff_of_true (List.cons_ne_nil _ _) hbooks⟩
    · next hbooks =>
      cases h
      exact ⟨rfl, [], (List.append_nil _).symm, List.forall_mem_nil _,
        iff_of_false (fun hne => hne rfl) hbooks⟩

/-- A load balancer that is there can be attached with an address that is there, or with any. -/
theorem attach_succeeds {zone balancerId networkId : String} {addressId : Option String}
    (h : ∃ b ∈ c.balancers, b.id = balancerId)
    (haddress : ∀ id ∈ addressId, ∃ a ∈ c.privateAddresses, a.id = id) :
    ∃ c', c.attach zone balancerId networkId addressId = (.ok (), c') := by
  unfold attach
  dsimp only
  obtain ⟨_, _, _, hanswer⟩ := withFirst_of_mem h
  rw [hanswer]
  cases addressId with
  | none => exact ⟨_, rfl⟩
  | some id =>
    obtain ⟨_, _, _, hanswer'⟩ := withFirst_of_mem (haddress id rfl)
    exact ⟨_, hanswer'⟩

end Cloud

/-- A request that leaves load balancers as they are. -/
def Request.LeavesBalancers : Request → Prop
  | .createBalancer .. | .migrateBalancer .. | .deleteBalancer .. => False
  | _ => True

namespace Cloud

variable {c c' c'' : Cloud}

/-- Answered or refused, such a request leaves the load balancers. -/
theorem balancers_answer {r : Request} (hr : r.LeavesBalancers) (c : Cloud) :
    (c.answer r).2.balancers = c.balancers := by
  rcases hv : c.answer r with ⟨e | v, c'⟩
  · -- A failure at most uses up ids.
    exact congrArg (fun c => c.balancers) (eq_of_refused hv)
  -- A success changes what its effect lemma says, which is never a load balancer here.
  show c'.balancers = c.balancers
  cases r with
  | createBalancer | migrateBalancer | deleteBalancer => exact hr.elim
  | createBackend => rw [(createBackend_effect hv).2.2]
  | setServers zone id servers =>
    have hv' : c.changePool id (fun _ => servers) = (.ok v, c') := hv
    rw [(changePool_effect hv').2]
  | addServer =>
    obtain ⟨k, hk⟩ := addServer_effect hv
    rw [(changePool_effect hk).2]
  | removeServer =>
    obtain ⟨k, hk⟩ := removeServer_effect hv
    rw [(changePool_effect hk).2]
  | createFrontend => rw [(createFrontend_effect hv).2.2.2]
  | createRule => rw [(createRule_effect hv).2.2]
  | updateRule => rw [updateRule_effect hv]
  | deleteRule => rw [deleteRule_effect hv]
  | setRules =>
    obtain ⟨new, n, hc', _⟩ := setRules_effect hv
    rw [hc']
  | attach => rw [(attach_effect hv).2.1]
  | listBalancers | listAddresses | listBackends | listFrontends | listRules | listAttachments
  | listPrivateAddresses | listGateways =>
    cases hv
    rfl

/-! ## Backends and their load balancers -/

/-- If a backend is under the load balancer with an id, then that load balancer is there. -/
def Grounded (id : String) (c : Cloud) : Prop :=
  (∃ k ∈ c.backends, k.balancerId = id) → ∃ b ∈ c.balancers, b.id = id

/-- What stands on a load balancer still does when pools change. -/
theorem Grounded.changePool {id backendId : String} {f : List String → List String} {k : Backend}
    (h : Grounded id c) (hk : c.changePool backendId f = (.ok k, c')) : Grounded id c' := by
  rw [(changePool_effect hk).2]
  rintro ⟨k', hk', hid⟩
  obtain ⟨k0, hk0, rfl⟩ := List.mem_map.1 hk'
  refine h ⟨k0, hk0, ?_⟩
  rw [← hid]
  split <;> rfl

/-- A provider makes backends only under load balancers that it has, and takes them along when these
go. So no backend comes to be under a load balancer that is gone. -/
theorem Grounded.answer {id : String} (h : Grounded id c) (r : Request) :
    Grounded id (c.answer r).2 := by
  rcases hv : c.answer r with ⟨e | v, c'⟩
  · dsimp only
    rw [eq_of_refused hv]
    exact h
  show Grounded id c'
  cases r with
  | createBalancer =>
    rw [(createBalancer_effect hv).2.2]
    intro hbackend
    obtain ⟨b, hb, hid⟩ := h hbackend
    exact ⟨b, List.mem_append_left _ hb, hid⟩
  | migrateBalancer zone balancerId type =>
    rw [(migrateBalancer_effect hv).2]
    intro hbackend
    obtain ⟨b, hb, hid⟩ := h hbackend
    refine ⟨_, List.mem_map_of_mem hb, ?_⟩
    rw [← hid]
    split <;> rfl
  | deleteBalancer zone balancerId release =>
    rw [(deleteBalancer_effect hv).2]
    rintro ⟨k, hk, hid⟩
    obtain ⟨hk, hne⟩ := List.mem_filter.1 hk
    obtain ⟨b, hb, hbid⟩ := h ⟨k, hk, hid⟩
    -- The backend is still there, so that it is another load balancer that has gone.
    have hother : b.id ≠ balancerId := fun heq => of_decide_eq_true hne (by rw [hid, ← hbid, heq])
    exact ⟨b, List.mem_filter.2 ⟨hb, decide_eq_true hother⟩, hbid⟩
  | createBackend =>
    obtain ⟨hthere, rfl, rfl⟩ := createBackend_effect hv
    rintro ⟨k, hk, hid⟩
    rcases List.mem_append.1 hk with hk | hk
    · exact h ⟨k, hk, hid⟩
    · rw [List.mem_singleton.1 hk] at hid
      exact hid ▸ hthere
  | setServers zone backendId servers => exact h.changePool (f := fun _ => servers) hv
  | addServer =>
    obtain ⟨k, hk⟩ := addServer_effect hv
    exact h.changePool hk
  | removeServer =>
    obtain ⟨k, hk⟩ := removeServer_effect hv
    exact h.changePool hk
  | createFrontend =>
    rw [(createFrontend_effect hv).2.2.2]
    exact h
  | createRule =>
    rw [(createRule_effect hv).2.2]
    exact h
  | updateRule =>
    rw [updateRule_effect hv]
    exact h
  | deleteRule =>
    rw [deleteRule_effect hv]
    exact h
  | setRules =>
    obtain ⟨new, n, hc', _⟩ := setRules_effect hv
    rw [hc']
    exact h
  | attach =>
    rw [(attach_effect hv).2.1]
    exact h
  | listBalancers | listAddresses | listBackends | listFrontends | listRules | listAttachments
  | listPrivateAddresses | listGateways =>
    cases hv
    exact h

/-- Where the backends of an id have their load balancer, they have it after any run of any program.
-/
theorem Grounded.returns {α : Type} {id : String} {p : Program α} {a : α} (h : Grounded id c)
    (hp : p.Returns c a c') : Grounded id c' := by
  have hexec : Grounded id (p.exec c).2 := by
    clear hp
    induction p generalizing c with
    | done | fail => exact h
    | send r next ih => exact ih _ (h.answer r)
    | report e next ih => exact ih h
  rwa [hp] at hexec

/-! ## Load balancers that come and go -/

/-- All that is directly under a load balancer is as it was. -/
structure Untouched (id : String) (c c' : Cloud) : Prop where
  backends : c'.backends.filter (·.balancerId = id) = c.backends.filter (·.balancerId = id)
  frontends : c'.frontends.filter (·.balancerId = id) = c.frontends.filter (·.balancerId = id)
  attachments :
    c'.attachments.filter (·.balancerId = id) = c.attachments.filter (·.balancerId = id)
  privateAddresses : c'.privateAddresses.filter (·.holder = some id) =
    c.privateAddresses.filter (·.holder = some id)

/-- On the same cloud, a load balancer is untouched. -/
theorem Untouched.refl (id : String) (c : Cloud) : Untouched id c c :=
  ⟨rfl, rfl, rfl, rfl⟩

/-- A load balancer that two changes in turn leave untouched is untouched by both together. -/
theorem Untouched.trans {id : String} (h : Untouched id c c') (h' : Untouched id c' c'') :
    Untouched id c c'' :=
  ⟨h'.backends.trans h.backends, h'.frontends.trans h.frontends,
    h'.attachments.trans h.attachments, h'.privateAddresses.trans h.privateAddresses⟩

/-- A load balancer has the id, or one may come to have it. -/
def MayHold (c : Cloud) (id : String) : Prop :=
  (∃ b ∈ c.balancers, b.id = id) ∨ ∃ n, c.nextId ≤ n ∧ id = numbered "lb" n

/-- Load balancers were created, brought to other types and deleted, and nothing else was done:
every one that is there is an old one, but for the type, or has a fresh id; and what is under it, or
under one that may still come, is as it was, with the rules of its frontends. -/
structure Restructures (c c' : Cloud) : Prop where
  nextId : c.nextId ≤ c'.nextId
  origin : ∀ b' ∈ c'.balancers, (∃ b ∈ c.balancers, b' = { b with type := b'.type }) ∨
    ∃ n, c.nextId ≤ n ∧ b'.id = numbered "lb" n
  untouched : ∀ id, c'.MayHold id → Untouched id c c'
  frontends : c'.frontends ⊆ c.frontends
  rules : ∀ id, (∀ f ∈ c.frontends, f.id = id → c'.MayHold f.balancerId) →
    c'.rules.filter (·.frontendId = id) = c.rules.filter (·.frontendId = id)
  gateways : c'.gateways = c.gateways

/-- Doing nothing restructures a cloud. -/
theorem Restructures.refl (c : Cloud) : Restructures c c :=
  ⟨Nat.le_refl _, fun b hb => .inl ⟨b, hb, rfl⟩, fun id _ => Untouched.refl id c,
    fun _ hf => hf, fun _ _ => rfl, rfl⟩

/-- No id is taken up again, so what may be held afterwards might have been before. -/
theorem Restructures.mayHold (h : Restructures c c') {id : String} (hid : c'.MayHold id) :
    c.MayHold id := by
  rcases hid with ⟨b', hb', rfl⟩ | ⟨n, hn, rfl⟩
  -- It is held now: by an old load balancer, or by a new one with an id that was fresh.
  · rcases h.origin b' hb' with ⟨b, hb, heq⟩ | ⟨n, hn, heq⟩
    · exact .inl ⟨b, hb, (congrArg LoadBalancer.id heq).symm⟩
    · exact .inr ⟨n, hn, heq⟩
  · exact .inr ⟨n, Nat.le_trans h.nextId hn, rfl⟩

/-- Two restructurings in turn are one. -/
theorem Restructures.trans (h : Restructures c c') (h' : Restructures c' c'') :
    Restructures c c'' where
  nextId := Nat.le_trans h.nextId h'.nextId
  origin := by
    intro b'' hb''
    -- What was there, or was made in the first part, may only have changed its type in the second.
    rcases h'.origin b'' hb'' with ⟨b', hb', heq'⟩ | ⟨n, hn, heq⟩
    · rcases h.origin b' hb' with ⟨b, hb, heq⟩ | ⟨n, hn, heq⟩
      · refine .inl ⟨b, hb, ?_⟩
        rw [heq', heq]
      · exact .inr ⟨n, hn, by rw [heq', heq]⟩
    · exact .inr ⟨n, Nat.le_trans h.nextId hn, heq⟩
  untouched := fun id hid => (h.untouched id (h'.mayHold hid)).trans (h'.untouched id hid)
  frontends := fun _ hf => h.frontends (h'.frontends hf)
  rules := fun id hid => (h'.rules id fun f hf heq => hid f (h.frontends hf) heq).trans
    (h.rules id fun f hf heq => h'.mayHold (hid f hf heq))
  gateways := h'.gateways.trans h.gateways

/-- Changes of load balancers alone that leave ids as they are. -/
theorem Restructures.of_types {type : LoadBalancer → String} :
    Restructures c { c with balancers := c.balancers.map fun b => { b with type := type b } } where
  nextId := Nat.le_refl _
  origin := by
    intro b' hb'
    obtain ⟨b, hb, rfl⟩ := List.mem_map.1 hb'
    exact .inl ⟨b, hb, rfl⟩
  untouched := fun id _ => ⟨rfl, rfl, rfl, rfl⟩
  frontends := fun _ hf => hf
  rules := fun _ _ => rfl
  gateways := rfl

/-- What is filtered by one key does not change where elements with another are filtered out. -/
theorem filter_filter_of_ne {α β : Type} [DecidableEq β] (items : List α) (key : α → β) {k k' : β}
    (h : k ≠ k') : (items.filter (key · ≠ k')).filter (key · = k) = items.filter (key · = k) := by
  rw [List.filter_filter]
  apply List.filter_congr
  intro a _
  by_cases hk : key a = k
  · simp [hk, h]
  · simp [hk]

/-- What is filtered does not change where elements are changed that are filtered out. -/
theorem filter_map_of_fixed {α : Type} {items : List α} {p : α → Bool} {change : α → α}
    (hp : ∀ a ∈ items, p (change a) = p a) (hfix : ∀ a ∈ items, p a = true → change a = a) :
    (items.map change).filter p = items.filter p := by
  have hcongr : items.filter (p ∘ change) = items.filter p := List.filter_congr hp
  have hself : ∀ a ∈ items.filter p, change a = id a := by
    intro a ha
    rw [List.mem_filter] at ha
    exact hfix a ha.1 ha.2
  calc (items.map change).filter p = (items.filter (p ∘ change)).map change := List.filter_map
    _ = (items.filter p).map change := by rw [hcongr]
    _ = (items.filter p).map id := List.map_congr_left hself
    _ = items.filter p := List.map_id _

/-- A deleted load balancer takes nothing along that is under another one. -/
theorem untouched_removeBalancer {id balancerId : String} (h : id ≠ balancerId)
    {addresses : List FlexibleAddress} :
    Untouched id c { c.removeBalancer balancerId with addresses } where
  backends := filter_filter_of_ne c.backends (·.balancerId) h
  frontends := filter_filter_of_ne c.frontends (·.balancerId) h
  attachments := filter_filter_of_ne c.attachments (·.balancerId) h
  privateAddresses := by
    refine filter_map_of_fixed (fun a _ => ?_) fun a _ ha => ?_
    · split
      · next hholder => simp [hholder, h.symm]
      · rfl
    · rw [decide_eq_true_eq] at ha
      -- An address that another load balancer holds keeps its holder.
      have hother : a.holder ≠ some balancerId := by
        rw [ha]
        exact fun heq => h (Option.some.inj heq)
      exact if_neg hother

/-- Creating a load balancer restructures a cloud. -/
theorem Restructures.of_create {b : LoadBalancer} {addresses : List FlexibleAddress}
    {next nextPublic : Nat} (hid : b.id = numbered "lb" c.nextId) (hnext : c.nextId < next) :
    Restructures c { c with
      balancers := c.balancers ++ [b], addresses, nextId := next, nextPublic } where
  nextId := Nat.le_of_lt hnext
  origin := by
    intro b' hb'
    rcases List.mem_append.1 hb' with hb' | hb'
    · exact .inl ⟨b', hb', rfl⟩
    · rw [List.mem_singleton.1 hb']
      exact .inr ⟨c.nextId, Nat.le_refl _, hid⟩
  untouched := fun id _ => ⟨rfl, rfl, rfl, rfl⟩
  frontends := fun _ hf => hf
  rules := fun _ _ => rfl
  gateways := rfl

/-- Deleting a load balancer restructures a cloud. -/
theorem Restructures.of_delete (hc : c.Sound) {balancerId : String}
    {addresses : List FlexibleAddress} (hold : ∃ b ∈ c.balancers, b.id = balancerId) :
    Restructures c { c.removeBalancer balancerId with addresses } := by
  -- The id is gone for good: no load balancer has it, and it is not to be given out.
  have hgone : ∀ id, MayHold { c.removeBalancer balancerId with addresses } id →
      id ≠ balancerId := by
    rintro id hid rfl
    rcases hid with ⟨b, hb, hbid⟩ | ⟨n, hn, hid⟩
    · have hne : b.id ≠ id := of_decide_eq_true (List.mem_filter.1 hb).2
      exact hne hbid
    · obtain ⟨old, hold, hid'⟩ := hold
      refine hc.balancers.fresh n hn ?_
      rw [← hid, ← hid']
      exact List.mem_map_of_mem hold
  constructor
  case nextId => exact Nat.le_refl _
  case origin => exact fun b' hb' => .inl ⟨b', List.mem_of_mem_filter hb', rfl⟩
  case untouched => exact fun id hid => untouched_removeBalancer (hgone id hid)
  case frontends => exact fun _ hf => List.mem_of_mem_filter hf
  case rules =>
    intro id hid
    -- No frontend that goes has the id.
    have hstays : id ∉ (c.frontends.filter (·.balancerId = balancerId)).map (·.id) := by
      intro hmem
      obtain ⟨g, hg, hgid⟩ := List.mem_map.1 hmem
      rw [List.mem_filter, decide_eq_true_eq] at hg
      exact hgone _ (hid g hg.1 hgid) hg.2
    show (c.rules.filter _).filter _ = _
    rw [List.filter_filter]
    apply List.filter_congr
    intro r _
    by_cases hr : r.frontendId = id
    · simp only [hr, hstays, not_false_eq_true, decide_true, Bool.and_self]
    · simp [hr]
  case gateways => rfl

end Cloud

/-- A request to look something up, or about load balancers themselves. -/
def Request.IsStructural : Request → Prop
  | .createBalancer .. | .migrateBalancer .. | .deleteBalancer .. => True
  | r => r.isMutation = false

namespace Cloud

variable {c c' : Cloud}

/-- A structural request restructures a sound cloud. -/
theorem Sound.restructures (hc : c.Sound) {r : Request} {v : r.Reply} (hr : r.IsStructural)
    (h : c.answer r = (.ok v, c')) : Restructures c c' := by
  cases r with
  | createBalancer zone name type addressId isPrivate tags =>
    obtain ⟨hb, hnext, heq⟩ := createBalancer_effect h
    rw [heq]
    exact Restructures.of_create (congrArg LoadBalancer.id hb) hnext
  | migrateBalancer zone balancerId type =>
    obtain ⟨_, heq⟩ := migrateBalancer_effect h
    -- Every load balancer gets a type, all but one of them its own.
    have htypes := @Restructures.of_types c fun b => if b.id = balancerId then type else b.type
    have hsame : (c.balancers.map fun b => { b with
        type := if b.id = balancerId then type else b.type }) =
        c.balancers.map fun b => if b.id = balancerId then { b with type } else b := by
      apply List.map_congr_left
      intro b _
      split <;> rfl
    rw [heq, ← hsame]
    exact htypes
  | deleteBalancer zone balancerId release =>
    obtain ⟨hold, heq⟩ := deleteBalancer_effect h
    rw [heq]
    exact Restructures.of_delete hc hold
  | listBalancers | listAddresses | listBackends | listFrontends | listRules | listAttachments
  | listPrivateAddresses | listGateways =>
    cases h
    exact Restructures.refl c
  | createBackend | setServers | addServer | removeServer | createFrontend | createRule | updateRule
  | deleteRule | setRules | attach => cases hr

/-- A program of structural requests restructures a sound cloud where it returns. -/
theorem Sound.restructures_of_returns {α : Type} {p : Program α} {a : α} (hc : c.Sound)
    (hp : p.Orderly Request.IsStructural) (h : p.Returns c a c') : Restructures c c' := by
  -- Soundness goes along, as every step needs it.
  have hrun : c.Sound → c'.Sound ∧ Restructures c c' := by
    refine hp.changes (R := fun c c' => c.Sound → c'.Sound ∧ Restructures c c') h ?_ ?_ ?_
    · exact fun c hc => ⟨hc, Restructures.refl c⟩
    · intro c c1 c2 h1 h2 hc
      obtain ⟨hc1, hfirst⟩ := h1 hc
      obtain ⟨hc2, hsecond⟩ := h2 hc1
      exact ⟨hc2, hfirst.trans hsecond⟩
    · intro r c v c' hr hv hc
      have hc' : c'.Sound := by
        have hanswer := hc.answer r
        rwa [hv] at hanswer
      exact ⟨hc', hc.restructures hr hv⟩
  exact (hrun hc).2

end Cloud

end ControlPlane
