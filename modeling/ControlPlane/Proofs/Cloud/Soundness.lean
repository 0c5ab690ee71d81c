import Mathlib.Data.List.Nodup
import ControlPlane.Proofs.Provider.Execution

/-!
# Ids stay unique and fresh

A fresh id is made of the kind of its resource and the cloud's counter. A cloud is `Sound` if no two
resources of a kind have the same id and no resource has an id that the counter is still to give
out. Every answer keeps a cloud sound, whether it succeeds or fails (`Sound.answer`), and so does
every run of every program (`Sound.exec`): nothing about a particular reconciler is needed.
-/

namespace ControlPlane

namespace Cloud

/-- The id that the counter gives to a resource of a kind when it stands at a number. -/
def numbered (kind : String) (n : Nat) : String := kind ++ "-" ++ toString n

/-- Numbers that are written the same are the same. -/
theorem toString_injective {m n : Nat} (h : toString m = toString n) : m = n := by
  rw [Nat.toString_eq_repr, Nat.toString_eq_repr] at h
  have hd : Nat.toDigits 10 m = Nat.toDigits 10 n := by
    rw [← Nat.toList_repr, ← Nat.toList_repr, h]
  rw [← @Nat.ofDigitChars_ten_toDigits m, hd, Nat.ofDigitChars_ten_toDigits]

/-- Ids of one kind differ where their numbers do. -/
theorem numbered_injective {kind : String} {m n : Nat} (h : numbered kind m = numbered kind n) :
    m = n :=
  toString_injective ((String.append_right_inj _).1 h)

/-- Ids of resources of one kind, while the counter stands at `next`: no two are the same, and none
is still to be given out. -/
structure Ids (kind : String) (next : Nat) (ids : List String) : Prop where
  nodup : ids.Nodup
  fresh : ∀ n, next ≤ n → numbered kind n ∉ ids

/-- Ids that do not begin with the word of their kind are never given out. -/
theorem Ids.of_foreign {kind : String} {next : Nat} {ids : List String} (hnodup : ids.Nodup)
    (hforeign : ∀ id ∈ ids, kind.toList.isPrefixOf id.toList = false) : Ids kind next ids := by
  refine ⟨hnodup, fun n _ hmem => ?_⟩
  have hstart : kind.toList.isPrefixOf (numbered kind n).toList = true := by
    unfold numbered
    rw [String.append_assoc, String.toList_append, List.isPrefixOf_iff_prefix]
    exact List.prefix_append _ _
  exact Bool.false_ne_true ((hforeign _ hmem).symm.trans hstart)

/-- The counter may go on. -/
theorem Ids.mono {kind : String} {m n : Nat} {ids : List String} (h : Ids kind m ids)
    (hmn : m ≤ n) : Ids kind n ids :=
  ⟨h.nodup, fun k hk => h.fresh k (Nat.le_trans hmn hk)⟩

/-- Resources may go. -/
theorem Ids.sublist {kind : String} {n : Nat} {ids ids' : List String} (h : Ids kind n ids)
    (hs : ids'.Sublist ids) : Ids kind n ids' :=
  ⟨h.nodup.sublist hs, fun k hk hmem => h.fresh k hk (hs.subset hmem)⟩

/-- The id at the counter can be added when the counter moves on. -/
theorem Ids.concat {kind : String} {n : Nat} {ids : List String} (h : Ids kind n ids) :
    Ids kind (n + 1) (ids ++ [numbered kind n]) := by
  constructor
  · rw [List.nodup_append]
    refine ⟨h.nodup, by simp, ?_⟩
    intro a ha b hb hab
    rw [List.mem_singleton] at hb
    rw [hab, hb] at ha
    exact h.fresh n (Nat.le_refl n) ha
  · intro k hk hmem
    rcases List.mem_append.1 hmem with hmem | hmem
    · exact h.fresh k (Nat.le_of_succ_le hk) hmem
    · have hn : k = n := numbered_injective (List.mem_singleton.1 hmem)
      omega

section

variable {α : Type} {kind : String} {n : Nat} {items : List α} {id : α → String}

/-- Ids name resources. -/
theorem Ids.inj (h : Ids kind n (items.map id)) {a b : α} (ha : a ∈ items) (hb : b ∈ items)
    (hid : id a = id b) : a = b :=
  List.inj_on_of_nodup_map h.nodup ha hb hid

/-- Where something has a property, something is found by it. -/
theorem exists_find? {p : α → Bool} {a : α} (ha : a ∈ items) (hp : p a = true) :
    ∃ b, items.find? p = some b :=
  Option.isSome_iff_exists.1 (List.find?_isSome.2 ⟨a, ha, hp⟩)

/-- What is found by the id of a resource is that resource. -/
theorem Ids.eq_of_find? (h : Ids kind n (items.map id)) {a old : α} (ha : a ∈ items)
    (hold : items.find? (fun x => decide (id x = id a)) = some old) : old = a := by
  have hid : id old = id a := by simpa using List.find?_some hold
  exact h.inj (List.mem_of_find?_eq_some hold) ha hid

/-- A resource with the id at the counter can be added when the counter moves on. -/
theorem Ids.append (h : Ids kind n (items.map id)) {a : α} (ha : id a = numbered kind n) :
    Ids kind (n + 1) ((items ++ [a]).map id) := by
  rw [List.map_append, List.map_singleton, ha]
  exact h.concat

/-- Resources can be changed in place, as long as their ids stay. -/
theorem Ids.change (h : Ids kind n (items.map id)) {change : α → α}
    (hid : ∀ a, id (change a) = id a) : Ids kind n ((items.map change).map id) := by
  have hmap : (items.map change).map id = items.map id := by
    rw [List.map_map]
    exact List.map_congr_left fun a _ => hid a
  rw [hmap]
  exact h

end

/-- In every kind the ids are unique, and none is still to be given out. -/
structure Sound (c : Cloud) : Prop where
  balancers : Ids "lb" c.nextId (c.balancers.map (·.id))
  addresses : Ids "ip" c.nextId (c.addresses.map (·.id))
  backends : Ids "backend" c.nextId (c.backends.map (·.id))
  frontends : Ids "frontend" c.nextId (c.frontends.map (·.id))
  rules : Ids "acl" c.nextId (c.rules.map (·.id))
  privateAddresses : Ids "ipam" c.nextId (c.privateAddresses.map (·.id))

/-- Only the counter moves on. -/
theorem Sound.advance {c : Cloud} (h : c.Sound) {n : Nat} (hn : c.nextId ≤ n) :
    { c with nextId := n }.Sound :=
  ⟨h.balancers.mono hn, h.addresses.mono hn, h.backends.mono hn, h.frontends.mono hn,
    h.rules.mono hn, h.privateAddresses.mono hn⟩

/-- What is done with the first resource that is meant keeps a property, if doing it does. -/
theorem withFirst_preserves {α β : Type} {P : Cloud → Prop} {kind id : String} {items : List α}
    {p : α → Bool} {act : α → Answer β} {c : Cloud} (hc : P c)
    (hact : ∀ a, P (act a c).2) : P (c.withFirst kind id items p act).2 := by
  unfold withFirst
  split
  · exact hact _
  · exact hc

/-- Booking a public address keeps a cloud sound. -/
theorem Sound.bookPublic {c : Cloud} (h : c.Sound) (zone balancerId : String) :
    (c.bookPublic zone balancerId).2.Sound := by
  have h' := h.advance (Nat.le_succ c.nextId)
  exact { h' with addresses := h.addresses.append rfl }

/-- Booking a private address keeps a cloud sound. -/
theorem Sound.bookPrivate {c : Cloud} (h : c.Sound) (networkId balancerId : String) :
    (c.bookPrivate networkId balancerId).Sound := by
  have h' := h.advance (Nat.le_succ c.nextId)
  exact { h' with privateAddresses := h.privateAddresses.append rfl }

/-- Adding a rule keeps a cloud sound. -/
theorem Sound.addRule {c : Cloud} (h : c.Sound) (frontendId : String) (spec : RuleSpec) :
    (c.addRule frontendId spec).2.Sound := by
  have h' := h.advance (Nat.le_succ c.nextId)
  exact { h' with rules := h.rules.append rfl }

/-- Adding several rules keeps a cloud sound. -/
theorem Sound.addRules {c : Cloud} (h : c.Sound) (frontendId : String) (specs : List RuleSpec) :
    (c.addRules frontendId specs).2.Sound := by
  induction specs generalizing c with
  | nil => exact h
  | cons spec rest ih => exact ih (h.addRule frontendId spec)

/-- A new load balancer, with an id that was fresh before its addresses took theirs. -/
theorem Sound.addBalancer {c c' : Cloud} (h : c.Sound) (h' : c'.Sound)
    (hn : c.nextId + 1 ≤ c'.nextId) (hb : c'.balancers = c.balancers) (b : LoadBalancer)
    (hid : b.id = numbered "lb" c.nextId) :
    { c' with balancers := c'.balancers ++ [b] }.Sound := by
  refine { h' with balancers := ?_ }
  -- The counter may have given out ids of addresses in between, which are of another kind.
  rw [hb]
  exact (h.balancers.append hid).mono hn

/-- Creating a load balancer keeps a cloud sound, whether it succeeds or not. -/
theorem Sound.createBalancer {c : Cloud} (h : c.Sound) (zone name type : String)
    (addressId : Option String) (isPrivate : Bool) (tags : List String) :
    (c.createBalancer zone name type addressId isPrivate tags).2.Sound := by
  have h1 := h.advance (Nat.le_succ c.nextId)
  unfold Cloud.createBalancer
  cases addressId with
  | some addressId =>
    -- A reserved address is bound, and keeps its id.
    have h2 : ({ c with nextId := c.nextId + 1 }.bindAddress addressId
        (numbered "lb" c.nextId)).Sound :=
      { h1 with addresses := h1.addresses.change fun a => by split <;> rfl }
    exact withFirst_preserves h1 fun a => h.addBalancer h2 (Nat.le_refl _) rfl _ rfl
  | none =>
    dsimp only
    split
    · exact h.addBalancer h1 (Nat.le_refl _) rfl _ rfl
    · exact h.addBalancer (h1.bookPublic zone _) (Nat.le_succ _) rfl _ rfl

/-- Deleting a load balancer keeps a cloud sound, whether it succeeds or not. -/
theorem Sound.deleteBalancer {c : Cloud} (h : c.Sound) (balancerId : String) (release : Bool) :
    (c.deleteBalancer balancerId release).2.Sound := by
  refine withFirst_preserves h fun b => ?_
  constructor
  · exact h.balancers.sublist (List.filter_sublist.map _)
  · show Ids "ip" c.nextId (List.map (·.id) (Cloud.dropAddresses b.addresses release c).addresses)
    unfold Cloud.dropAddresses
    dsimp only
    split
    · exact h.addresses.sublist (List.filter_sublist.map _)
    · exact h.addresses.change fun a => by split <;> rfl
  · exact h.backends.sublist (List.filter_sublist.map _)
  · exact h.frontends.sublist (List.filter_sublist.map _)
  · exact h.rules.sublist (List.filter_sublist.map _)
  · exact h.privateAddresses.change fun a => by split <;> rfl

/-- Changing a pool keeps a cloud sound. -/
theorem Sound.changePool {c : Cloud} (h : c.Sound) (backendId : String)
    (change : List String → List String) : (c.changePool backendId change).2.Sound := by
  refine withFirst_preserves h fun b => ?_
  exact { h with backends := h.backends.change fun a => by split <;> rfl }

/-- Attaching a load balancer to a private network keeps a cloud sound. -/
theorem Sound.attach {c : Cloud} (h : c.Sound) (zone balancerId networkId : String)
    (addressId : Option String) : (c.attach zone balancerId networkId addressId).2.Sound := by
  refine withFirst_preserves h fun b => ?_
  cases addressId with
  | some addressId =>
    refine withFirst_preserves h fun a => ?_
    exact { h with privateAddresses := h.privateAddresses.change fun a => by split <;> rfl }
  | none =>
    dsimp only
    split
    · exact { h.bookPrivate networkId balancerId with }
    · exact { h with }

/-- A backend can be added under a fresh id. -/
theorem Sound.addBackend {c : Cloud} (h : c.Sound) {b : Backend}
    (hid : b.id = numbered "backend" c.nextId) :
    { c with backends := c.backends ++ [b], nextId := c.nextId + 1 }.Sound := by
  have h' := h.advance (Nat.le_succ c.nextId)
  exact { h' with backends := h.backends.append hid }

/-- A frontend can be added under a fresh id. -/
theorem Sound.addFrontend {c : Cloud} (h : c.Sound) {f : Frontend}
    (hid : f.id = numbered "frontend" c.nextId) :
    { c with frontends := c.frontends ++ [f], nextId := c.nextId + 1 }.Sound := by
  have h' := h.advance (Nat.le_succ c.nextId)
  exact { h' with frontends := h.frontends.append hid }

/-- Replacing the rules of a frontend leaves a sound cloud sound. -/
theorem Sound.setRules {c : Cloud} (h : c.Sound) (frontendId : String) (specs : List RuleSpec) :
    (c.setRules frontendId specs).2.Sound := by
  -- The old rules go first.
  have h' : { c with rules := c.rules.filter (·.frontendId ≠ frontendId) }.Sound :=
    { h with rules := h.rules.sublist (List.filter_sublist.map _) }
  unfold Cloud.setRules
  dsimp only
  split
  · exact h'.addRules frontendId specs
  · exact withFirst_preserves h fun _ => h'.addRules frontendId specs

/-- Every answer leaves a sound cloud sound. -/
theorem Sound.answer {c : Cloud} (h : c.Sound) (r : Request) : (c.answer r).2.Sound := by
  cases r with
  | createBalancer => exact h.createBalancer ..
  | migrateBalancer zone balancerId type =>
    -- Requests that change entries in place keep identifiers and parents.
    refine withFirst_preserves h fun b => ?_
    exact { h with balancers := h.balancers.change fun a => by split <;> rfl }
  | deleteBalancer => exact h.deleteBalancer ..
  | createBackend => exact withFirst_preserves h fun _ => h.addBackend rfl
  | setServers => exact h.changePool ..
  | addServer zone backendId server => exact h.changePool backendId (· ++ [server])
  | removeServer zone backendId server => exact h.changePool backendId (·.erase server)
  | createFrontend =>
    exact withFirst_preserves h fun _ => withFirst_preserves h fun _ => h.addFrontend rfl
  | createRule => exact withFirst_preserves h fun _ => h.addRule ..
  | updateRule zone ruleId spec =>
    refine withFirst_preserves h fun r => ?_
    exact { h with rules := h.rules.change fun a => by split <;> rfl }
  | deleteRule =>
    refine withFirst_preserves h fun r => ?_
    exact { h with rules := h.rules.sublist (List.filter_sublist.map _) }
  | setRules => exact h.setRules ..
  | attach => exact h.attach ..
  | listBalancers | listAddresses | listBackends | listFrontends | listRules | listAttachments
  | listPrivateAddresses | listGateways => exact h

/-- What is done with the first resource that is meant moves no counter of ids back, if doing it
does not. -/
theorem nextId_le_withFirst {α β : Type} {kind id : String} {items : List α} {p : α → Bool}
    {act : α → Answer β} {c d : Cloud} (hd : c.nextId ≤ d.nextId)
    (hact : ∀ a, c.nextId ≤ (act a d).2.nextId) :
    c.nextId ≤ (d.withFirst kind id items p act).2.nextId :=
  withFirst_preserves (P := fun c' => c.nextId ≤ c'.nextId) hd hact

/-- The counter of ids moves on where load balancers are created, and stays where it is else. -/
theorem nextId_le_createBalancer (c : Cloud) (zone name type : String)
    (addressId : Option String) (isPrivate : Bool) (tags : List String) :
    c.nextId ≤ (c.createBalancer zone name type addressId isPrivate tags).2.nextId := by
  unfold Cloud.createBalancer
  cases addressId with
  | some addressId =>
    exact nextId_le_withFirst (Nat.le_succ c.nextId) fun _ => Nat.le_succ c.nextId
  | none =>
    dsimp only
    split
    · exact Nat.le_succ c.nextId
    · exact Nat.le_add_right c.nextId 2

/-- Rules that are stored move the counter of ids on. -/
theorem nextId_le_addRules (c : Cloud) (frontendId : String) (specs : List RuleSpec) :
    c.nextId ≤ (c.addRules frontendId specs).2.nextId := by
  induction specs generalizing c with
  | nil => exact Nat.le_refl _
  | cons spec rest ih =>
    exact Nat.le_trans (Nat.le_succ c.nextId) (ih (c.addRule frontendId spec).2)

/-- Replacing the rules of a frontend does not move the counter of ids back. -/
theorem nextId_le_setRules (c : Cloud) (frontendId : String) (specs : List RuleSpec) :
    c.nextId ≤ (c.setRules frontendId specs).2.nextId := by
  have hwrite := nextId_le_addRules
    { c with rules := c.rules.filter (·.frontendId ≠ frontendId) } frontendId specs
  unfold Cloud.setRules
  dsimp only
  split
  · exact hwrite
  · exact nextId_le_withFirst (Nat.le_refl _) fun _ => hwrite

/-- Attaching a load balancer does not move the counter of ids back. -/
theorem nextId_le_attach (c : Cloud) (zone balancerId networkId : String)
    (addressId : Option String) :
    c.nextId ≤ (c.attach zone balancerId networkId addressId).2.nextId := by
  refine nextId_le_withFirst (Nat.le_refl _) fun b => ?_
  cases addressId with
  | some addressId =>
    exact nextId_le_withFirst (Nat.le_refl c.nextId) fun _ => Nat.le_refl c.nextId
  | none =>
    dsimp only
    split
    · exact Nat.le_succ c.nextId
    · exact Nat.le_refl c.nextId

/-- No answer moves the counter of ids back. -/
theorem nextId_le_answer (c : Cloud) (r : Request) : c.nextId ≤ (c.answer r).2.nextId := by
  have hsame := Nat.le_refl c.nextId
  have hmoved := Nat.le_succ c.nextId
  have hpool : ∀ id change, c.nextId ≤ (c.changePool id change).2.nextId :=
    fun id change => nextId_le_withFirst hsame fun _ => hsame
  cases r with
  | createBalancer => exact nextId_le_createBalancer c ..
  | migrateBalancer | deleteBalancer | updateRule | deleteRule =>
    exact nextId_le_withFirst hsame fun _ => hsame
  | setServers => exact hpool ..
  | addServer zone backendId server => exact hpool backendId (· ++ [server])
  | removeServer zone backendId server => exact hpool backendId (·.erase server)
  | createBackend | createRule => exact nextId_le_withFirst hsame fun _ => hmoved
  | createFrontend =>
    exact nextId_le_withFirst hsame fun _ => nextId_le_withFirst hsame fun _ => hmoved
  | setRules => exact nextId_le_setRules c ..
  | attach => exact nextId_le_attach c ..
  | listBalancers | listAddresses | listBackends | listFrontends | listRules | listAttachments
  | listPrivateAddresses | listGateways => exact hsame

/-- The counter never goes back while a program runs. -/
theorem nextId_le_exec {α : Type} (c : Cloud) (p : Program α) :
    c.nextId ≤ (p.exec c).2.nextId := by
  induction p generalizing c with
  | done | fail => exact Nat.le_refl c.nextId
  | send r next ih => exact Nat.le_trans (nextId_le_answer c r) (ih _ _)
  | report e next ih => exact ih c

/-- Where a program returns, the counter is not behind where it started. -/
theorem nextId_le_of_returns {α : Type} {c c' : Cloud} {p : Program α} {a : α}
    (h : p.Returns c a c') : c.nextId ≤ c'.nextId := by
  have hexec := nextId_le_exec c p
  rwa [h] at hexec

/-- Every run of every program leaves a sound cloud sound. -/
theorem Sound.exec {α : Type} {c : Cloud} (h : c.Sound) (p : Program α) : (p.exec c).2.Sound := by
  induction p generalizing c with
  | done | fail => exact h
  | send r next ih => exact ih _ (h.answer r)
  | report e next ih => exact ih h

/-- A sound cloud is sound where a program returns. -/
theorem Sound.returns {α : Type} {c c' : Cloud} {p : Program α} {a : α} (h : c.Sound)
    (hp : p.Returns c a c') : c'.Sound := by
  have hexec := h.exec p
  rwa [hp] at hexec

end Cloud

end ControlPlane
