import ControlPlane.Proofs.Cloud.Ownership
import ControlPlane.Proofs.Cloud.Rooted

/-!
# What there is besides one's own

A cloud lies over another one (`Overlay`) if the other one is what is left of it without one's own
load balancers: without all that is under them, without the addresses that are released with them,
and with those unbound that are given back (`remainder`). So nothing is left over once one's own
load balancers are gone (`Overlay.matches_of_none`).

`ActsOnOwn` says which requests act on one's own only: what is made is under a load balancer of
one's own that is there at the moment, what is changed or removed was not there at first, and a load
balancer goes with its address exactly if the address was made for it. Such requests keep a cloud
over the other one, whether they succeed or fail (`Overlay.answer`).
-/

namespace ControlPlane

namespace Cloud

/-! ## Addresses -/

section

variable {α : Type} {released kept : List String} {as : List FlexibleAddress}

/-- An address without what it is bound to, if its id is one of some. -/
def unbind (kept : List String) (a : FlexibleAddress) : FlexibleAddress :=
  if a.id ∈ kept then { a with balancerId := none } else a

/-- What is left of addresses when some are released and others are unbound. -/
def settle (released kept : List String) (as : List FlexibleAddress) : List FlexibleAddress :=
  (as.filter (·.id ∉ released)).map (unbind kept)

/-- An address that is unbound keeps its id. -/
theorem unbind_id (kept : List String) (a : FlexibleAddress) : (unbind kept a).id = a.id := by
  unfold unbind
  split <;> rfl

/-- An address that is unbound is still the same address. -/
theorem unbind_address (kept : List String) (a : FlexibleAddress) :
    (unbind kept a).address = a.address := by
  unfold unbind
  split <;> rfl

/-- Filters by ids do not see what addresses are bound to. -/
theorem filter_map_id {ids : List String} {f : FlexibleAddress → FlexibleAddress}
    (hf : ∀ a, (f a).id = a.id) :
    (as.map f).filter (·.id ∉ ids) = (as.filter (·.id ∉ ids)).map f := by
  rw [List.filter_map]
  refine congrArg _ (List.filter_congr fun a _ => ?_)
  show decide ((f a).id ∉ ids) = _
  rw [hf]

/-- If none is released and none is unbound, all addresses are left as they are. -/
theorem settle_nil (as : List FlexibleAddress) : settle [] [] as = as := by
  have hall : as.filter (·.id ∉ []) = as :=
    List.filter_eq_self.2 fun _ _ => decide_eq_true List.not_mem_nil
  have hsame : ∀ a ∈ as, unbind [] a = id a := fun _ _ => if_neg List.not_mem_nil
  unfold settle
  rw [hall, List.map_congr_left hsame, List.map_id]

/-- Only the ids count that are to be released, and those to be unbound. -/
theorem settle_congr {released' kept' : List String} (hr : ∀ id, id ∈ released' ↔ id ∈ released)
    (hk : ∀ id, id ∈ kept' ↔ id ∈ kept) : settle released' kept' as = settle released kept as := by
  have hunbind : unbind kept' = unbind kept := by
    funext a
    unfold unbind
    simp only [hk]
  unfold settle
  rw [hunbind]
  simp only [hr]

/-- A fresh address that is to be released is as good as none. -/
theorem settle_append {a : FlexibleAddress} (ha : a.id ∉ as.map (·.id)) :
    settle (released ++ [a.id]) kept (as ++ [a]) = settle released kept as := by
  have hnone : [a].filter (·.id ∉ released ++ [a.id]) = [] :=
    List.filter_eq_nil_iff.2 fun x hx => by simp [List.mem_singleton.1 hx]
  unfold settle
  rw [List.filter_append, hnone, List.append_nil]
  refine congrArg _ (List.filter_congr fun x hx => ?_)
  have hne : x.id ≠ a.id := fun heq => ha (heq ▸ List.mem_map_of_mem hx)
  simp [hne]

/-- Binding an address changes nothing if it is to be unbound and is bound to nothing before. -/
theorem settle_bind {id : String} {holder : Option String}
    (hfree : ∀ a ∈ settle released kept as, a.id = id → a.balancerId = none) :
    settle released (kept ++ [id])
      (as.map fun a => if a.id = id then { a with balancerId := holder } else a) =
        settle released kept as := by
  have hid : ∀ a : FlexibleAddress,
      (if a.id = id then { a with balancerId := holder } else a).id = a.id := by
    intro a
    split <;> rfl
  unfold settle
  rw [filter_map_id hid, List.map_map]
  refine List.map_congr_left fun a ha => ?_
  show unbind _ (if a.id = id then { a with balancerId := holder } else a) = _
  have hself := hfree (unbind kept a) (List.mem_map_of_mem ha)
  rw [unbind_id] at hself
  unfold unbind at hself ⊢
  by_cases heq : a.id = id
  · -- The address ends up unbound, as it was to begin with.
    have hnone := hself heq
    simp only [heq, if_true, List.mem_append, List.mem_singleton, or_true]
    split
    · rfl
    · next hkept =>
      rw [if_neg (heq ▸ hkept)] at hnone
      rw [← hnone, ← heq]
  · simp only [heq, if_false, List.mem_append, List.mem_singleton, or_false]

/-- Addresses may be released before the others are. -/
theorem settle_release {ids released' : List String}
    (hr : ∀ id, id ∈ released' ↔ id ∈ released ∨ id ∈ ids) :
    settle released kept (as.filter (·.id ∉ ids)) = settle released' kept as := by
  unfold settle
  rw [List.filter_filter]
  refine congrArg _ (List.filter_congr fun a _ => ?_)
  simp [hr]

/-- Addresses may be unbound before the others are. -/
theorem settle_unbind {ids kept' : List String} (hk : ∀ id, id ∈ kept' ↔ id ∈ kept ∨ id ∈ ids) :
    settle released kept (as.map (unbind ids)) = settle released kept' as := by
  unfold settle
  rw [filter_map_id (unbind_id ids), List.map_map]
  refine List.map_congr_left fun a _ => ?_
  show unbind kept (unbind ids a) = unbind kept' a
  unfold unbind
  by_cases hids : a.id ∈ ids <;> by_cases hkept : a.id ∈ kept <;> simp [hk, hids, hkept]

end

/-! ## What is one's own -/

section

variable (mine released : List String → Bool) (c : Cloud)

/-- The ids of one's own load balancers. -/
def ownIds : List String := (c.balancers.filter fun b => mine b.tags).map (·.id)

/-- The ids of the frontends of one's own load balancers. -/
def ownFrontendIds : List String :=
  (c.frontends.filter (·.balancerId ∈ c.ownIds mine)).map (·.id)

/-- The ids of the addresses of one's own load balancers that are released with them, or else of
those that are given back. -/
def ownAddressIds (release : Bool) : List String :=
  (c.balancers.filter fun b => mine b.tags && released b.tags == release).flatMap fun b =>
    b.addresses.map (·.id)

end

variable {mine released : List String → Bool} {c0 c c' : Cloud} {id : String}

/-- One's own ids are those of the load balancers with one's tags. -/
theorem mem_ownIds : id ∈ c.ownIds mine ↔ ∃ b ∈ c.balancers, mine b.tags = true ∧ b.id = id := by
  unfold ownIds
  simp only [List.mem_map, List.mem_filter, and_assoc]

/-- One's own frontends are those of one's own load balancers. -/
theorem mem_ownFrontendIds : id ∈ c.ownFrontendIds mine ↔
    ∃ f ∈ c.frontends, f.balancerId ∈ c.ownIds mine ∧ f.id = id := by
  unfold ownFrontendIds
  simp only [List.mem_map, List.mem_filter, and_assoc, decide_eq_true_eq]

/-- One's own addresses are those of one's own load balancers, told apart by whether their tags say
that they are released. -/
theorem mem_ownAddressIds {release : Bool} : id ∈ c.ownAddressIds mine released release ↔
    ∃ b ∈ c.balancers, mine b.tags = true ∧ released b.tags = release ∧
      id ∈ b.addresses.map (·.id) := by
  unfold ownAddressIds
  simp only [List.mem_flatMap, List.mem_filter, Bool.and_eq_true, beq_iff_eq, and_assoc]

/-- What is left of a cloud without one's own load balancers. -/
def remainder (mine released : List String → Bool) (c : Cloud) : Cloud :=
  { c with
    balancers := c.balancers.filter fun b => !mine b.tags
    backends := c.backends.filter (·.balancerId ∉ c.ownIds mine)
    frontends := c.frontends.filter (·.balancerId ∉ c.ownIds mine)
    rules := c.rules.filter (·.frontendId ∉ c.ownFrontendIds mine)
    attachments := c.attachments.filter (·.balancerId ∉ c.ownIds mine)
    addresses := settle (c.ownAddressIds mine released true) (c.ownAddressIds mine released false)
      c.addresses }

/-- Where no load balancer is one's own, everything is left. -/
theorem remainder_eq_self (h : ∀ b ∈ c.balancers, mine b.tags = false) :
    c.remainder mine released = c := by
  -- Nothing is one's own: no load balancers, and hence no frontends and no addresses.
  have hids : c.ownIds mine = [] := List.eq_nil_iff_forall_not_mem.2 fun id hid => by
    obtain ⟨b, hb, hmine, _⟩ := mem_ownIds.1 hid
    exact Bool.false_ne_true ((h b hb).symm.trans hmine)
  have hports : c.ownFrontendIds mine = [] := List.eq_nil_iff_forall_not_mem.2 fun id hid => by
    obtain ⟨f, _, hf, _⟩ := mem_ownFrontendIds.1 hid
    rw [hids] at hf
    exact List.not_mem_nil hf
  have haddresses : ∀ release, c.ownAddressIds mine released release = [] := fun release =>
    List.eq_nil_iff_forall_not_mem.2 fun id hid => by
      obtain ⟨b, hb, hmine, _⟩ := mem_ownAddressIds.1 hid
      exact Bool.false_ne_true ((h b hb).symm.trans hmine)
  have hall : ∀ {α : Type} (items : List α) (key : α → String),
      items.filter (fun a => decide (key a ∉ ([] : List String))) = items := fun items key =>
    List.filter_eq_self.2 fun _ _ => decide_eq_true List.not_mem_nil
  have hbalancers : (c.balancers.filter fun b => !mine b.tags) = c.balancers :=
    List.filter_eq_self.2 fun b hb => by rw [h b hb]; rfl
  unfold remainder
  rw [hids, hports, haddresses, haddresses, hall, hall, hall, hall, hbalancers, settle_nil]

/-- Two clouds hold the same but for what is private: the same load balancers with all that is under
them, and the same flexible addresses, bound to the same load balancers. -/
structure Matches (c0 c : Cloud) : Prop where
  balancers : c.balancers = c0.balancers
  backends : c.backends = c0.backends
  frontends : c.frontends = c0.frontends
  rules : c.rules = c0.rules
  attachments : c.attachments = c0.attachments
  addresses : c.addresses = c0.addresses

/-- A cloud is another one with one's own load balancers on top. -/
structure Overlay (mine released : List String → Bool) (c0 c : Cloud) : Prop where
  base : c0.Rooted
  sound : c.Sound
  nextId : c0.nextId ≤ c.nextId
  rest : Matches c0 (c.remainder mine released)

/-- A cloud lies over itself if no load balancer is one's own. -/
theorem Overlay.refl (hsound : c.Sound) (hrooted : c.Rooted)
    (h : ∀ b ∈ c.balancers, mine b.tags = false) : Overlay mine released c c := by
  refine ⟨hrooted, hsound, Nat.le_refl _, ?_⟩
  rw [remainder_eq_self h]
  exact ⟨rfl, rfl, rfl, rfl, rfl, rfl⟩

/-- Once one's own load balancers are gone, what was there at first is left, and nothing else. -/
theorem Overlay.matches_of_none (h : Overlay mine released c0 c)
    (hnone : ∀ b ∈ c.balancers, mine b.tags = false) : Matches c0 c := by
  have hrest := h.rest
  rwa [remainder_eq_self hnone] at hrest

/-! ## One list without a part -/

section

variable {α : Type} {items items' items0 : List α} {p q : α → Bool}

/-- What keeps a part of a list as it is in another one keeps it, if the other one is that part. -/
theorem filter_step (h : items.filter p = items0)
    (step : items.filter p = items0.filter p → items'.filter p = items0.filter p) :
    items'.filter p = items0 := by
  have hself : items0.filter p = items0 := by
    rw [← h, List.filter_filter]
    exact List.filter_congr fun a _ => Bool.and_self _
  exact (step (h.trans hself.symm)).trans hself

/-- What is taken out may be taken out before. -/
theorem filter_narrow (h : items.filter p = items0) {p' : α → Bool}
    (hp : ∀ a ∈ items, p a = (p' a && q a)) : (items.filter q).filter p' = items0 := by
  rw [List.filter_filter, ← h]
  exact List.filter_congr fun a ha => (hp a ha).symm

/-- What holds of all that is left need not be asked for. -/
theorem filter_widen (h : items.filter p = items0) {p' : α → Bool}
    (hp : ∀ a ∈ items, p' a = (q a && p a)) (hq : ∀ a ∈ items0, q a = true) :
    items.filter p' = items0 := by
  have hboth : items.filter p' = (items.filter p).filter q := by
    rw [List.filter_filter]
    exact List.filter_congr hp
  rw [hboth, h]
  exact List.filter_eq_self.2 hq

end

/-! ## Requests about one's own -/

/-- The request acts on one's own only. -/
def ActsOnOwn (mine released : List String → Bool) (c0 c : Cloud) : Request → Prop
  | .createBalancer _ _ _ addressId _ tags =>
    mine tags = true ∧ released tags = addressId.isNone ∧
      ∀ id ∈ addressId, ∀ a ∈ c0.addresses, a.id = id → a.balancerId = none
  | .migrateBalancer _ id _ => ∀ b ∈ c.balancers, b.id = id → mine b.tags = true
  | .deleteBalancer _ id release =>
    ∀ b ∈ c.balancers, b.id = id → mine b.tags = true ∧ release = released b.tags
  | .createBackend _ id _ _ _ | .createFrontend _ id _ _ _ | .attach _ id _ _ => id ∈ c.ownIds mine
  | .setServers _ id _ | .addServer _ id _ | .removeServer _ id _ => id ∉ c0.backends.map (·.id)
  | .createRule _ id _ | .setRules _ id _ => id ∈ c.ownFrontendIds mine
  | .updateRule _ id _ | .deleteRule _ id => id ∉ c0.rules.map (·.id)
  | .listBalancers .. | .listAddresses .. | .listBackends .. | .listFrontends .. | .listRules ..
  | .listAttachments .. | .listPrivateAddresses .. | .listGateways .. => True

/-- What creating a load balancer does to the addresses: one is bound to it, or none is, or a fresh
one is made. -/
theorem createBalancer_addresses {zone name type : String} {addressId : Option String}
    {isPrivate : Bool} {tags : List String} {b : LoadBalancer}
    (h : c.createBalancer zone name type addressId isPrivate tags = (.ok b, c')) :
    (∃ id, addressId = some id ∧ b.addresses.map (·.id) = [id] ∧
      c'.addresses = c.addresses.map fun a =>
        if a.id = id then { a with balancerId := some b.id } else a) ∨
    (addressId = none ∧ b.addresses = [] ∧ c'.addresses = c.addresses) ∨
    ∃ a, addressId = none ∧ a.id = numbered "ip" (c.nextId + 1) ∧ b.addresses = [a] ∧
      c'.addresses = c.addresses ++ [a] := by
  unfold createBalancer at h
  cases addressId with
  | some id =>
    -- A reserved address is bound to the new load balancer.
    obtain ⟨a, ha, h⟩ := withFirst_eq_ok h
    have hid : a.id = id := by simpa using List.find?_some ha
    cases h
    exact .inl ⟨id, rfl, congrArg (fun id => [id]) hid, rfl⟩
  | none =>
    dsimp only at h
    split at h
    · -- Without one, a private load balancer gets no address, and a public one gets a new address.
      cases h
      exact .inr (.inl ⟨rfl, rfl, rfl⟩)
    · cases h
      exact .inr (.inr ⟨_, rfl, rfl, rfl, rfl⟩)

/-- A load balancer that is deleted gives up its addresses. -/
theorem deleteBalancer_addresses {release : Bool} {u : Unit}
    (h : c.deleteBalancer id release = (.ok u, c')) :
    ∃ b ∈ c.balancers, b.id = id ∧
      c' = { c.removeBalancer id with
        addresses := (c.dropAddresses b.addresses release).addresses } := by
  obtain ⟨b, hb, h⟩ := withFirst_eq_ok h
  have hid : b.id = id := by simpa using List.find?_some hb
  cases h
  exact ⟨b, List.mem_of_find?_eq_some hb, hid, rfl⟩

/-! ## Load balancers -/

section

variable {b : LoadBalancer} {release : Bool}

/-- A new load balancer of one's own adds its id. -/
theorem mem_ownIds_concat (hc' : c'.balancers = c.balancers ++ [b]) (hmine : mine b.tags = true) :
    id ∈ c'.ownIds mine ↔ id ∈ c.ownIds mine ∨ b.id = id := by
  simp only [mem_ownIds, hc', List.mem_append, List.mem_singleton, or_and_right, exists_or,
    exists_eq_left, hmine, true_and]

/-- A new load balancer of one's own adds its addresses to those that are released with it, or to
the others. -/
theorem mem_ownAddressIds_concat (hc' : c'.balancers = c.balancers ++ [b])
    (hmine : mine b.tags = true) : id ∈ c'.ownAddressIds mine released release ↔
      id ∈ c.ownAddressIds mine released release ∨
        released b.tags = release ∧ id ∈ b.addresses.map (·.id) := by
  simp only [mem_ownAddressIds, hc', List.mem_append, List.mem_singleton, or_and_right, exists_or,
    exists_eq_left, hmine, true_and]

/-- A load balancer that is one's own is the only one with its id, and the others stay. -/
theorem mem_ownIds_remove (hb : b ∈ c.balancers) (hmine : mine b.tags = true)
    (hc' : c'.balancers = c.balancers.filter (·.id ≠ b.id)) :
    id ∈ c.ownIds mine ↔ id ∈ c'.ownIds mine ∨ b.id = id := by
  simp only [mem_ownIds, hc', List.mem_filter, decide_eq_true_eq]
  constructor
  · rintro ⟨x, hx, hxmine, rfl⟩
    by_cases hid : x.id = b.id
    · exact .inr hid.symm
    · exact .inl ⟨x, ⟨hx, hid⟩, hxmine, rfl⟩
  · rintro (⟨x, ⟨hx, _⟩, hxmine, rfl⟩ | rfl)
    · exact ⟨x, hx, hxmine, rfl⟩
    · exact ⟨b, hb, hmine, rfl⟩

/-- The frontends that go are those of the load balancer that goes. -/
theorem mem_ownFrontendIds_remove (hb : b ∈ c.balancers) (hmine : mine b.tags = true)
    (hc' : c'.balancers = c.balancers.filter (·.id ≠ b.id))
    (hfrontends : c'.frontends = c.frontends.filter (·.balancerId ≠ b.id)) :
    id ∈ c.ownFrontendIds mine ↔ id ∈ c'.ownFrontendIds mine ∨
      id ∈ (c.frontends.filter (·.balancerId = b.id)).map (·.id) := by
  have hids : ∀ id, id ∈ c.ownIds mine ↔ id ∈ c'.ownIds mine ∨ b.id = id := fun id =>
    mem_ownIds_remove hb hmine hc'
  simp only [mem_ownFrontendIds, hfrontends, List.mem_map, List.mem_filter, decide_eq_true_eq]
  constructor
  · rintro ⟨f, hf, hparent, hid⟩
    -- A frontend was under the load balancer that goes, or is still there.
    by_cases heq : f.balancerId = b.id
    · exact .inr ⟨f, ⟨hf, heq⟩, hid⟩
    · exact .inl ⟨f, ⟨hf, heq⟩, ((hids _).1 hparent).resolve_right (Ne.symm heq), hid⟩
  · rintro (⟨f, ⟨hf, _⟩, hparent, hid⟩ | ⟨f, ⟨hf, heq⟩, hid⟩)
    · exact ⟨f, hf, (hids _).2 (.inl hparent), hid⟩
    · exact ⟨f, hf, (hids _).2 (.inr heq.symm), hid⟩

/-- A load balancer of one's own that is removed takes its addresses away. -/
theorem mem_ownAddressIds_remove (hc : c.Sound) (hb : b ∈ c.balancers) (hmine : mine b.tags = true)
    (hc' : c'.balancers = c.balancers.filter (·.id ≠ b.id)) :
    id ∈ c.ownAddressIds mine released release ↔ id ∈ c'.ownAddressIds mine released release ∨
      released b.tags = release ∧ id ∈ b.addresses.map (·.id) := by
  simp only [mem_ownAddressIds, hc', List.mem_filter, decide_eq_true_eq]
  constructor
  · rintro ⟨x, hx, hxmine, hreleased, hid⟩
    by_cases heq : x.id = b.id
    · rw [hc.balancers.inj hx hb heq] at hreleased hid
      exact .inr ⟨hreleased, hid⟩
    · exact .inl ⟨x, ⟨hx, heq⟩, hxmine, hreleased, hid⟩
  · rintro (⟨x, ⟨hx, _⟩, hxmine, hreleased, hid⟩ | ⟨hreleased, hid⟩)
    · exact ⟨x, hx, hxmine, hreleased, hid⟩
    · exact ⟨b, hb, hmine, hreleased, hid⟩

end

namespace Overlay

/-- A fresh id is that of no load balancer of one's own, and none of their frontends has it for its
load balancer. -/
theorem fresh (h : Overlay mine released c0 c) : numbered "lb" c.nextId ∉ c.ownIds mine ∧
    ∀ f ∈ c.frontends, f.balancerId ≠ numbered "lb" c.nextId := by
  have hnone : numbered "lb" c.nextId ∉ c.ownIds mine := by
    rw [mem_ownIds]
    rintro ⟨x, hx, _, hid⟩
    exact h.sound.balancers.fresh _ (Nat.le_refl _) (hid ▸ List.mem_map_of_mem hx)
  refine ⟨hnone, fun f hf hparent => ?_⟩
  have hmem : f ∈ (c.remainder mine released).frontends :=
    List.mem_filter.2 ⟨hf, decide_eq_true (hparent ▸ hnone)⟩
  rw [h.rest.frontends] at hmem
  exact h.base.frontends f hmem _ h.nextId hparent

/-- The address of a new load balancer is bound to it, or made for it. -/
theorem create_addresses (h : Overlay mine released c0 c) {zone name type : String}
    {addressId : Option String} {isPrivate : Bool} {tags : List String} {b : LoadBalancer}
    (hmine : mine tags = true) (hreleased : released tags = addressId.isNone)
    (hfree : ∀ id ∈ addressId, ∀ a ∈ c0.addresses, a.id = id → a.balancerId = none)
    (hb : c.createBalancer zone name type addressId isPrivate tags = (.ok b, c')) :
    (c'.remainder mine released).addresses = c0.addresses := by
  obtain ⟨heq, _, hc'⟩ := createBalancer_effect hb
  have htags : b.tags = tags := congrArg LoadBalancer.tags heq
  have hids : ∀ release id, id ∈ c'.ownAddressIds mine released release ↔
      id ∈ c.ownAddressIds mine released release ∨
        addressId.isNone = release ∧ id ∈ b.addresses.map (·.id) := by
    intro release id
    rw [← hreleased, ← htags]
    exact mem_ownAddressIds_concat (congrArg Cloud.balancers hc') (htags ▸ hmine)
  have hrest := h.rest.addresses
  show settle _ _ c'.addresses = c0.addresses
  rcases createBalancer_addresses hb with ⟨id, rfl, hheld, hbound⟩ | ⟨rfl, hheld, hsame⟩ |
    ⟨a, rfl, hid, hheld, hnew⟩
  -- A given address is one of those to be given back from now on.
  · rw [hheld] at hids
    rw [hbound, ← hrest]
    refine (settle_congr (fun x => ?_) fun x => ?_).trans (settle_bind fun a ha => ?_)
    · exact (hids true x).trans (or_iff_left (by simp))
    · rw [hids false x, List.mem_append]
      exact or_congr_right (and_iff_right rfl)
    · rw [show settle _ _ c.addresses = c0.addresses from hrest] at ha
      exact hfree id rfl a ha
  -- A private load balancer has none.
  · rw [hheld] at hids
    rw [hsame, ← hrest]
    exact settle_congr (fun x => (hids true x).trans (or_iff_left (by simp))) fun x =>
      (hids false x).trans (or_iff_left (by simp))
  -- An address that is made for it is released with it.
  · rw [hheld] at hids
    rw [hnew, ← hrest]
    have hfresh : a.id ∉ c.addresses.map (·.id) := by
      rw [hid]
      exact h.sound.addresses.fresh _ (Nat.le_succ _)
    refine (settle_congr (fun x => ?_) fun x => ?_).trans (settle_append hfresh)
    · rw [hids true x, List.mem_append]
      exact or_congr_right (and_iff_right rfl)
    · exact (hids false x).trans (or_iff_left (by simp))

/-- A new load balancer of one's own has nothing under it. -/
theorem create (h : Overlay mine released c0 c) {zone name type : String}
    {addressId : Option String} {isPrivate : Bool} {tags : List String} {b : LoadBalancer}
    (hmine : mine tags = true) (hreleased : released tags = addressId.isNone)
    (hfree : ∀ id ∈ addressId, ∀ a ∈ c0.addresses, a.id = id → a.balancerId = none)
    (hb : c.createBalancer zone name type addressId isPrivate tags = (.ok b, c')) :
    Overlay mine released c0 c' := by
  have haddresses := h.create_addresses hmine hreleased hfree hb
  obtain ⟨heq, hnext, hc'⟩ := createBalancer_effect hb
  have hsound : c'.Sound := by
    have hcreated := h.sound.createBalancer zone name type addressId isPrivate tags
    rwa [hb] at hcreated
  have hid : b.id = numbered "lb" c.nextId := congrArg LoadBalancer.id heq
  have htags : b.tags = tags := congrArg LoadBalancer.tags heq
  have hlist : c'.balancers = c.balancers ++ [b] := congrArg Cloud.balancers hc'
  have hnone : ∀ x ∈ [b], (!mine x.tags) = false := by
    intro x hx
    rw [List.mem_singleton.1 hx, htags, hmine]
    rfl
  have hown : ∀ id, id ∈ c'.ownIds mine ↔ id ∈ c.ownIds mine ∨ b.id = id := fun id =>
    mem_ownIds_concat hlist (htags ▸ hmine)
  have hunder : ∀ id, decide (id ∉ c'.ownIds mine) =
      (decide (id ≠ numbered "lb" c.nextId) && decide (id ∉ c.ownIds mine)) := by
    intro id
    simp [hown, hid, and_comm, eq_comm]
  have hports : c'.ownFrontendIds mine = c.ownFrontendIds mine := by
    have hfrontends : c'.frontends = c.frontends := by rw [hc']
    unfold ownFrontendIds
    rw [hfrontends]
    refine congrArg _ (List.filter_congr fun f hf => decide_eq_decide.2 ?_)
    rw [hown, hid]
    exact or_iff_left (h.fresh.2 f hf).symm
  refine ⟨h.base, hsound, Nat.le_trans h.nextId (Nat.le_of_lt hnext), ?_⟩
  -- One more id is left out everywhere. Being fresh, it hides nothing that was there at first.
  constructor
  case balancers =>
    show c'.balancers.filter _ = _
    rw [hlist]
    exact filter_step h.rest.balancers fun hkept => filter_append_of_not hkept hnone
  case backends =>
    show c'.backends.filter _ = _
    rw [show c'.backends = c.backends by rw [hc']]
    exact filter_widen h.rest.backends (fun k _ => hunder k.balancerId) fun k hk =>
      decide_eq_true (h.base.backends k hk _ h.nextId)
  case frontends =>
    show c'.frontends.filter _ = _
    rw [show c'.frontends = c.frontends by rw [hc']]
    exact filter_widen h.rest.frontends (fun f _ => hunder f.balancerId) fun f hf =>
      decide_eq_true (h.base.frontends f hf _ h.nextId)
  case rules =>
    show c'.rules.filter _ = _
    rw [hports, show c'.rules = c.rules by rw [hc']]
    exact h.rest.rules
  case attachments =>
    show c'.attachments.filter _ = _
    rw [show c'.attachments = c.attachments by rw [hc']]
    exact filter_widen h.rest.attachments (fun a _ => hunder a.balancerId) fun a ha =>
      decide_eq_true (h.base.attachments a ha _ h.nextId)
  case addresses => exact haddresses

/-- The address of a load balancer that goes is released, or only given back. -/
theorem delete_addresses (h : Overlay mine released c0 c) {release : Bool} {u : Unit}
    (hown : ∀ b ∈ c.balancers, b.id = id → mine b.tags = true ∧ release = released b.tags)
    (hdelete : c.deleteBalancer id release = (.ok u, c')) :
    (c'.remainder mine released).addresses = c0.addresses := by
  obtain ⟨b, hb, rfl, hc'⟩ := deleteBalancer_addresses hdelete
  obtain ⟨hmine, hrelease⟩ := hown b hb rfl
  -- What the cluster held before is what it holds now and what this load balancer held.
  have hheld : ∀ flag id, id ∈ c.ownAddressIds mine released flag ↔
      id ∈ c'.ownAddressIds mine released flag ∨
        release = flag ∧ id ∈ b.addresses.map (·.id) := by
    intro flag id
    rw [hrelease]
    exact mem_ownAddressIds_remove h.sound hb hmine (congrArg Cloud.balancers hc')
  show settle _ _ c'.addresses = _
  rw [← h.rest.addresses]
  cases release with
  | true =>
    -- The addresses are released: gone now, where the remainder took them away before.
    rw [show c'.addresses = c.addresses.filter (·.id ∉ b.addresses.map (·.id)) from
      congrArg Cloud.addresses hc']
    refine (settle_release fun x => ?_).trans (settle_congr (fun _ => Iff.rfl) fun x => ?_)
    · exact (hheld true x).trans (or_congr_right (and_iff_right rfl))
    · exact (or_iff_left (by simp)).symm.trans (hheld false x).symm
  | false =>
    -- They are kept: unbound now, where the remainder unbound them before.
    rw [show c'.addresses = c.addresses.map (unbind (b.addresses.map (·.id))) from
      congrArg Cloud.addresses hc']
    refine (settle_unbind fun x => ?_).trans (settle_congr (fun x => ?_) fun _ => Iff.rfl)
    · exact (hheld false x).trans (or_congr_right (and_iff_right rfl))
    · exact (or_iff_left (by simp)).symm.trans (hheld true x).symm

/-- A load balancer of one's own that goes takes along what is under it, and its address if that was
made for it. -/
theorem delete (h : Overlay mine released c0 c) {release : Bool} {u : Unit}
    (hown : ∀ b ∈ c.balancers, b.id = id → mine b.tags = true ∧ release = released b.tags)
    (hdelete : c.deleteBalancer id release = (.ok u, c')) : Overlay mine released c0 c' := by
  have hsound : c'.Sound := by
    have hdeleted := h.sound.deleteBalancer id release
    rwa [hdelete] at hdeleted
  obtain ⟨b, hb, rfl, hc'⟩ := deleteBalancer_addresses hdelete
  obtain ⟨hmine, hrelease⟩ := hown b hb rfl
  have hlist : c'.balancers = c.balancers.filter (·.id ≠ b.id) := congrArg Cloud.balancers hc'
  have hids : ∀ id, id ∈ c.ownIds mine ↔ id ∈ c'.ownIds mine ∨ b.id = id := fun id =>
    mem_ownIds_remove hb hmine hlist
  have hunder : ∀ id, decide (id ∉ c.ownIds mine) =
      (decide (id ∉ c'.ownIds mine) && decide (id ≠ b.id)) := by
    intro id
    simp [hids, eq_comm]
  have hfrontends : c'.frontends = c.frontends.filter (·.balancerId ≠ b.id) :=
    congrArg Cloud.frontends hc'
  have hports : ∀ id, id ∈ c.ownFrontendIds mine ↔ id ∈ c'.ownFrontendIds mine ∨
      id ∈ (c.frontends.filter (·.balancerId = b.id)).map (·.id) := fun id =>
    mem_ownFrontendIds_remove hb hmine hlist hfrontends
  have hnext : c'.nextId = c.nextId := by rw [hc']; rfl
  refine ⟨h.base, hsound, hnext ▸ h.nextId, ?_⟩
  -- What the provider removes with it is a part of what is left out for it.
  constructor
  case balancers =>
    show c'.balancers.filter _ = _
    rw [hlist]
    refine filter_narrow h.rest.balancers fun x hx => ?_
    by_cases hid : x.id = b.id
    · simp [hid, (hown x hx hid).1]
    · simp [hid]
  case backends =>
    show c'.backends.filter _ = _
    rw [show c'.backends = c.backends.filter (·.balancerId ≠ b.id) from
      congrArg Cloud.backends hc']
    exact filter_narrow h.rest.backends fun k _ => hunder k.balancerId
  case frontends =>
    show c'.frontends.filter _ = _
    rw [hfrontends]
    exact filter_narrow h.rest.frontends fun f _ => hunder f.balancerId
  case rules =>
    show c'.rules.filter _ = _
    rw [show c'.rules = c.rules.filter
        (·.frontendId ∉ (c.frontends.filter (·.balancerId = b.id)).map (·.id)) from
      congrArg Cloud.rules hc']
    refine filter_narrow h.rest.rules fun r _ => ?_
    simp only [hports, not_or, Bool.decide_and]
  case attachments =>
    show c'.attachments.filter _ = _
    rw [show c'.attachments = c.attachments.filter (·.balancerId ≠ b.id) from
      congrArg Cloud.attachments hc']
    exact filter_narrow h.rest.attachments fun a _ => hunder a.balancerId
  case addresses => exact h.delete_addresses hown hdelete

/-- A load balancer of one's own may change its type. -/
theorem migrate (h : Overlay mine released c0 c) {type : String} {b : LoadBalancer}
    (hown : ∀ b ∈ c.balancers, b.id = id → mine b.tags = true)
    (hmigrate : c.migrateBalancer id type = (.ok b, c')) : Overlay mine released c0 c' := by
  have hsound : c'.Sound := by
    have hmigrated := h.sound.answer (.migrateBalancer "" id type)
    rwa [show c.answer (.migrateBalancer "" id type) = (.ok b, c') from hmigrate] at hmigrated
  let change (b : LoadBalancer) : LoadBalancer := if b.id = id then { b with type } else b
  have hc' : c' = { c with balancers := c.balancers.map change } :=
    (migrateBalancer_effect hmigrate).2
  have hchange : ∀ b, (change b).id = b.id ∧ (change b).tags = b.tags ∧
      (change b).addresses = b.addresses := by
    intro b
    unfold change
    split <;> exact ⟨rfl, rfl, rfl⟩
  have hfixed : (c.balancers.map change).filter (fun b => !mine b.tags) =
      c.balancers.filter fun b => !mine b.tags := by
    -- Load balancers that are not one's own have another id.
    refine filter_map_of_fixed (fun b _ => by rw [(hchange b).2.1]) fun b hb hforeign => ?_
    refine if_neg fun hid => ?_
    rw [hown b hb hid] at hforeign
    cases hforeign
  -- Neither ids nor tags nor addresses depend on the type.
  have hids : ownIds mine { c with balancers := c.balancers.map change } = c.ownIds mine := by
    unfold ownIds
    rw [List.filter_map, List.map_map]
    simp only [Function.comp_def, (hchange _).1, (hchange _).2.1]
  have hheld : ∀ flag, ownAddressIds mine released { c with balancers := c.balancers.map change }
      flag = c.ownAddressIds mine released flag := by
    intro flag
    unfold ownAddressIds
    rw [List.filter_map, List.flatMap_map]
    simp only [Function.comp_def, (hchange _).2.1, (hchange _).2.2]
  have hports : ownFrontendIds mine { c with balancers := c.balancers.map change } =
      c.ownFrontendIds mine := by
    unfold ownFrontendIds
    rw [hids]
  rw [hc'] at hsound ⊢
  refine ⟨h.base, hsound, h.nextId, ?_⟩
  unfold remainder
  rw [hids, hports, hheld, hheld]
  exact { h.rest with balancers := hfixed.trans h.rest.balancers }

/-! ## What is under them -/

/-- What is not left is not what was there at first. -/
theorem not_mem_base {α : Type} {kind : String} {n : Nat} {items items0 : List α} {key : α → String}
    {p : α → Bool} (hids : Ids kind n (items.map key)) (hrest : items.filter p = items0) {a : α}
    (ha : a ∈ items) (hp : p a = false) : key a ∉ items0.map key := by
  intro hmem
  obtain ⟨a0, ha0, hid⟩ := List.mem_map.1 hmem
  rw [← hrest, List.mem_filter] at ha0
  rw [hids.inj ha0.1 ha hid, hp] at ha0
  exact Bool.false_ne_true ha0.2

/-- A backend of one's own is not one of the cloud below. -/
theorem backend_not_mem (h : Overlay mine released c0 c) {k : Backend} (hk : k ∈ c.backends)
    (hown : k.balancerId ∈ c.ownIds mine) : k.id ∉ c0.backends.map (·.id) :=
  not_mem_base h.sound.backends h.rest.backends hk (decide_eq_false (not_not_intro hown))

/-- A rule of one's own is not one of the cloud below. -/
theorem rule_not_mem (h : Overlay mine released c0 c) {r : Rule} (hr : r ∈ c.rules)
    (hown : r.frontendId ∈ c.ownFrontendIds mine) : r.id ∉ c0.rules.map (·.id) :=
  not_mem_base h.sound.rules h.rest.rules hr (decide_eq_false (not_not_intro hown))

/-- The pool of a backend that was not there at first may change. -/
theorem changePool (h : Overlay mine released c0 c) {f : List String → List String} {k : Backend}
    (hid : id ∉ c0.backends.map (·.id)) (hk : c.changePool id f = (.ok k, c')) :
    Overlay mine released c0 c' := by
  have hsound : c'.Sound := by
    have hchanged := h.sound.changePool id f
    rwa [hk] at hchanged
  rw [(changePool_effect hk).2] at hsound ⊢
  refine { h with sound := hsound, rest := { h.rest with backends := ?_ } }
  refine filter_step h.rest.backends fun hkept =>
    filter_change_of_not_mem (f := fun k => { k with pool := f k.pool }) hkept
      (fun hmem => hid ((List.filter_sublist.map _).subset hmem)) fun _ hp => hp

/-- A load balancer of one's own may get a frontend, which has no rules yet. -/
theorem createFrontend (h : Overlay mine released c0 c) {f : Frontend}
    (hown : f.balancerId ∈ c.ownIds mine) (hid : f.id = numbered "frontend" c.nextId)
    (hsound : { c with frontends := c.frontends ++ [f], nextId := c.nextId + 1 }.Sound) :
    Overlay mine released c0
      { c with frontends := c.frontends ++ [f], nextId := c.nextId + 1 } := by
  -- The new frontend belongs to the cluster, and so does not count among the rest.
  have hnone : ∀ x ∈ [f], decide (x.balancerId ∉ c.ownIds mine) = false := by
    intro x hx
    rw [List.mem_singleton.1 hx]
    exact decide_eq_false (not_not_intro hown)
  have hports : ∀ id,
      id ∈ ownFrontendIds mine { c with frontends := c.frontends ++ [f], nextId := c.nextId + 1 } ↔
        id ∈ c.ownFrontendIds mine ∨ f.id = id := by
    intro id
    have hids : ownIds mine { c with frontends := c.frontends ++ [f], nextId := c.nextId + 1 } =
        c.ownIds mine := rfl
    simp only [mem_ownFrontendIds, hids, List.mem_append, List.mem_singleton, or_and_right,
      exists_or, exists_eq_left, hown, true_and]
  refine ⟨h.base, hsound, Nat.le_succ_of_le h.nextId, ?_⟩
  refine { h.rest with frontends := ?_, rules := ?_ }
  · exact filter_step h.rest.frontends fun hkept => filter_append_of_not hkept hnone
  · -- No rule of the start is on it, as its number was not given out yet.
    refine filter_widen (q := fun r => decide (r.frontendId ≠ f.id)) h.rest.rules (fun r _ => ?_)
      fun r hr => decide_eq_true ?_
    · simp [hports, and_comm, eq_comm]
    · rw [hid]
      exact h.base.rules r hr _ h.nextId

/-- Requests about one's own that are answered keep a cloud over another one. -/
theorem answered (h : Overlay mine released c0 c) {r : Request} {v : r.Reply}
    (hr : ActsOnOwn mine released c0 c r) (hv : c.answer r = (.ok v, c')) :
    Overlay mine released c0 c' := by
  have hsound : c'.Sound := by
    have hanswer := h.sound.answer r
    rwa [hv] at hanswer
  have hnext : c0.nextId ≤ c'.nextId := by
    have hle := Nat.le_trans h.nextId (nextId_le_answer c r)
    rwa [hv] at hle
  have hunder : ∀ {α : Type} {key : α → String} {own : List String} {a : α}, key a ∈ own →
      ∀ x ∈ [a], decide (key x ∉ own) = false := by
    intro α key own a ha x hx
    rw [List.mem_singleton.1 hx]
    exact decide_eq_false (not_not_intro ha)
  cases r with
  | createBalancer => exact h.create hr.1 hr.2.1 hr.2.2 hv
  | migrateBalancer => exact h.migrate hr hv
  | deleteBalancer => exact h.delete hr hv
  | createBackend =>
    obtain ⟨_, rfl, rfl⟩ := createBackend_effect hv
    exact { h with
      sound := hsound
      nextId := hnext
      rest := { h.rest with
        backends := filter_step h.rest.backends fun hkept =>
          filter_append_of_not hkept (hunder hr) } }
  | setServers zone id servers => exact h.changePool (f := fun _ => servers) hr hv
  | addServer =>
    obtain ⟨k, hk⟩ := addServer_effect hv
    exact h.changePool hr hk
  | removeServer =>
    obtain ⟨k, hk⟩ := removeServer_effect hv
    exact h.changePool hr hk
  | createFrontend zone id name backendId port =>
    obtain ⟨_, _, rfl, rfl⟩ := createFrontend_effect hv
    exact h.createFrontend hr rfl hsound
  | createRule =>
    obtain ⟨_, rfl, rfl⟩ := createRule_effect hv
    exact { h with
      sound := hsound
      nextId := hnext
      rest := { h.rest with
        rules := filter_step h.rest.rules fun hkept => filter_append_of_not hkept (hunder hr) } }
  | updateRule zone id spec =>
    rw [updateRule_effect hv] at hsound ⊢
    refine { h with sound := hsound, rest := { h.rest with rules := ?_ } }
    exact filter_step h.rest.rules fun hkept =>
      filter_change_of_not_mem (f := fun r => { r with toRuleSpec := spec }) hkept
        (fun hmem => hr ((List.filter_sublist.map _).subset hmem)) fun _ hp => hp
  | deleteRule zone id =>
    rw [deleteRule_effect hv] at hsound ⊢
    refine { h with sound := hsound, rest := { h.rest with rules := ?_ } }
    exact filter_step h.rest.rules fun hkept =>
      filter_remove_of_not_mem hkept fun hmem => hr ((List.filter_sublist.map _).subset hmem)
  | setRules zone id specs =>
    obtain ⟨new, n, hc', _, hnew⟩ := setRules_effect hv
    rw [hc'] at hsound hnext ⊢
    -- Both the rules that go and those that come are of a frontend of one's own.
    have hold : (c.rules.filter fun r => decide (r.frontendId ≠ id)).filter
        (·.frontendId ∉ c.ownFrontendIds mine) = c0.rules := by
      refine filter_step h.rest.rules fun hkept => filter_filter_of_imp hkept fun r _ hrest => ?_
      exact decide_eq_true fun heq => of_decide_eq_true hrest (heq ▸ hr)
    refine { h with sound := hsound, nextId := hnext, rest := { h.rest with rules := ?_ } }
    exact filter_step hold fun hkept => filter_append_of_not hkept fun r hmem =>
      decide_eq_false (not_not_intro (hnew r hmem ▸ hr))
  | attach zone id networkId addressId =>
    have hc' := (attach_effect hv).2.1
    rw [hc'] at hsound hnext ⊢
    exact { h with
      sound := hsound
      nextId := hnext
      rest := { h.rest with
        attachments := filter_step h.rest.attachments fun hkept =>
          filter_append_of_not hkept (hunder hr) } }
  | listBalancers | listAddresses | listBackends | listFrontends | listRules | listAttachments
  | listPrivateAddresses | listGateways =>
    cases hv
    exact h

/-- Requests about one's own keep a cloud over another one, whether they are answered or refused. -/
theorem answer (h : Overlay mine released c0 c) {r : Request}
    (hr : ActsOnOwn mine released c0 c r) : Overlay mine released c0 (c.answer r).2 := by
  rcases hv : c.answer r with ⟨e | v, c'⟩
  · have hsound := h.sound.answer r
    have hnext := Nat.le_trans h.nextId (nextId_le_answer c r)
    rw [hv] at hsound hnext
    dsimp only at hsound hnext ⊢
    rw [eq_of_refused hv] at hsound hnext ⊢
    exact { h with sound := hsound, nextId := hnext, rest := { h.rest with } }
  · exact h.answered hr hv

end Overlay

end Cloud

end ControlPlane
