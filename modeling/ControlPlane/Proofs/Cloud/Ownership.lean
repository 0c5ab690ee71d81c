import ControlPlane.Proofs.Cloud.Effects
import ControlPlane.Provider.Lookup

/-!
# What belongs to others

Which load balancers are one's own is told by their tags; all others are foreign, and so is what is
under them. `Intact` says that a cloud's foreign part is that of another cloud. A request `Spares`
it if it acts on nothing of it, by id, and makes load balancers with tags of one's own only. Every
answer to such a request keeps the foreign part intact (`Intact.answer`).

Ids are what a request names things by, so everything rests on their being unique: what is not
foreign has an id that is none of the foreign ones, and so has what is new (`Ids.not_mem_of_kept`,
`Ids.fresh_of_kept`).
-/

namespace ControlPlane

namespace Cloud

/-! ## One list with a part that is kept -/

section

variable {α : Type} {kind : String} {n : Nat} {items items0 : List α} {id : α → String}
  {p : α → Bool}

/-- The id of what is outside the kept part is none of the kept part. -/
theorem Ids.not_mem_of_kept (h : Ids kind n (items.map id))
    (hkept : items.filter p = items0.filter p) {a : α} (ha : a ∈ items) (hp : p a = false) :
    id a ∉ (items0.filter p).map id := by
  intro hmem
  obtain ⟨b, hb, hid⟩ := List.mem_map.1 hmem
  rw [← hkept, List.mem_filter] at hb
  rw [h.inj hb.1 ha hid, hp] at hb
  exact Bool.false_ne_true hb.2

/-- A fresh id is none of the kept part. -/
theorem Ids.fresh_of_kept (h : Ids kind n (items.map id))
    (hkept : items.filter p = items0.filter p) : numbered kind n ∉ (items0.filter p).map id := by
  rw [← hkept]
  exact fun hmem => h.fresh n (Nat.le_refl n) ((List.filter_sublist.map id).subset hmem)

/-- What is added outside the kept part leaves it as it is. -/
theorem filter_append_of_not {new : List α} (hkept : items.filter p = items0.filter p)
    (h : ∀ a ∈ new, p a = false) : (items ++ new).filter p = items0.filter p := by
  have hnone : new.filter p = [] := List.filter_eq_nil_iff.2 fun a ha => Bool.eq_false_iff.1 (h a ha)
  rw [List.filter_append, hnone, List.append_nil, hkept]

/-- What is taken out outside the kept part leaves it as it is. -/
theorem filter_filter_of_imp {q : α → Bool} (hkept : items.filter p = items0.filter p)
    (h : ∀ a ∈ items, p a = true → q a = true) : (items.filter q).filter p = items0.filter p := by
  rw [← hkept, List.filter_filter]
  refine List.filter_congr fun a ha => ?_
  cases hp : p a with
  | false => exact Bool.false_and _
  | true => rw [h a ha hp, Bool.true_and]

/-- A change of the element with an id keeps what that element is not in. -/
theorem filter_change_of_not_mem {k : String} {f : α → α}
    (hkept : items.filter p = items0.filter p) (hk : k ∉ (items0.filter p).map id)
    (hf : ∀ a, p a = false → p (f a) = false) :
    (items.map fun a => if id a = k then f a else a).filter p = items0.filter p := by
  -- The item that changes is not among those that count.
  have hout : ∀ a ∈ items, id a = k → p a = false := by
    intro a ha hid
    rw [Bool.eq_false_iff]
    intro hp
    rw [← hkept] at hk
    exact hk (List.mem_map.2 ⟨a, List.mem_filter.2 ⟨ha, hp⟩, hid⟩)
  rw [← hkept]
  refine filter_map_of_fixed (fun a ha => ?_) fun a ha hp => ?_
  · split
    · next hid => rw [hf a (hout a ha hid), hout a ha hid]
    · rfl
  · refine if_neg fun hid => ?_
    rw [hout a ha hid] at hp
    exact Bool.false_ne_true hp

/-- What is kept stays where the element with an id is taken out that is not in it. -/
theorem filter_remove_of_not_mem {k : String} (hkept : items.filter p = items0.filter p)
    (hk : k ∉ (items0.filter p).map id) :
    (items.filter fun a => decide (id a ≠ k)).filter p = items0.filter p := by
  refine filter_filter_of_imp hkept fun a ha hp => ?_
  rw [decide_eq_true_eq]
  rintro rfl
  rw [← hkept] at hk
  exact hk (List.mem_map.2 ⟨a, List.mem_filter.2 ⟨ha, hp⟩, rfl⟩)

end

/-! ## The foreign part of a cloud -/

section

variable (mine : List String → Bool) (c0 : Cloud)

/-- The ids of the load balancers that are not one's own. -/
def foreignIds : List String := (c0.balancers.filter fun b => !mine b.tags).map (·.id)

/-- The ids of the backends of foreign load balancers. -/
def foreignBackendIds : List String :=
  (c0.backends.filter (·.balancerId ∈ c0.foreignIds mine)).map (·.id)

/-- The ids of the frontends of foreign load balancers. -/
def foreignFrontendIds : List String :=
  (c0.frontends.filter (·.balancerId ∈ c0.foreignIds mine)).map (·.id)

/-- The ids of the rules of foreign frontends. -/
def foreignRuleIds : List String :=
  (c0.rules.filter (·.frontendId ∈ c0.foreignFrontendIds mine)).map (·.id)

/-- The ids of the private addresses that foreign load balancers hold. -/
def foreignAddressIds : List String :=
  (c0.privateAddresses.filter (·.holder.any (· ∈ c0.foreignIds mine))).map (·.id)

/-- The request acts on nothing that is foreign, and makes load balancers of one's own only. -/
def Spares : Request → Prop
  | .createBalancer _ _ _ _ _ tags => mine tags = true
  | .migrateBalancer _ id _ | .deleteBalancer _ id _ | .createBackend _ id _ _ _
  | .createFrontend _ id _ _ _ => id ∉ c0.foreignIds mine
  | .setServers _ id _ | .addServer _ id _ | .removeServer _ id _ => id ∉ c0.foreignBackendIds mine
  | .createRule _ id _ | .setRules _ id _ => id ∉ c0.foreignFrontendIds mine
  | .updateRule _ id _ | .deleteRule _ id => id ∉ c0.foreignRuleIds mine
  | .attach _ id _ addressId =>
    id ∉ c0.foreignIds mine ∧ ∀ a ∈ addressId, a ∉ c0.foreignAddressIds mine
  | .listBalancers .. | .listAddresses .. | .listBackends .. | .listFrontends .. | .listRules ..
  | .listAttachments .. | .listPrivateAddresses .. | .listGateways .. => True

/-- The foreign part of a cloud is as it was in another one. -/
structure Intact (c : Cloud) : Prop where
  sound : c.Sound
  balancers : (c.balancers.filter fun b => !mine b.tags) =
    c0.balancers.filter fun b => !mine b.tags
  backends : c.backends.filter (·.balancerId ∈ c0.foreignIds mine) =
    c0.backends.filter (·.balancerId ∈ c0.foreignIds mine)
  frontends : c.frontends.filter (·.balancerId ∈ c0.foreignIds mine) =
    c0.frontends.filter (·.balancerId ∈ c0.foreignIds mine)
  rules : c.rules.filter (·.frontendId ∈ c0.foreignFrontendIds mine) =
    c0.rules.filter (·.frontendId ∈ c0.foreignFrontendIds mine)
  attachments : c.attachments.filter (·.balancerId ∈ c0.foreignIds mine) =
    c0.attachments.filter (·.balancerId ∈ c0.foreignIds mine)
  privateAddresses : c.privateAddresses.filter (·.holder.any (· ∈ c0.foreignIds mine)) =
    c0.privateAddresses.filter (·.holder.any (· ∈ c0.foreignIds mine))

end

variable {mine : List String → Bool} {c0 c c' : Cloud}

/-- A sound cloud that no request has reached yet is intact. -/
theorem Intact.refl (h : c0.Sound) : Intact mine c0 c0 := ⟨h, rfl, rfl, rfl, rfl, rfl, rfl⟩

/-- A load balancer of one's own has an id that is not foreign. -/
theorem Intact.own (h : Intact mine c0 c) {b : LoadBalancer} (hb : b ∈ c.balancers)
    (hmine : mine b.tags = true) : b.id ∉ c0.foreignIds mine :=
  h.sound.balancers.not_mem_of_kept h.balancers hb (by rw [hmine]; rfl)

/-- A request that is answered and spares the foreign part keeps it intact. -/
theorem Intact.answered (h : Intact mine c0 c) {r : Request} {v : r.Reply}
    (hr : Spares mine c0 r) (hv : c.answer r = (.ok v, c')) : Intact mine c0 c' := by
  have hsound : c'.Sound := by
    have hanswer := h.sound.answer r
    rwa [hv] at hanswer
  have hpool : ∀ {id : String} {f : List String → List String} {k : Backend},
      id ∉ c0.foreignBackendIds mine → c.changePool id f = (.ok k, c') →
        Intact mine c0 c' := by
    intro id f k hid hk
    obtain ⟨_, hc'⟩ := changePool_effect hk
    rw [hc'] at hsound ⊢
    exact { h with
      sound := hsound
      backends := filter_change_of_not_mem (f := fun k => { k with pool := f k.pool })
        h.backends hid fun _ hp => hp }
  cases r with
  | createBalancer zone name type addressId isPrivate tags =>
    obtain ⟨hb, _, hc'⟩ := createBalancer_effect hv
    have htags : v.tags = tags := congrArg LoadBalancer.tags hb
    have hmine : ∀ b ∈ [v], (!mine b.tags) = false := by
      rintro b (_ | ⟨_, ⟨⟩⟩)
      rw [htags, show mine tags = true from hr]
      rfl
    rw [hc'] at hsound ⊢
    exact { h with sound := hsound, balancers := filter_append_of_not h.balancers hmine }
  | migrateBalancer zone id type =>
    obtain ⟨_, hc'⟩ := migrateBalancer_effect hv
    rw [hc'] at hsound ⊢
    exact { h with
      sound := hsound
      balancers := filter_change_of_not_mem (f := fun b => { b with type }) h.balancers hr
        fun _ hp => hp }
  | deleteBalancer zone id release =>
    obtain ⟨_, hc'⟩ := deleteBalancer_effect hv
    rw [hc'] at hsound ⊢
    -- What is under a foreign load balancer is not under the one that goes.
    have hne : ∀ id', decide (id' ∈ c0.foreignIds mine) = true → decide (id' ≠ id) = true := by
      intro id' hmem
      rw [decide_eq_true_eq] at hmem ⊢
      exact fun heq => hr (heq ▸ hmem)
    have hrules : ∀ r ∈ c.rules, decide (r.frontendId ∈ c0.foreignFrontendIds mine) = true →
        decide (r.frontendId ∉ (c.frontends.filter (·.balancerId = id)).map (·.id)) = true := by
      intro r _ hmem
      rw [decide_eq_true_eq] at hmem ⊢
      intro hgone
      obtain ⟨f, hf, hid⟩ := List.mem_map.1 hgone
      rw [List.mem_filter, decide_eq_true_eq] at hf
      refine h.sound.frontends.not_mem_of_kept h.frontends hf.1 ?_ (hid ▸ hmem)
      rw [hf.2, decide_eq_false_iff_not]
      exact hr
    refine ⟨hsound, filter_remove_of_not_mem h.balancers hr,
      filter_filter_of_imp h.backends fun k _ hk => hne _ hk,
      filter_filter_of_imp h.frontends fun f _ hf => hne _ hf,
      filter_filter_of_imp h.rules hrules,
      filter_filter_of_imp h.attachments fun a _ ha => hne _ ha, ?_⟩
    rw [← h.privateAddresses]
    refine filter_map_of_fixed (fun a _ => ?_) fun a _ ha => if_neg fun hholder => ?_
    · split
      · next hholder =>
        rw [hholder]
        exact (decide_eq_false hr).symm
      · rfl
    · rw [hholder] at ha
      exact hr (of_decide_eq_true ha)
  | createBackend zone id name pool port =>
    obtain ⟨_, rfl, rfl⟩ := createBackend_effect hv
    exact { h with
      sound := hsound
      backends := filter_append_of_not h.backends
        (List.forall_mem_singleton.2 (decide_eq_false hr)) }
  | setServers zone id servers => exact hpool (f := fun _ => servers) hr hv
  | addServer zone id server =>
    obtain ⟨k, hk⟩ := addServer_effect hv
    exact hpool hr hk
  | removeServer zone id server =>
    obtain ⟨k, hk⟩ := removeServer_effect hv
    exact hpool hr hk
  | createFrontend zone id name backendId port =>
    obtain ⟨_, _, rfl, rfl⟩ := createFrontend_effect hv
    exact { h with
      sound := hsound
      frontends := filter_append_of_not h.frontends
        (List.forall_mem_singleton.2 (decide_eq_false hr)) }
  | createRule zone id spec =>
    obtain ⟨_, rfl, rfl⟩ := createRule_effect hv
    exact { h with
      sound := hsound
      rules := filter_append_of_not h.rules
        (List.forall_mem_singleton.2 (decide_eq_false hr)) }
  | updateRule zone id spec =>
    have hc' := updateRule_effect hv
    rw [hc'] at hsound ⊢
    exact { h with
      sound := hsound
      rules := filter_change_of_not_mem (f := fun r => { r with toRuleSpec := spec }) h.rules hr
        fun _ hp => hp }
  | deleteRule zone id =>
    have hc' := deleteRule_effect hv
    rw [hc'] at hsound ⊢
    exact { h with sound := hsound, rules := filter_remove_of_not_mem h.rules hr }
  | setRules zone id specs =>
    obtain ⟨new, n, hc', _, hnew⟩ := setRules_effect hv
    rw [hc'] at hsound ⊢
    have hold : (c.rules.filter fun r => decide (r.frontendId ≠ id)).filter
        (·.frontendId ∈ c0.foreignFrontendIds mine) =
          c0.rules.filter (·.frontendId ∈ c0.foreignFrontendIds mine) := by
      refine filter_filter_of_imp h.rules fun r _ hmem => ?_
      rw [decide_eq_true_eq] at hmem ⊢
      exact fun heq => hr (heq ▸ hmem)
    refine { h with sound := hsound, rules := filter_append_of_not hold fun r hmem => ?_ }
    rw [hnew r hmem]
    exact decide_eq_false hr
  | attach zone id networkId addressId =>
    obtain ⟨hid, haddress⟩ := hr
    obtain ⟨_, hc', hheld⟩ := attach_effect hv
    have hnew : ∀ a ∈ [Attachment.mk id zone networkId],
        decide (a.balancerId ∈ c0.foreignIds mine) = false := by
      rintro a (_ | ⟨_, ⟨⟩⟩)
      exact decide_eq_false hid
    have hattachments := filter_append_of_not h.attachments hnew
    have hown : (some id).any (fun k => decide (k ∈ c0.foreignIds mine)) = false :=
      decide_eq_false hid
    rw [hc'] at hsound ⊢
    refine { h with sound := hsound, attachments := hattachments, privateAddresses := ?_ }
    cases addressId with
    | some addressId =>
      dsimp only at hheld ⊢
      rw [hheld]
      exact filter_change_of_not_mem (f := fun a => { a with holder := some id })
        h.privateAddresses (haddress addressId rfl) fun _ _ => hown
    | none =>
      obtain ⟨new, hnew, hheld, _⟩ := hheld
      dsimp only
      rw [hnew]
      refine filter_append_of_not h.privateAddresses fun a ha => ?_
      rw [(hheld a ha).2]
      exact hown
  | listBalancers | listAddresses | listBackends | listFrontends | listRules | listAttachments
  | listPrivateAddresses | listGateways =>
    cases hv
    exact h

/-- A request that spares the foreign part keeps it intact, whether it is answered or refused. -/
theorem Intact.answer (h : Intact mine c0 c) {r : Request} (hr : Spares mine c0 r) :
    Intact mine c0 (c.answer r).2 := by
  rcases hv : c.answer r with ⟨e | v, c'⟩
  · have hsound := h.sound.answer r
    rw [hv] at hsound
    dsimp only at hsound ⊢
    rw [eq_of_refused hv] at hsound ⊢
    exact { h with sound := hsound }
  · exact h.answered hr hv

/-! ## What is left of a single load balancer -/

/-- A load balancer and all that is under it are in a cloud as they were in another. -/
structure Keeps (b : LoadBalancer) (c c' : Cloud) : Prop where
  mem : b ∈ c'.balancers
  below : Untouched b.id c c'
  rules : ∀ f ∈ c.frontends, f.balancerId = b.id →
    c'.rules.filter (·.frontendId = f.id) = c.rules.filter (·.frontendId = f.id)

/-- What is equal after filtering is equal after a finer filter. -/
theorem filter_eq_of_imp {α : Type} {items items' : List α} {p q : α → Bool}
    (h : items.filter p = items'.filter p) (hqp : ∀ a, q a = true → p a = true) :
    items.filter q = items'.filter q := by
  have hfiner : ∀ l : List α, l.filter q = (l.filter p).filter q := by
    intro l
    rw [List.filter_filter]
    refine List.filter_congr fun a _ => ?_
    cases hq : q a with
    | false => rfl
    | true => rw [hqp a hq]; rfl
  rw [hfiner items, hfiner items', h]

/-- Where the foreign part is intact, every foreign load balancer is as it was. -/
theorem Intact.keeps (h : Intact mine c0 c) {b : LoadBalancer} (hb : b ∈ c0.balancers)
    (hmine : mine b.tags = false) : Keeps b c0 c := by
  have hforeign : b ∈ c0.balancers.filter fun b => !mine b.tags :=
    List.mem_filter.2 ⟨hb, by rw [hmine]; rfl⟩
  have hid : b.id ∈ c0.foreignIds mine := List.mem_map_of_mem hforeign
  -- What is under this load balancer is among what is under foreign ones.
  have hself : ∀ id, decide (id = b.id) = true → decide (id ∈ c0.foreignIds mine) = true := by
    intro id heq
    rw [of_decide_eq_true heq]
    exact decide_eq_true hid
  constructor
  · rw [← h.balancers] at hforeign
    exact List.mem_of_mem_filter hforeign
  · refine ⟨filter_eq_of_imp h.backends fun k hk => hself _ hk,
      filter_eq_of_imp h.frontends fun f hf => hself _ hf,
      filter_eq_of_imp h.attachments fun a ha => hself _ ha,
      filter_eq_of_imp h.privateAddresses fun a ha => ?_⟩
    rw [of_decide_eq_true ha]
    exact decide_eq_true hid
  · intro f hf hparent
    have hfid : f.id ∈ c0.foreignFrontendIds mine :=
      List.mem_map_of_mem (List.mem_filter.2 ⟨hf, hself _ (decide_eq_true hparent)⟩)
    refine filter_eq_of_imp h.rules fun r hr => ?_
    rw [of_decide_eq_true hr]
    exact decide_eq_true hfid

end Cloud

end ControlPlane
