import ControlPlane.Proofs.Access.Rules
import ControlPlane.Proofs.Topology.Frontends
import ControlPlane.Proofs.Topology.Network
import ControlPlane.Proofs.Topology.Primary

/-!
# The phases of a run

`arrange` is `Topology.reconcile` without its last step, which publishes addresses and sends no
request. `Phases` names the clouds between the phases of `arrange` and what each phase returns, and
`arrange_returns` takes a run apart into them, or puts one together.

The load balancers are settled after the first two phases. Every later phase changes one part of the
cloud and keeps the others, so that what a phase leaves holds at the end of the run. The primary in
the end is the one that the first phase has left (`Phases.id_eq_of_isPrimary`), and the secondaries
in the end are among those that the second has returned (`Phases.id_mem_of_isSecondary`). The second
phase takes a load balancer with the tags of a secondary for one, also if it is the primary; where
roles are apart it passes the primary by (`Phases.hasPrimary`).
-/

namespace ControlPlane

open Program hiding ofExcept

namespace Topology

variable {s : Scope}

/-! ## Publishing -/

/-- Brings everything to what is declared, and ends with the load balancers whose addresses are to
be published. -/
def arrange (s : Scope) : Program (LoadBalancer × List LoadBalancer) := do
  let primary ← ensurePrimary s
  let secondaries ← Secondary.ensure s s.secondaries
  .ofExcept (checkReady (secondaries ++ [primary]))
  let resolved ← ensurePrivateNetwork s (secondaries ++ [primary])
  let primary := resolved.getLastD primary
  let secondaries := resolved.dropLast
  let backends ← ensureBackends s.site primary secondaries
  let frontends ← ensureFrontends s [] backends
  Access.sync s primary.id frontends
  return (primary, secondaries)

/-- What a load balancer is published under. -/
def publishedAddress (s : Scope) : LoadBalancer → Except Failure String :=
  if s.balancersPrivate then privateAddress else publicAddress

/-- A run arranges everything, and then publishes. -/
theorem reconcile_eq (s : Scope) :
    reconcile s = arrange s >>= fun (primary, secondaries) => publish s primary secondaries := by
  unfold reconcile arrange ensureSecondaries
  simp only [bind_assoc, Bool.false_eq_true, if_false, pure_eq, done_bind]

/-- Nothing but a look-up that found nothing is handled while everything is arranged. -/
theorem arrange_orderly : (arrange s).Orderly fun _ => True := by
  unfold arrange
  refine (ensurePrimary_orderly.mono fun _ _ => trivial).bind fun _ => ?_
  refine (Secondary.ensure_orderly.mono fun _ _ => trivial).bind fun _ => ?_
  refine (orderly_ofExcept _).bind fun _ => ?_
  refine (ensurePrivateNetwork_orderly.mono fun _ _ => trivial).bind fun _ => ?_
  refine (ensureBackends_orderly.mono fun _ _ => trivial).bind fun _ => ?_
  refine (ensureFrontends_orderly.mono fun _ _ => trivial).bind fun _ => ?_
  exact (Access.sync_orderly.mono fun _ _ => trivial).bind fun _ => trivial

/-- Publishing succeeds where all load balancers have an address, and changes the status alone. -/
theorem publish_run {deadline : Option Seconds} {x x' : Session Cloud} {u : Unit}
    {b : LoadBalancer} {bs : List LoadBalancer} :
    (publish s b bs).run Cloud.provider deadline x = (.ok u, x') ↔
      ∃ main others, publishedAddress s b = .ok main ∧
        (bs.mergeSort byZoneAndName).mapM (publishedAddress s) = .ok others ∧
        x' = { x with status :=
          { x.status with address := some main, secondaryAddresses := others } } := by
  show (Program.ofExcept (publishedAddress s b) >>= fun main =>
    Program.emit (.address main) >>= fun _ =>
      Program.ofExcept ((bs.mergeSort byZoneAndName).mapM (publishedAddress s)) >>= fun others =>
        Program.emit (.secondaryAddresses others)).run Cloud.provider deadline x = _ ↔ _
  -- Publishing sends nothing: two results decide how it ends.
  cases publishedAddress s b with
  | error e =>
    refine iff_of_false nofun ?_
    rintro ⟨_, _, h, _⟩
    cases h
  | ok main =>
    cases (bs.mergeSort byZoneAndName).mapM (publishedAddress s) with
    | error e =>
      refine iff_of_false nofun ?_
      rintro ⟨_, _, _, h, _⟩
      cases h
    | ok others =>
      constructor
      · intro h
        cases h
        exact ⟨main, others, rfl, rfl, rfl⟩
      · rintro ⟨_, _, ⟨⟩, ⟨⟩, rfl⟩
        rfl

/-- A run that returns has arranged everything on the cloud and published two statuses. -/
theorem reconcile_run {deadline : Option Seconds} {x x' : Session Cloud} {u : Unit}
    (h : (reconcile s).run Cloud.provider deadline x = (.ok u, x')) :
    ∃ b bs main others, (arrange s).Returns x.world.store (b, bs) x'.world.store ∧
      publishedAddress s b = .ok main ∧
      (bs.mergeSort byZoneAndName).mapM (publishedAddress s) = .ok others ∧
      x'.status.address = some main ∧ x'.status.secondaryAddresses = others := by
  rw [reconcile_eq, run_bind] at h
  rcases hrun : (arrange s).run Cloud.provider deadline x with ⟨e | ⟨b, bs⟩, x1⟩
  · rw [hrun] at h
    cases h
  · rw [hrun] at h
    obtain ⟨main, others, hmain, hothers, rfl⟩ := publish_run.1 h
    have harrange := arrange_orderly.returns hrun
    exact ⟨b, bs, main, others, harrange, hmain, hothers, rfl, rfl⟩

/-! ## The clouds of a run -/

/-- A run from `c` to `c'`: the primary `b` and the secondaries `bs` before they are settled, the
backends `ks`, the frontends `m`, and the clouds after each phase. -/
structure Phases (s : Scope) (b : LoadBalancer) (bs : List LoadBalancer) (ks : List Backend)
    (m : FrontendMap) (c c1 c2 c3 c4 c5 c' : Cloud) : Prop where
  primary : (ensurePrimary s).Returns c b c1
  secondaries : (Secondary.ensure s s.secondaries).Returns c1 bs c2
  ready : checkReady (bs ++ [b]) = .ok ()
  network : (ensurePrivateNetwork s (bs ++ [b])).Returns c2
    ((bs ++ [b]).map (settled s c3)) c3
  backends : (ensureBackends s.site (settled s c3 b) (bs.map (settled s c3))).Returns c3 ks c4
  frontends : (ensureFrontends s [] ks).Returns c4 m c5
  rules : (Access.sync s b.id m).Returns c5 () c'

/-- The primary comes last among the settled load balancers. -/
theorem settled_append (c : Cloud) (b : LoadBalancer) (bs : List LoadBalancer) :
    ((bs ++ [b]).map (settled s c)).getLastD b = settled s c b ∧
      ((bs ++ [b]).map (settled s c)).dropLast = bs.map (settled s c) := by
  rw [List.map_append, List.map_singleton]
  exact ⟨by simp, List.dropLast_concat⟩

/-- Where arranging returns, there have been all phases, and what is published are the settled load
balancers. -/
theorem arrange_returns {c c' : Cloud} {r : LoadBalancer × List LoadBalancer}
    (h : (arrange s).Returns c r c') :
    ∃ b bs ks m c1 c2 c3 c4 c5, r = (settled s c3 b, bs.map (settled s c3)) ∧
      Phases s b bs ks m c c1 c2 c3 c4 c5 c' := by
  unfold arrange at h
  obtain ⟨b, c1, hprimary, hrest1⟩ := returns_bind.1 h
  obtain ⟨bs, c2, hsecondaries, hrest2⟩ := returns_bind.1 hrest1
  obtain ⟨_, c2', hcheck, hrest3⟩ := returns_bind.1 hrest2
  obtain ⟨hready, rfl⟩ := returns_ofExcept.1 hcheck
  obtain ⟨rs, c3, hnetwork, hrest4⟩ := returns_bind.1 hrest3
  obtain rfl := (ensurePrivateNetwork_spec hnetwork).1
  -- The settled primary comes last in the list that the network phase gives back.
  dsimp only at hrest4
  rw [(settled_append c3 b bs).1, (settled_append c3 b bs).2] at hrest4
  obtain ⟨ks, c4, hbackends, hrest5⟩ := returns_bind.1 hrest4
  obtain ⟨m, c5, hfrontends, hrest6⟩ := returns_bind.1 hrest5
  obtain ⟨_, c6, hrules, hdone⟩ := returns_bind.1 hrest6
  obtain ⟨rfl, rfl⟩ := returns_done.1 hdone
  exact ⟨b, bs, ks, m, c1, c2', c3, c4, c5, rfl, hprimary, hsecondaries, hready, hnetwork,
    hbackends, hfrontends, hrules⟩

/-- No load balancer has the tags of a primary and those of a secondary. -/
def RolesApart (s : Scope) (c : Cloud) : Prop :=
  ∀ b ∈ c.balancers,
    hasTags b.tags (primaryTags s) = true → hasTags b.tags (Secondary.tags s) = false

instance (s : Scope) (c : Cloud) : Decidable (RolesApart s c) :=
  inferInstanceAs (Decidable (∀ b ∈ c.balancers,
    hasTags b.tags (primaryTags s) = true → hasTags b.tags (Secondary.tags s) = false))

namespace Phases

variable {b : LoadBalancer} {bs : List LoadBalancer} {ks : List Backend} {m : FrontendMap}
  {c c1 c2 c3 c4 c5 c' : Cloud}

/-! ### Frames -/

/-- The network phase changes private addresses and attachments only. -/
theorem of_network (h : Phases s b bs ks m c c1 c2 c3 c4 c5 c') : c3 = { c2 with
    attachments := c3.attachments
    privateAddresses := c3.privateAddresses
    nextId := c3.nextId
    nextPrivate := c3.nextPrivate } :=
  changes_network ensurePrivateNetwork_orderly h.network

/-- The backend phase changes backends only. -/
theorem of_backends (h : Phases s b bs ks m c c1 c2 c3 c4 c5 c') :
    c4 = { c3 with backends := c4.backends, nextId := c4.nextId } :=
  changes_backends ensureBackends_orderly h.backends

/-- The frontend phase changes frontends only. -/
theorem of_frontends (h : Phases s b bs ks m c c1 c2 c3 c4 c5 c') :
    c5 = { c4 with frontends := c5.frontends, nextId := c5.nextId } :=
  changes_frontends ensureFrontends_orderly h.frontends

/-- The last phase changes rules only. -/
theorem of_rules (h : Phases s b bs ks m c c1 c2 c3 c4 c5 c') :
    c' = { c5 with rules := c'.rules, nextId := c'.nextId } :=
  Access.changes_rules Access.sync_orderly h.rules

/-- Whatever is no part of what the last three phases change is as it was after the network. -/
theorem of_parts (h : Phases s b bs ks m c c1 c2 c3 c4 c5 c') : c' = { c3 with
    backends := c4.backends
    frontends := c5.frontends
    rules := c'.rules
    nextId := c'.nextId } := by
  conv_lhs => rw [h.of_rules, h.of_frontends, h.of_backends]

/-- After the first two phases, the load balancers stay. -/
theorem balancers_eq (h : Phases s b bs ks m c c1 c2 c3 c4 c5 c') :
    c'.balancers = c2.balancers := by
  rw [h.of_parts, h.of_network]

/-- The backends change in their phase only, once the load balancers are there. -/
theorem backends_eq (h : Phases s b bs ks m c c1 c2 c3 c4 c5 c') :
    c3.backends = c2.backends ∧ c'.backends = c4.backends := by
  constructor
  · rw [h.of_network]
  · rw [h.of_parts]

/-- The frontends change in their phase only. -/
theorem frontends_eq (h : Phases s b bs ks m c c1 c2 c3 c4 c5 c') :
    c4.frontends = c2.frontends ∧ c'.frontends = c5.frontends := by
  constructor
  · rw [h.of_backends, h.of_network]
  · rw [h.of_parts]

/-- The rules stay up to the last phase. -/
theorem rules_eq (h : Phases s b bs ks m c c1 c2 c3 c4 c5 c') : c5.rules = c2.rules := by
  rw [h.of_frontends, h.of_backends, h.of_network]

/-! ### Ids

Every phase leaves a sound cloud sound. -/

/-- The cloud is sound after the primary is ensured. -/
theorem sound_primary (h : Phases s b bs ks m c c1 c2 c3 c4 c5 c') (hc : c.Sound) : c1.Sound :=
  hc.returns h.primary

/-- The cloud is sound after the secondaries are ensured. -/
theorem sound_secondaries (h : Phases s b bs ks m c c1 c2 c3 c4 c5 c') (hc : c.Sound) :
    c2.Sound :=
  (h.sound_primary hc).returns h.secondaries

/-- The cloud is sound after the private network is ensured. -/
theorem sound_network (h : Phases s b bs ks m c c1 c2 c3 c4 c5 c') (hc : c.Sound) : c3.Sound :=
  (h.sound_secondaries hc).returns h.network

/-- The cloud is sound after the backends are ensured. -/
theorem sound_backends (h : Phases s b bs ks m c c1 c2 c3 c4 c5 c') (hc : c.Sound) : c4.Sound :=
  (h.sound_network hc).returns h.backends

/-- The cloud is sound after the frontends are ensured. -/
theorem sound_frontends (h : Phases s b bs ks m c c1 c2 c3 c4 c5 c') (hc : c.Sound) : c5.Sound :=
  (h.sound_backends hc).returns h.frontends

/-- The cloud is sound in the end. -/
theorem sound_rules (h : Phases s b bs ks m c c1 c2 c3 c4 c5 c') (hc : c.Sound) : c'.Sound :=
  (h.sound_frontends hc).returns h.rules

/-! ### Load balancers -/

/-- The first two phases restructure the cloud. -/
theorem restructures (h : Phases s b bs ks m c c1 c2 c3 c4 c5 c') (hc : c.Sound) :
    Cloud.Restructures c c2 := by
  have hprimary : Cloud.Restructures c c1 :=
    hc.restructures_of_returns ensurePrimary_orderly h.primary
  have hsecondaries : Cloud.Restructures c1 c2 :=
    (h.sound_primary hc).restructures_of_returns Secondary.ensure_orderly h.secondaries
  exact hprimary.trans hsecondaries

/-- The gateways stay as they are through all phases. -/
theorem gateways_eq (h : Phases s b bs ks m c c1 c2 c3 c4 c5 c') (hc : c.Sound) :
    c5.gateways = c.gateways ∧ c'.gateways = c.gateways := by
  have h5 : c5.gateways = c.gateways := by
    rw [h.of_frontends, h.of_backends, h.of_network]
    exact (h.restructures hc).gateways
  refine ⟨h5, ?_⟩
  rw [h.of_rules]
  exact h5

/-- A primary in the end is the one that the first phase has left, but for its type. -/
theorem id_eq_of_isPrimary (h : Phases s b bs ks m c c1 c2 c3 c4 c5 c') (hc : c.Sound)
    {p : LoadBalancer} (hp : p ∈ c'.balancers) (hprimary : IsPrimary s p) : p.id = b.id := by
  obtain ⟨q, rfl, hq, _⟩ := ensurePrimary_spec hc h.primary
  rw [h.balancers_eq] at hp
  obtain ⟨horigin, _⟩ := Secondary.ensure_covers (h.sound_primary hc) h.secondaries
  rcases horigin p hp with ⟨p0, hp0, heq⟩ | htags
  · rw [heq] at hprimary ⊢
    have hself : p0 = q := hq.unique p0 hp0 hprimary
    exact congrArg (·.id) hself
  · exact absurd hprimary (not_isPrimary_of_tags htags)

/-- Every secondary in the end is among those that the second phase has returned. -/
theorem id_mem_of_isSecondary (h : Phases s b bs ks m c c1 c2 c3 c4 c5 c') (hc : c.Sound)
    {x : LoadBalancer} (hx : x ∈ c'.balancers) (hsec : Secondary.IsSecondary s x) :
    x.id ∈ bs.map (·.id) := by
  obtain ⟨_, hcovers⟩ := Secondary.ensure_covers (h.sound_primary hc) h.secondaries
  rw [h.balancers_eq] at hx
  exact hcovers.covered x hx hsec

/-- Where roles are apart, the primary is no secondary, and the second phase passes it by. -/
theorem hasPrimary (h : Phases s b bs ks m c c1 c2 c3 c4 c5 c') (hc : c.Sound)
    (hroles : RolesApart s c) :
    ∃ q, b = { q with privateAddress := s.primary.privateAddress } ∧ HasPrimary s q c' ∧
      ¬Secondary.IsSecondary s q ∧ q.zone ∈ s.site.zones ∧
      sameType q.type s.primary.resolvedType = true := by
  obtain ⟨q, hb, hq, hzone, htype, horigin⟩ := ensurePrimary_spec hc h.primary
  -- The primary was there before, or its tags are new.
  have hsec : ¬Secondary.IsSecondary s q := by
    rcases horigin q hq.mem with ⟨q0, hq0, heq⟩ | htags
    · have hprimary := hq.primary.2
      rw [heq] at hprimary ⊢
      intro hsec
      have hnone := hroles q0 hq0 hprimary
      exact Bool.false_ne_true (hnone.symm.trans hsec.2)
    · exact not_isSecondary_of_tags htags
  have hmem : q ∈ c'.balancers := by
    obtain ⟨_, hcovers⟩ := Secondary.ensure_covers (h.sound_primary hc) h.secondaries
    rw [h.balancers_eq]
    exact hcovers.others q hq.mem hsec
  refine ⟨q, hb, ⟨hmem, hq.primary, fun p hp hprimary => ?_⟩, hsec, hzone, htype⟩
  have hid := h.id_eq_of_isPrimary hc hp hprimary
  rw [hb] at hid
  exact (h.sound_rules hc).balancers.inj hp hmem hid

end Phases

end Topology

end ControlPlane
