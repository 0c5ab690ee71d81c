import ControlPlane.Proofs.Ensure.Targets
import ControlPlane.Proofs.Topology.Pools

/-!
# What ensuring frontends leaves

`HasFrontend` says that a load balancer has exactly one frontend under the name of the API server,
and which. A frontend that is there is never changed, and a new one is made from the backend of its
load balancer. `FrontendMap.Maps` ties the collected frontends to the cloud: every entry is the
frontend of its load balancer.
-/

namespace ControlPlane

open Program hiding ofExcept
open Cloud (numbered)

/-- A request to look something up, or to make a frontend. -/
def Request.IsFrontend : Request → Prop
  | .createFrontend .. => True
  | r => r.isMutation = false

namespace Topology

/-- The load balancer has one frontend under the name of the API server. -/
def HasFrontend (c : Cloud) (balancerId : String) (f : Frontend) : Prop :=
  (c.frontends.filter fun f =>
    decide (f.name = frontendName) && decide (f.balancerId = balancerId)) = [f]

/-- The frontend of a load balancer is one of the cloud's, under the name of the API server. -/
theorem HasFrontend.mem_filter {c : Cloud} {balancerId : String} {f : Frontend}
    (h : HasFrontend c balancerId f) :
    f ∈ c.frontends ∧ f.name = frontendName ∧ f.balancerId = balancerId := by
  have hf := List.mem_singleton_self f
  rwa [← h, List.mem_filter, Bool.and_eq_true, decide_eq_true_eq, decide_eq_true_eq] at hf

/-- A load balancer has at most one such frontend. -/
theorem HasFrontend.unique {c : Cloud} {balancerId : String} {f f' : Frontend}
    (h : HasFrontend c balancerId f) (h' : HasFrontend c balancerId f') : f = f' :=
  List.singleton_inj.1 (h.symm.trans h')

end Topology

namespace FrontendMap

variable {m : FrontendMap} {key : String} {f : Frontend}

/-- Every entry is the frontend of its load balancer. -/
def Maps (m : FrontendMap) (c : Cloud) : Prop := ∀ e ∈ m, Topology.HasFrontend c e.1 e.2

/-- What is in a map after an entry is put into it is that entry or was there. -/
theorem mem_put {e : String × Frontend} (h : e ∈ m.put key f) : e = (key, f) ∨ e ∈ m := by
  induction m with
  | nil => exact .inl (List.mem_singleton.1 h)
  | cons entry rest ih =>
    obtain ⟨k, g⟩ := entry
    unfold put at h
    split at h
    · next hk =>
      subst hk
      rcases List.mem_cons.1 h with h | h
      · exact .inl h
      · exact .inr (List.mem_cons_of_mem _ h)
    · rcases List.mem_cons.1 h with h | h
      · exact .inr (List.mem_cons.2 (.inl h))
      · exact (ih h).imp id (List.mem_cons_of_mem _)

/-- The keys of a map after an entry is put into it are that of the entry and those that were there.
-/
theorem mem_keys_put {k : String} :
    k ∈ (m.put key f).map (·.1) ↔ k = key ∨ k ∈ m.map (·.1) := by
  induction m with
  | nil => simp [put]
  | cons entry rest ih =>
    obtain ⟨k', g⟩ := entry
    unfold put
    split
    · next hk =>
      subst hk
      simp
    · rw [List.map_cons, List.mem_cons, ih, List.map_cons, List.mem_cons]
      exact or_left_comm

/-- Putting an entry into a map keeps the keys distinct. -/
theorem nodup_keys_put (h : (m.map (·.1)).Nodup) : ((m.put key f).map (·.1)).Nodup := by
  induction m with
  | nil => exact List.nodup_singleton key
  | cons entry rest ih =>
    obtain ⟨k, g⟩ := entry
    rw [List.map_cons, List.nodup_cons] at h
    unfold put
    split
    · rw [List.map_cons, List.nodup_cons]
      exact h
    · next hk =>
      rw [List.map_cons, List.nodup_cons, mem_keys_put, not_or]
      exact ⟨⟨hk, h.1⟩, ih h.2⟩

/-- A key has an entry that it leads to. -/
theorem exists_lookup (h : key ∈ m.map (·.1)) : ∃ f, m.lookup key = some f ∧ (key, f) ∈ m := by
  induction m with
  | nil => cases h
  | cons entry rest ih =>
    obtain ⟨k, g⟩ := entry
    rw [Reconciler.lookup_cons_if]
    by_cases hk : key = k
    · subst hk
      exact ⟨g, if_pos rfl, List.mem_cons_self⟩
    · obtain ⟨f, hf, hmem⟩ := ih ((List.mem_cons.1 h).resolve_left hk)
      exact ⟨f, by rw [if_neg hk, hf], List.mem_cons_of_mem _ hmem⟩

end FrontendMap

namespace Topology

variable {s : Scope} {c c' : Cloud} {k : Backend} {f : Frontend}

/-- A look-up is a request of the frontend phase. -/
theorem isFrontend_of_lookup (r : Request) (h : r.isMutation = false) : r.IsFrontend := by
  cases r <;> first
    | exact trivial
    | exact h

/-- Checking the port of a frontend sends nothing. -/
theorem checkPort_orderly {allowed : Request → Prop} {port : Int} :
    (checkPort f port).Orderly allowed := by
  unfold checkPort
  split <;> trivial

/-- Checking the port of a frontend always passes, and leaves the cloud as it is. -/
theorem checkPort_returns {port : Int} {u : Unit} :
    (checkPort f port).Returns c u c' ↔ c' = c := by
  unfold checkPort
  split
  · exact returns_done.trans (and_iff_right rfl)
  · exact returns_emit

/-- Ensuring a frontend makes frontends only. -/
theorem ensureFrontend_orderly : (ensureFrontend s k).Orderly Request.IsFrontend := by
  obtain ⟨step, heq, hstep⟩ := ensureFrontend_steps s k
  rw [heq]
  refine (Site.findFrontend_readOnly.orNone.mono isFrontend_of_lookup).bind fun found => ?_
  cases hstep found with
  | created hp => exact hp ▸ Site.orderly_in_zone (orderly_request trivial)
  | kept f hp => exact hp ▸ checkPort_orderly.bind fun _ => trivial

/-- A frontend that has been made on a cloud: under a fresh id, on the declared port, and of one of
some backends. -/
structure MadeFor (s : Scope) (ks : List Backend) (c : Cloud) (f : Frontend) : Prop where
  id : ∃ n, c.nextId ≤ n ∧ f.id = numbered "frontend" n
  port : f.inboundPort = s.apiServerPort
  backend : ∃ k ∈ ks, f.balancerId = k.balancerId ∧ f.backendId = k.id

/-- A new frontend is the only one of a load balancer that had none. -/
theorem hasFrontend_of_append {balancerId : String} {next : Nat}
    (hnone : (c.frontends.filter fun f =>
      decide (f.name = frontendName) && decide (f.balancerId = balancerId)) = [])
    (hname : f.name = frontendName) (hid : f.balancerId = balancerId) :
    HasFrontend { c with frontends := c.frontends ++ [f], nextId := next } balancerId f := by
  show (c.frontends ++ [f]).filter _ = _
  rw [List.filter_append, hnone]
  simp [hname, hid]

/-- A new frontend changes nothing for the load balancers that it is not under. -/
theorem HasFrontend.append {balancerId : String} {new : Frontend} {next : Nat}
    (h : HasFrontend c balancerId f) (hnew : new.balancerId ≠ balancerId) :
    HasFrontend { c with frontends := c.frontends ++ [new], nextId := next } balancerId f := by
  show (c.frontends ++ [new]).filter _ = _
  rw [List.filter_append, h]
  simp [hnew]

/-- Ensuring a frontend leaves one. All that there were are as they were, and the load balancers
that had one have no further one. -/
theorem ensureFrontend_spec (h : (ensureFrontend s k).Returns c f c') :
    k.zone ∈ s.site.zones ∧ HasFrontend c' k.balancerId f ∧
      (∃ new, c'.frontends = c.frontends ++ new ∧ ∀ g ∈ new, MadeFor s [k] c g) ∧
      ∀ id g, HasFrontend c id g → HasFrontend c' id g := by
  obtain ⟨step, heq, hstep⟩ := ensureFrontend_steps s k
  rw [heq] at h
  obtain ⟨found, c1, hfind, hrest⟩ := returns_bind.1 h
  obtain ⟨hzone, hfilter, rfl⟩ := Site.findFrontend_returns.1 hfind
  refine ⟨hzone, ?_⟩
  cases hstep found with
  | created hp =>
    rw [hp] at hrest
    obtain ⟨_, hanswer⟩ := Site.change_returns.1 hrest
    obtain ⟨_, _, rfl, rfl⟩ := Cloud.createFrontend_effect hanswer
    have hnone : (c1.frontends.filter fun f =>
      decide (f.name = frontendName) && decide (f.balancerId = k.balancerId)) = [] := hfilter
    refine ⟨hasFrontend_of_append hnone rfl rfl, ⟨_, rfl, fun g hg => ?_⟩, fun id g hg => ?_⟩
    · rw [List.mem_singleton.1 hg]
      exact ⟨⟨_, Nat.le_refl _, rfl⟩, rfl, k, List.mem_singleton_self k, rfl, rfl⟩
    · -- The new frontend is of a load balancer that had none.
      have hid : k.balancerId ≠ id := by
        rintro rfl
        rw [HasFrontend, hnone] at hg
        cases hg
      exact hg.append hid
  | kept f0 hp =>
    rw [hp] at hrest
    obtain ⟨_, c2, hport, hdone⟩ := returns_bind.1 hrest
    obtain ⟨rfl, rfl⟩ := returns_done.1 hdone
    rw [checkPort_returns] at hport
    subst hport
    exact ⟨hfilter, ⟨[], (List.append_nil _).symm, nofun⟩, fun _ _ hg => hg⟩

/-- Ensuring the frontends of a list of backends sends look-ups and makes frontends. -/
theorem ensureFrontends_orderly {known : FrontendMap} {ks : List Backend} :
    (ensureFrontends s known ks).Orderly Request.IsFrontend := by
  rw [ensureFrontends_eq]
  exact (orderly_closed _).foldlM (fun _ _ _ => ensureFrontend_orderly.map _) known

/-- Ensuring the frontends of backends collects one for each of their load balancers, next to those
known. All that there were are as they were. -/
theorem ensureFrontends_spec {known m : FrontendMap} {ks : List Backend} (hmaps : known.Maps c)
    (hkeys : (known.map (·.1)).Nodup) (h : (ensureFrontends s known ks).Returns c m c') :
    m.Maps c' ∧ (m.map (·.1)).Nodup ∧
      (∀ id, id ∈ m.map (·.1) ↔ id ∈ known.map (·.1) ∨ id ∈ ks.map (·.balancerId)) ∧
      (∀ k ∈ ks, k.zone ∈ s.site.zones) ∧
      (∃ new, c'.frontends = c.frontends ++ new ∧ ∀ g ∈ new, MadeFor s ks c g) ∧
      ∀ id g, HasFrontend c id g → HasFrontend c' id g := by
  induction ks generalizing c known with
  | nil =>
    obtain ⟨rfl, rfl⟩ := returns_done.1 h
    exact ⟨hmaps, hkeys, by simp, nofun, ⟨[], (List.append_nil _).symm, nofun⟩, fun _ _ hg => hg⟩
  | cons k rest ih =>
    obtain ⟨f, c1, hf, hrest⟩ := returns_bind.1 h
    obtain ⟨hzone, hhas, ⟨new, hnew, hmade⟩, hkeep⟩ := ensureFrontend_spec hf
    -- The frontends that are known are still the only ones of their load balancers.
    have hmaps1 : (known.put k.balancerId f).Maps c1 := by
      intro e he
      rcases FrontendMap.mem_put he with rfl | he
      · exact hhas
      · exact hkeep _ _ (hmaps e he)
    obtain ⟨hm, hmkeys, hmem, hzones, ⟨more, hmore, hmade'⟩, hkeep'⟩ :=
      ih hmaps1 (FrontendMap.nodup_keys_put hkeys) hrest
    refine ⟨hm, hmkeys, fun id => ?_, ?_, ⟨new ++ more, ?_, fun g hg => ?_⟩,
      fun id g hg => hkeep' _ _ (hkeep _ _ hg)⟩
    · rw [hmem, FrontendMap.mem_keys_put, List.map_cons, List.mem_cons]
      exact or_assoc.trans or_left_comm
    · rintro x (_ | ⟨_, hx⟩)
      · exact hzone
      · exact hzones x hx
    · rw [hmore, hnew, List.append_assoc]
    · rcases List.mem_append.1 hg with hg | hg
      · obtain ⟨hfresh, hport, k', hk', hid⟩ := hmade g hg
        rw [List.mem_singleton.1 hk'] at hid
        exact ⟨hfresh, hport, k, List.mem_cons_self, hid⟩
      -- An id that was fresh later on was fresh at first.
      · obtain ⟨⟨n, hn, hnumbered⟩, hport, k', hk', hid⟩ := hmade' g hg
        have hlater : c.nextId ≤ n := by
          calc c.nextId ≤ c1.nextId := Cloud.nextId_le_of_returns hf
            _ ≤ n := hn
        exact ⟨⟨n, hlater, hnumbered⟩, hport, k', List.mem_cons_of_mem _ hk', hid⟩

/-- Ensuring frontends changes nothing but frontends. -/
theorem changes_frontends {α : Type} {p : Program α} {a : α} (hp : p.Orderly Request.IsFrontend)
    (h : p.Returns c a c') : c' = { c with frontends := c'.frontends, nextId := c'.nextId } := by
  refine hp.changes (R := fun c c' =>
    c' = { c with frontends := c'.frontends, nextId := c'.nextId }) h (fun _ => rfl) ?_ ?_
  · intro c c1 c2 h1 h2
    rw [h2, h1]
  · intro r c v c' hr hv
    cases r with
    | createFrontend =>
      obtain ⟨_, _, rfl, rfl⟩ := Cloud.createFrontend_effect hv
      rfl
    | listBalancers | listAddresses | listBackends | listFrontends | listRules | listAttachments
    | listPrivateAddresses | listGateways => cases hv; rfl
    | createBalancer | migrateBalancer | deleteBalancer | createBackend | setServers | addServer
    | removeServer | createRule | updateRule | deleteRule | setRules | attach => cases hr

end Topology

end ControlPlane
