import ControlPlane.Member
import ControlPlane.Proofs.Provider.Trials
import ControlPlane.Proofs.Topology.Phases

/-!
# What is run for a cluster

The four programs of a cluster as one type of jobs, and how a run of a job goes in circumstances
that let it take time, be canceled and have requests fail. All four programs are brittle: no failure
is overlooked but that of a look-up that found nothing. So an interrupted run ends where it is
interrupted, and `Job.passes` reduces it to the run that nothing interrupts.
-/

namespace ControlPlane

open Program hiding ofExcept

/-- What can be run for a cluster. -/
inductive Job
  | reconcile
  | delete
  | register (member node : String) (addresses : List String)
  | remove (member node : String)
  deriving DecidableEq, Repr

/-- The program of a job. -/
def Job.program (s : Scope) : Job → Program Unit
  | .reconcile => Topology.reconcile s
  | .delete => Topology.delete s
  | .register name node addresses => (⟨s, name⟩ : Member).reconcile node addresses
  | .remove name node => (⟨s, name⟩ : Member).delete node

/-- What a run meets with: how long it may take, the clock and the cancellation at its start, and
how the cloud is disturbed. -/
structure Circumstances where
  deadline : Option Seconds := none
  start : Seconds := 0
  canceled : Bool := false
  step : Seconds := 0
  disturbances : List Disturbance := []

namespace Circumstances

/-- A session on a cloud in some circumstances. -/
def session (k : Circumstances) (c : Cloud) : Session Trial where
  world :=
    { store := { cloud := c, step := k.step, disturbances := k.disturbances }
      now := k.start
      canceled := k.canceled }

/-- No request fails as if something was not found. -/
def Gentle (k : Circumstances) : Prop :=
  ∀ d ∈ k.disturbances, ∀ e, d.failure = some e → e.isNotFound = false

/-- The clouds that a run passes through, one after each call. -/
def passes (k : Circumstances) (p : Program Unit) (c : Cloud) : List Cloud :=
  p.passes k.deadline (k.session c)

/-- The cloud that a run leaves. -/
def leaves (k : Circumstances) (p : Program Unit) (c : Cloud) : Cloud :=
  (p.run Trial.provider k.deadline (k.session c)).2.cloud

/-- What an undisturbed run of a brittle program upholds, holds all the way of a disturbed one. -/
theorem Gentle.passes {k : Circumstances} (hk : k.Gentle) {P : Cloud → Prop} {p : Program Unit}
    (hp : p.Brittle) {c : Cloud} (h : p.Upholds P c) :
    (∀ v ∈ k.passes p c, P v) ∧ P (k.leaves p c) := by
  have hpasses : ∀ v ∈ k.passes p c, P v := hp.passes (x := k.session c) hk h
  refine ⟨hpasses, ?_⟩
  rcases List.mem_cons.1 (run_mem_passes k.deadline p (k.session c)) with heq | hmem
  · unfold leaves
    rw [heq]
    exact h c List.mem_cons_self
  · exact hpasses _ hmem

end Circumstances

/-! ## Members -/

/-- A request that is no change of load balancers, and no attachment either. -/
def Request.IsBelow : Request → Prop
  | .createBalancer .. | .migrateBalancer .. | .deleteBalancer .. | .attach .. => False
  | _ => True

namespace Member

variable {m : Member} {bs : List LoadBalancer}

/-- A look-up is a request below load balancers. -/
theorem isBelow_of_lookup (r : Request) (h : r.isMutation = false) : r.IsBelow := by
  cases r <;> trivial

/-- Finding the load balancers of a cluster only looks up. -/
theorem findBalancers_readOnly : m.findBalancers.ReadOnly := by
  refine (orderly_ofExcept _).bind fun zone => ?_
  exact Site.findBalancer_readOnly.bind fun _ => Site.findBalancers_readOnly.bind fun _ => trivial

/-- Acting on live load balancers sends what the single actions send. -/
theorem eachLive_orderly {allowed : Request → Prop} {act : LoadBalancer → Program Unit}
    (hact : ∀ b, (act b).Orderly allowed) : (eachLive act bs).Orderly allowed := by
  rw [eachLive_eq]
  exact (orderly_closed allowed).forM fun b _ => hact b

/-- Registering a node with a pool stays below load balancers. -/
theorem ensureServer_orderly {site : Site} {node : String} {deletion : Bool} {b : LoadBalancer} :
    (ensureServer site node deletion b).Orderly Request.IsBelow := by
  obtain ⟨step, heq, hstep⟩ := ensureServer_steps site node deletion b
  rw [heq]
  refine (Site.findBackend_readOnly.mono isBelow_of_lookup).bind fun k => ?_
  cases hstep k with
  | removed _ _ hp | added _ _ hp => exact hp ▸ Site.orderly_in_zone (orderly_request trivial)
  | kept _ hp => exact hp ▸ trivial

/-- Finding a frontend only looks up, also where it may be missing. -/
theorem findFrontend_readOnly {deletion : Bool} {b : LoadBalancer} :
    ((some <$> m.scope.site.findFrontend b.zone b.id Topology.frontendName).handle fun e =>
      if deletion && e.isIgnored [.notFound] then .done none else .fail e).ReadOnly := by
  refine ReadOnly.handle (Site.findFrontend_readOnly.map some) (fun e he => ?_) fun e => ?_
  · rw [isIgnored_notFound he, Bool.and_false]
    rfl
  · split <;> trivial

/-- Ensuring the rule of a member changes rules only. -/
theorem ensureRule_isRule {addresses : List String} {deletion : Bool} {b : LoadBalancer} :
    (m.ensureRule addresses deletion b).Orderly Request.IsRule := by
  refine (findFrontend_readOnly.mono Access.isRule_of_lookup).bind fun found => ?_
  cases found with
  | none => trivial
  | some f => exact Access.ensureRule_orderly

/-- Ensuring the rule of a member stays below load balancers. -/
theorem ensureRule_orderly {addresses : List String} {deletion : Bool} {b : LoadBalancer} :
    (m.ensureRule addresses deletion b).Orderly Request.IsBelow :=
  ensureRule_isRule.mono fun r hr => by cases r <;> first
    | exact trivial
    | cases hr

/-- Registering a member stays below load balancers. -/
theorem reconcile_orderly {node : String} {addresses : List String} :
    (m.reconcile node addresses).Orderly Request.IsBelow := by
  refine (findBalancers_readOnly.mono isBelow_of_lookup).bind fun bs => ?_
  refine (eachLive_orderly fun _ => ensureServer_orderly).bind fun _ => ?_
  exact eachLive_orderly fun _ => ensureRule_orderly

/-- Removing a member stays below load balancers. -/
theorem delete_orderly {node : String} : (m.delete node).Orderly Request.IsBelow := by
  refine (findBalancers_readOnly.orNone.mono isBelow_of_lookup).bind fun bs => ?_
  refine (eachLive_orderly fun _ => ensureRule_orderly).bind fun _ => ?_
  exact eachLive_orderly fun _ => ensureServer_orderly

end Member

/-! ## No failure is overlooked -/

namespace Topology

variable {s : Scope}

/-- Deleting the primary is about load balancers only. -/
theorem deletePrimary_orderly : (deletePrimary s).Orderly Request.IsStructural := by
  cases hresolve : s.primary.resolve s.site.region with
  | error e => exact deletePrimary_of_error hresolve ▸ trivial
  | ok zt =>
    obtain ⟨step, heq, hstep⟩ := deletePrimary_steps hresolve
    rw [heq]
    refine (Site.findBalancer_readOnly.orNone.mono Secondary.isStructural_of_lookup).bind
      fun found => ?_
    cases hstep found with
    | gone hp => exact hp ▸ trivial
    | deleted b hp => exact hp ▸ Site.orderly_in_zone (orderly_request trivial)

/-- The deletion of a cluster is about load balancers only. -/
theorem delete_orderly : (delete s).Orderly Request.IsStructural :=
  deletePrimary_orderly.bind fun _ => Secondary.ensure_orderly.discard

/-- Publishing is brittle. -/
theorem publish_brittle {b : LoadBalancer} {bs : List LoadBalancer} : (publish s b bs).Brittle := by
  refine (brittle_ofExcept _).bind fun main => ?_
  exact (brittle_emit _).bind fun _ => (brittle_ofExcept _).bind fun _ => brittle_emit _

/-- A run for a cluster is brittle. -/
theorem reconcile_brittle : (reconcile s).Brittle := by
  rw [reconcile_eq]
  exact arrange_orderly.brittle.bind fun _ => publish_brittle

end Topology

/-- Every job is brittle. -/
theorem Job.brittle (s : Scope) (j : Job) : (j.program s).Brittle := by
  cases j with
  | reconcile => exact Topology.reconcile_brittle
  | delete => exact Topology.delete_orderly.brittle
  | register => exact Member.reconcile_orderly.brittle
  | remove => exact Member.delete_orderly.brittle

end ControlPlane
