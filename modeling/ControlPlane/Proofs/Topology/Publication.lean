import ControlPlane.Proofs.Topology.Holding
import ControlPlane.Proofs.Topology.Undoing

/-!
# Addresses published halfway

A run publishes at its end, the address of the primary first and those of the secondaries after it.
What the secondaries are published under is only worked out in between. Before that nothing is
published (`Orderly.run_status`), so a run that fails has published nothing, or the address of the
primary alone: the latter if it gets to its end and the primary has an address, but some secondary
has none (`Halfway`). `reconcile_publishes_iff` says that nothing else is left behind. On the
private network every load balancer has an address once the run gets there, so a private topology is
published as a whole or not at all.
-/

namespace ControlPlane

open Program hiding ofExcept

namespace Topology

variable {σ : Type} {s : Scope} {p : Provider σ} {deadline : Option Seconds} {x x' y : Session σ}
  {b : LoadBalancer} {bs rs : List LoadBalancer} {main : String} {e : Failure}

/-! ## What there is to publish -/

/-- Every load balancer of a list that could be resolved has a private address. -/
theorem privateAddress_of_resolveAll {held : List PrivateAddress}
    (h : resolveAll held bs = .ok rs) :
    rs.length = bs.length ∧ ∀ r ∈ rs, r.privateAddress ≠ none := by
  induction bs generalizing rs with
  | nil =>
    cases h
    exact ⟨rfl, nofun⟩
  | cons b rest ih =>
    -- Once the first one has an address, the others come after it.
    have hcons : ∀ r : LoadBalancer, r.privateAddress ≠ none →
        (resolveAll held rest >>= fun more => .ok (r :: more)) = .ok rs →
        rs.length = (b :: rest).length ∧ ∀ r ∈ rs, r.privateAddress ≠ none := by
      intro r hr hmore
      obtain ⟨more, hrest, hdone⟩ := bind_eq_ok.1 hmore
      cases hdone
      obtain ⟨hlength, hall⟩ := ih hrest
      exact ⟨congrArg (· + 1) hlength, List.forall_mem_cons.2 ⟨hr, hall⟩⟩
    unfold resolveAll at h
    cases haddress : b.privateAddress with
    | some address =>
      rw [haddress] at h
      exact hcons b (by rw [haddress]; exact Option.some_ne_none _) h
    | none =>
      rw [haddress] at h
      dsimp only at h
      cases hheld : heldBy b.id held with
      | none =>
        rw [hheld] at h
        cases h
      | some address =>
        rw [hheld] at h
        exact hcons _ (Option.some_ne_none _) h

/-- Whatever the provider does, on a private network all load balancers that come out have a private
address, and none is lost. -/
theorem privateAddress_of_ensurePrivateNetwork (hnetwork : s.privateNetworkId ≠ none)
    (h : (ensurePrivateNetwork s bs).run p deadline x = (.ok rs, y)) :
    rs.length = bs.length ∧ ∀ r ∈ rs, r.privateAddress ≠ none := by
  obtain ⟨networkId, hid⟩ := Option.ne_none_iff_exists'.1 hnetwork
  rw [ensurePrivateNetwork_of_some hid] at h
  obtain ⟨_, x1, _, hresolve⟩ := run_bind_eq_ok h
  cases resolveHeld_steps networkId bs with
  | resolved hall hp =>
    rw [hp] at hresolve
    cases hresolve
    exact ⟨rfl, fun r hr hnone => List.ne_nil_of_mem (mem_unresolved r hr hnone) hall⟩
  | listed _ hp =>
    rw [hp] at hresolve
    obtain ⟨held, x2, _, hok⟩ := run_bind_eq_ok hresolve
    exact privateAddress_of_resolveAll (run_ofExcept_eq_ok hok)

/-- Whatever the provider does, on a private network all that is to be published has a private
address. -/
theorem privateAddress_of_arrange (hnetwork : s.privateNetworkId ≠ none)
    (h : (arrange s).run p deadline x = (.ok (b, bs), y)) :
    ∀ m ∈ b :: bs, m.privateAddress ≠ none := by
  unfold arrange at h
  obtain ⟨primary, x1, _, h1⟩ := run_bind_eq_ok h
  obtain ⟨secondaries, x2, _, h2⟩ := run_bind_eq_ok h1
  obtain ⟨_, x3, _, h3⟩ := run_bind_eq_ok h2
  obtain ⟨rs, x4, hresolved, h4⟩ := run_bind_eq_ok h3
  obtain ⟨_, x5, _, h5⟩ := run_bind_eq_ok h4
  obtain ⟨_, x6, _, h6⟩ := run_bind_eq_ok h5
  obtain ⟨_, x7, _, hdone⟩ := run_bind_eq_ok h6
  cases hdone
  obtain ⟨hlength, hall⟩ := privateAddress_of_ensurePrivateNetwork hnetwork hresolved
  -- The primary is attached with the others, so the list that comes back is not empty.
  have hne : rs ≠ [] := by
    rintro rfl
    simp at hlength
  refine List.forall_mem_cons.2 ⟨?_, fun m hm => hall m (List.dropLast_subset rs hm)⟩
  rw [List.getLastD_eq_getLast?, List.getLast?_eq_some_getLast hne]
  exact hall _ (List.getLast_mem hne)

/-! ## How a failed run has published -/

/-- How publishing ends, and with which status. -/
theorem publish_run_eq : (publish s b bs).run p deadline x =
    match publishedAddress s b, (bs.mergeSort byZoneAndName).mapM (publishedAddress s) with
    | .error e, _ => (.error e, x)
    | .ok main, .error e => (.error e, x.note (.address main))
    | .ok main, .ok others => (.ok (), (x.note (.address main)).note (.secondaryAddresses others)) := by
  show (Program.ofExcept (publishedAddress s b) >>= fun main =>
    Program.emit (.address main) >>= fun _ =>
      Program.ofExcept ((bs.mergeSort byZoneAndName).mapM (publishedAddress s)) >>= fun others =>
        Program.emit (.secondaryAddresses others)).run p deadline x = _
  cases publishedAddress s b with
  | error e => rfl
  | ok main => cases (bs.mergeSort byZoneAndName).mapM (publishedAddress s) <;> rfl

/-- In a run everything is arranged, and `main` is what the primary is published under. Of the
secondaries, by zone and name, some can be published, and then comes one that fails with `e`. -/
def Halfway (s : Scope) (p : Provider σ) (deadline : Option Seconds) (x : Session σ) (main : String)
    (e : Failure) : Prop :=
  ∃ b bs y, (arrange s).run p deadline x = (.ok (b, bs), y) ∧ publishedAddress s b = .ok main ∧
    ∃ before m after, bs.mergeSort byZoneAndName = before ++ m :: after ∧
      (∀ b ∈ before, ∃ address, publishedAddress s b = .ok address) ∧
      publishedAddress s m = .error e

/-- On a private network, a private topology has all its addresses. -/
theorem not_halfway (hprivate : s.balancersPrivate = true) (hnetwork : s.privateNetworkId ≠ none) :
    ¬Halfway s p deadline x main e := by
  rintro ⟨b, bs, y, harrange, _, before, m, after, hsorted, _, hfails⟩
  have hm : m ∈ bs.mergeSort byZoneAndName := by
    rw [hsorted]
    exact List.mem_append_right _ List.mem_cons_self
  have hsome := privateAddress_of_arrange hnetwork harrange m
    (List.mem_cons_of_mem _ (List.mem_mergeSort.1 hm))
  obtain ⟨address, haddress⟩ := Option.ne_none_iff_exists'.1 hsome
  rw [(publishedAddress_eq_ok hprivate).2 haddress] at hfails
  cases hfails

/-- A run that fails has published nothing, or it was halfway and has published the primary. -/
theorem reconcile_failed (h : (reconcile s).run p deadline x = (.error e, x')) :
    (x'.status = x.status ∧ ∀ main, ¬Halfway s p deadline x main e) ∨
      ∃ main, Halfway s p deadline x main e ∧
        x'.status = { x.status with address := some main } := by
  rw [reconcile_eq, run_bind] at h
  have hstatus : ((arrange s).run p deadline x).2.status = x.status := arrange_orderly.run_status
  rcases harrange : (arrange s).run p deadline x with ⟨e' | ⟨b, bs⟩, y⟩
  · rw [harrange] at h hstatus
    -- Arranging has failed, before anything was published.
    cases h
    refine .inl ⟨hstatus, ?_⟩
    rintro main ⟨_, _, _, hreturns, _⟩
    cases harrange.symm.trans hreturns
  · rw [harrange] at h hstatus
    dsimp only at h hstatus
    rw [publish_run_eq] at h
    -- The primary's address comes first, and is noted before the others are computed.
    cases hmain : publishedAddress s b with
    | error e' =>
      rw [hmain] at h
      cases h
      refine .inl ⟨hstatus, ?_⟩
      rintro main ⟨_, _, _, hreturns, haddress, _⟩
      cases harrange.symm.trans hreturns
      cases hmain.symm.trans haddress
    | ok main =>
      cases hothers : (bs.mergeSort byZoneAndName).mapM (publishedAddress s) with
      | ok others =>
        rw [hmain, hothers] at h
        cases h
      | error e' =>
        rw [hmain, hothers] at h
        cases h
        refine .inr ⟨main, ⟨b, bs, y, harrange, hmain, mapM_eq_error.1 hothers⟩, ?_⟩
        show { y.status with address := some main } = _
        rw [hstatus]

/-- What a run leaves published that fails, whatever the provider does. The addresses are what they
were before exactly if the run was not halfway, or the address of the primary was published already.
If it was halfway, the new address of the primary stands beside the old ones of the secondaries, and
nothing else of the status has changed. A private topology on a private network never gets halfway.
-/
theorem reconcile_publishes_iff (h : (reconcile s).run p deadline x = (.error e, x')) :
    ((x'.status.address = x.status.address ∧
        x'.status.secondaryAddresses = x.status.secondaryAddresses) ↔
      ∀ main, Halfway s p deadline x main e → x.status.address = some main) ∧
    (∀ main, Halfway s p deadline x main e →
      x'.status = { x.status with address := some main }) ∧
    (s.balancersPrivate = true → s.privateNetworkId ≠ none → x'.status = x.status) := by
  rcases reconcile_failed h with ⟨hstatus, hnot⟩ | ⟨main, hhalfway, hstatus⟩
  · refine ⟨iff_of_true ?_ fun main hmain => (hnot main hmain).elim,
      fun main hmain => (hnot main hmain).elim, fun _ _ => hstatus⟩
    rw [hstatus]
    exact ⟨rfl, rfl⟩
  · -- Arranging has one outcome, and so there is one address to stop after.
    have hunique : ∀ main', Halfway s p deadline x main' e → main' = main := by
      rintro main' ⟨_, _, _, hreturns', haddress', _⟩
      obtain ⟨_, _, _, hreturns, haddress, _⟩ := hhalfway
      cases hreturns.symm.trans hreturns'
      exact Except.ok.inj (haddress'.symm.trans haddress)
    refine ⟨?_, fun main' hmain => ?_, fun hprivate hnetwork =>
      (not_halfway hprivate hnetwork hhalfway).elim⟩
    · rw [hstatus]
      constructor
      · rintro ⟨hsame, _⟩ main' hmain
        rw [hunique main' hmain]
        exact hsame.symm
      · intro hold
        exact ⟨(hold main hhalfway).symm, rfl⟩
    · rw [hunique main' hmain]
      exact hstatus

end Topology

namespace Sample

/-- The cloud of a public cluster whose secondary has no IPv4 address. -/
def unreachable : Cloud where
  balancers :=
    [{ id := "main", zone := "fr-par-1", name := "demo", type := "lb-s"
       tags := Topology.primaryTags publicScope
       addresses := [{ id := "first", address := "51.15.1.1", zone := "fr-par-1" }] },
     { id := "second", zone := "fr-par-2", name := "demo-0", type := "lb-s"
       tags := Secondary.tags publicScope ++ [Tag.managedAddress]
       addresses := [{ id := "wide", address := "2001:db8::1", zone := "fr-par-2" }] }]

/-- How a run fails, if it does, it fails in a session. -/
theorem exists_of_not_isOk {α σ : Type} {r : Except Failure α × σ} (h : r.1.isOk = false) :
    ∃ e x, r = (.error e, x) := by
  obtain ⟨e | a, x⟩ := r
  · exact ⟨e, x, rfl⟩
  · cases h

end Sample

namespace Topology

/-- The address of the primary is published for the first time, and then the run fails. -/
theorem sample_published_halfway :
    let x := Sample.session Sample.unreachable
    ∃ e x', (reconcile Sample.publicScope).run Cloud.provider none x = (.error e, x') ∧
      x.status.address = none ∧ x'.status.address = some "51.15.1.1" ∧
      x'.status.secondaryAddresses = [] ∧
      Halfway Sample.publicScope Cloud.provider none x "51.15.1.1" e := by
  intro x
  obtain ⟨e, x', hrun⟩ := Sample.exists_of_not_isOk
    (r := (reconcile Sample.publicScope).run Cloud.provider none x) (by decide +kernel)
  have haddress : ((reconcile Sample.publicScope).run Cloud.provider none x).2.status.address =
      some "51.15.1.1" := by decide +kernel
  rw [hrun] at haddress
  obtain ⟨hiff, hstatus, _⟩ := reconcile_publishes_iff hrun
  -- An address has been published, so that the run has got halfway.
  have hhalfway : ∃ main, Halfway Sample.publicScope Cloud.provider none x main e := by
    by_contra hnone
    have hsame := (hiff.2 fun main hmain => (hnone ⟨main, hmain⟩).elim).1
    cases haddress.symm.trans hsame
  obtain ⟨main, hmain⟩ := hhalfway
  have hleft := hstatus main hmain
  rw [hleft] at haddress
  cases haddress
  refine ⟨e, x', hrun, rfl, ?_, ?_, hmain⟩
  · rw [hleft]
  · rw [hleft]
    rfl

end Topology

end ControlPlane
