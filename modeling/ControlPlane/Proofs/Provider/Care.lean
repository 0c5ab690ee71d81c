import ControlPlane.Proofs.Provider.Exchanges
import ControlPlane.Proofs.Provider.Operations
import ControlPlane.Proofs.Provider.Walks

/-!
# Programs that ask with care

What the operations of a site owe a provider, whatever it answers. They send requests only to zones
of the region in which it offers what they are about. And of an answer they use only what was asked
for: a provider may list less or more of the rest, and in between.

`Program.Careful` says both of a program. It is kept wherever programs are put together, so a
reconciler is careful since each of its operations is. Two facts about runs follow, against any
provider: a careful program stays in the region (`Careful.exchanges_stay`), and it cannot tell
providers apart that do the same and agree on what is asked for (`Careful.run_eq`).
-/

namespace ControlPlane

open Program hiding ofExcept

variable {σ α β : Type}

/-- Filtering a second time changes nothing. -/
theorem filter_twice (p : α → Bool) (as : List α) : (as.filter p).filter p = as.filter p :=
  List.filter_filter.trans (by simp only [Bool.and_self])

namespace Request

/-- The zones in which what a request is about can be had. -/
def offered (s : Site) : Request → List String
  | listGateways .. => s.region.productZones s.gatewayZones
  | _ => s.region.productZones s.balancerZones

/-- If a request goes to a zone, it is one in which what the request is about can be had. -/
def StaysIn (s : Site) (r : Request) : Prop := ∀ zone, r.zone? = some zone → zone ∈ r.offered s

/-- A request for one zone stays in where that zone is offered. -/
theorem staysIn_of_zone {s : Site} {r : Request} {zone : String} (hr : r.zone? = some zone)
    (hzone : zone ∈ r.offered s) : r.StaysIn s := fun _ hz =>
  Option.some.inj (hr.symm.trans hz) ▸ hzone

/-- Of the answer to a request, what was asked for. Attachments are looked for that lead to one
private network, if there is one. -/
def asked (network : Option String) : (r : Request) → r.Reply → r.Reply
  | listBalancers _ tags, bs => bs.filter (hasTags ·.tags tags)
  | listAddresses _ address, as => as.filter (·.address = address)
  | listBackends _ _ name, bs => bs.filter (·.name = name)
  | listFrontends _ _ name, fs => fs.filter (·.name = name)
  | listRules _ _ (some name), rs => rs.filter (·.name = name)
  | listAttachments _ _, as => as.filter (some ·.networkId = network)
  | listPrivateAddresses networkId, as => as.filter (·.networkId = networkId)
  | listGateways _ tags, gs => gs.filter (hasTags ·.tags tags)
  | _, answer => answer

/-- Narrowing an answer twice is narrowing it once. -/
theorem asked_asked (network : Option String) (r : Request) (answer : r.Reply) :
    r.asked network (r.asked network answer) = r.asked network answer := by
  cases r with
  | listRules zone frontendId name =>
    cases name with
    | none => rfl
    | some name => exact filter_twice _ answer
  | listBalancers | listAddresses | listBackends | listFrontends | listAttachments
  | listPrivateAddresses | listGateways => exact filter_twice _ answer
  | _ => rfl

end Request

/-- Two providers act alike, and their answers agree on what is asked for. One may list, anywhere in
between, what the other leaves out. -/
def Provider.Agrees (network : Option String) (p p' : Provider σ) : Prop :=
  ∀ r left w, (p.answer r left w).2 = (p'.answer r left w).2 ∧
    (p.answer r left w).1.map (r.asked network) = (p'.answer r left w).1.map (r.asked network)

/-- The provider that lists what it was asked for and nothing else. -/
def Provider.narrowed (network : Option String) (p : Provider σ) : Provider σ where
  answer r left w :=
    let (answer, w) := p.answer r left w
    (answer.map (r.asked network), w)

/-- The narrowed provider agrees with the one that it narrows. -/
theorem Provider.narrowed_agrees (network : Option String) (p : Provider σ) :
    (p.narrowed network).Agrees network p := by
  intro r left w
  refine ⟨rfl, ?_⟩
  show ((p.answer r left w).1.map (r.asked network)).map (r.asked network) = _
  cases (p.answer r left w).1 with
  | error e => rfl
  | ok a => exact congrArg Except.ok (r.asked_asked network a)

namespace Program

/-- Whatever is answered, the program sends its requests to zones in which what they are about can
be had, and it goes on the same if an answer is narrowed to what was asked for. -/
def Careful (s : Site) (network : Option String) : Program α → Prop
  | done _ => True
  | fail _ => True
  | send r next =>
    r.StaysIn s ∧ (∀ a, next (.ok (r.asked network a)) = next (.ok a)) ∧
      ∀ answer, (next answer).Careful s network
  | report _ next => next.Careful s network

variable {s : Site} {network : Option String}

/-- A check sends nothing. -/
theorem careful_ofExcept (r : Except Failure α) : (ofExcept r).Careful s network := by
  cases r <;> trivial

/-- Two programs in turn are careful if both are. -/
theorem Careful.bind {p : Program α} {f : α → Program β} (hp : p.Careful s network)
    (hf : ∀ a, (f a).Careful s network) : (p >>= f).Careful s network := by
  induction p with
  | done a => exact hf a
  | fail e => trivial
  | send r next ih =>
    obtain ⟨hr, hasked, hnext⟩ := hp
    exact ⟨hr, fun a => congrArg (fun q => q >>= f) (hasked a),
      fun answer => ih answer (hnext answer)⟩
  | report e next ih => exact ih hp

/-- Being careful is closed under sequencing. -/
theorem careful_closed (s : Site) (network : Option String) : Closed fun p => p.Careful s network :=
  ⟨fun _ => trivial, Careful.bind⟩

/-- A careful program is careful with a function of its value. -/
theorem Careful.map {p : Program α} (f : α → β) (hp : p.Careful s network) :
    (f <$> p).Careful s network :=
  hp.bind fun _ => trivial

/-- A careful program is careful when its value is dropped. -/
theorem Careful.discard {p : Program α} (hp : p.Careful s network) :
    (Functor.discard p).Careful s network :=
  hp.bind fun _ => trivial

/-- A careful program is careful with a careful handler of its failures. -/
theorem Careful.handle {p : Program α} {f : Failure → Program α} (hp : p.Careful s network)
    (hf : ∀ e, (f e).Careful s network) : (p.handle f).Careful s network := by
  induction p with
  | done a => trivial
  | fail e => exact hf e
  | send r next ih =>
    obtain ⟨hr, hasked, hnext⟩ := hp
    exact ⟨hr, fun a => congrArg (Program.handle · f) (hasked a),
      fun answer => ih answer (hnext answer)⟩
  | report e next ih => exact ih hp

/-- A careful program is careful where it may find nothing. -/
theorem Careful.orNone {p : Program α} (hp : p.Careful s network) :
    p.orNone.Careful s network := by
  refine (hp.map some).handle fun e => ?_
  split <;> trivial

/-- A careful program is careful when its failure is taken as a value. -/
theorem Careful.attempt {p : Program α} (hp : p.Careful s network) :
    p.attempt.Careful s network :=
  (hp.map Except.ok).handle fun _ => trivial

/-- A request may be sent for all that is answered, if all of that is what was asked for. -/
theorem careful_request {r : Request} (hr : r.StaysIn s) (hall : ∀ a, r.asked network a = a) :
    (request r).Careful s network :=
  ⟨hr, fun a => congrArg (fun b => ofExcept (.ok b)) (hall a), careful_ofExcept⟩

/-- What comes after a look-up may use of the answer what was asked for. -/
theorem careful_lookup {r : Request} {f : r.Reply → Program α} (hr : r.StaysIn s)
    (hasked : ∀ a, f (r.asked network a) = f a) (hf : ∀ a, (f a).Careful s network) :
    (request r >>= f).Careful s network := by
  refine ⟨hr, hasked, ?_⟩
  rintro (e | a)
  · trivial
  · exact hf a

/-! ## Runs of careful programs -/

/-- With any provider, all requests that a careful program sends stay in. -/
theorem Careful.exchanges_stay {q : Program α} (hq : q.Careful s network) (p : Provider σ)
    (deadline : Option Seconds) (x : Session σ) :
    ∀ k ∈ q.exchanges p deadline x, k.request.StaysIn s := by
  induction q generalizing x with
  | done | fail => exact List.forall_mem_nil _
  | send r next ih =>
    rcases h : checkRun x.world.canceled (remaining deadline x.world.now) with e | _
    · rw [exchanges_of_error _ h]
      exact List.forall_mem_nil _
    · rw [exchanges_of_ok h]
      exact List.forall_mem_cons.2 ⟨hq.1, ih _ (hq.2.2 _) _⟩
  | report e next ih => exact ih hq (x.note e)

/-- What a careful program does next depends on what was asked for alone. -/
theorem Careful.next_eq {r : Request} {next : Except Failure r.Reply → Program α}
    (h : (send r next).Careful s network) {answer answer' : Except Failure r.Reply}
    (hsame : answer.map (r.asked network) = answer'.map (r.asked network)) :
    next answer = next answer' := by
  obtain ⟨_, hasked, _⟩ := h
  rcases answer with e | a <;> rcases answer' with e' | a'
  · exact congrArg (fun f => next (.error f)) (Except.error.inj hsame)
  · cases hsame
  · cases hsame
  · have hnarrow : r.asked network a = r.asked network a' := Except.ok.inj hsame
    calc next (.ok a) = next (.ok (r.asked network a)) := (hasked a).symm
      _ = next (.ok (r.asked network a')) := by rw [hnarrow]
      _ = next (.ok a') := hasked a'

/-- A call to one of two providers that agree leaves the same session as one to the other, with an
answer that agrees. -/
theorem call_agrees {p p' : Provider σ} (h : p.Agrees network p') (deadline : Option Seconds)
    (r : Request) (x : Session σ) :
    (x.call p deadline r).2 = (x.call p' deadline r).2 ∧
      (x.call p deadline r).1.map (r.asked network) =
        (x.call p' deadline r).1.map (r.asked network) := by
  rcases hrun : checkRun x.world.canceled (remaining deadline x.world.now) with e | _
  · rw [Session.call_of_error hrun, Session.call_of_error hrun]
    exact ⟨rfl, rfl⟩
  · obtain ⟨hworld, hanswer⟩ := h r (remaining deadline x.world.now) x.world
    rw [Session.call_of_ok hrun, Session.call_of_ok hrun]
    unfold Session.exchange Exchange.left Exchange.call
    dsimp only
    rw [hworld]
    refine ⟨rfl, ?_⟩
    -- Classifying a failure does not touch an answer, nor the other way around.
    have hcommute : ∀ {ε : Type} (f : Failure → ε) (a : Except Failure r.Reply),
        (a.mapError f).map (r.asked network) = (a.map (r.asked network)).mapError f := by
      rintro _ _ (_ | _) <;> rfl
    rw [hcommute, hcommute, hanswer]

/-- Against providers that agree on what is asked for, a careful program makes the same calls,
leaves the same world, and ends the same. -/
theorem Careful.run_eq {q : Program α} (hq : q.Careful s network) {p p' : Provider σ}
    (h : p.Agrees network p') (deadline : Option Seconds) (x : Session σ) :
    q.run p deadline x = q.run p' deadline x := by
  induction q generalizing x with
  | done | fail => rfl
  | report e next ih => exact ih hq (x.note e)
  | send r next ih =>
    obtain ⟨hsession, hanswer⟩ := call_agrees h deadline r x
    unfold run
    dsimp only
    rw [hq.next_eq hanswer, hsession]
    exact ih _ (hq.2.2 _) _

end Program

/-! ## The operations -/

namespace Site

variable {s : Site} {network : Option String} {zone : String}

/-- An operation in a zone is as careful as what comes after the zone has been checked. -/
theorem careful_in_zone {p : Program α} (hp : zone ∈ s.zones → p.Careful s network) :
    (s.checkZone zone >>= fun _ => p).Careful s network := by
  unfold checkZone
  rcases h : s.region.checkZone s.balancerZones zone with e | _
  · trivial
  · exact hp (Region.checkZone_eq_ok.1 h)

/-- A change in a zone, of which the answer is what was asked for. -/
theorem careful_change {r : Request} (hr : r.zone? = some zone) (hoffered : r.offered s = s.zones)
    (hall : ∀ a, r.asked network a = a) :
    (s.checkZone zone >>= fun _ => request r).Careful s network :=
  careful_in_zone fun hzone =>
    careful_request (Request.staysIn_of_zone hr (hoffered ▸ hzone)) hall

/-- A look-up in a zone for what the filtered answer comes to. -/
theorem careful_single {r : Request} {next : r.Reply → Except Failure α}
    (hr : r.zone? = some zone) (hoffered : r.offered s = s.zones)
    (hasked : ∀ a, next (r.asked network a) = next a) :
    (s.checkZone zone >>= fun _ => request r >>= fun found => .ofExcept (next found)).Careful s
      network :=
  careful_in_zone fun hzone => careful_lookup (Request.staysIn_of_zone hr (hoffered ▸ hzone))
    (fun a => congrArg Program.ofExcept (hasked a)) fun _ => careful_ofExcept _

/-- Finding a load balancer by its tags is careful. -/
theorem findBalancer_careful {tags : List String} :
    (s.findBalancer zone tags).Careful s network := by
  refine careful_in_zone fun hzone => (careful_ofExcept _).bind fun _ => ?_
  refine careful_lookup (Request.staysIn_of_zone rfl hzone) (fun bs => ?_) fun _ => careful_ofExcept _
  exact congrArg (fun found => Program.ofExcept (single found _)) (filter_twice _ bs)

/-- Finding a flexible address is careful. -/
theorem findAddress_careful {address : String} : (s.findAddress zone address).Careful s network :=
  careful_single rfl rfl fun as => congrArg (single · _) (filter_twice _ as)

/-- Finding a backend is careful. -/
theorem findBackend_careful {balancerId name : String} :
    (s.findBackend zone balancerId name).Careful s network :=
  careful_single rfl rfl fun bs => congrArg (single · _) (filter_twice _ bs)

/-- Finding a frontend is careful. -/
theorem findFrontend_careful {balancerId name : String} :
    (s.findFrontend zone balancerId name).Careful s network :=
  careful_single rfl rfl fun fs => congrArg (single · _) (filter_twice _ fs)

/-- Finding a rule is careful. -/
theorem findRule_careful {frontendId name : String} :
    (s.findRule zone frontendId name).Careful s network :=
  careful_single rfl rfl fun rs => congrArg (single · _) (filter_twice _ rs)

/-- The attachment that is looked for is one to the private network. -/
theorem findAttachment_careful {balancerId networkId : String} :
    (s.findAttachment zone balancerId networkId).Careful s (some networkId) := by
  refine careful_single rfl rfl fun as => congrArg (single · _) ?_
  show (as.filter fun a => decide (some a.networkId = some networkId)).filter _ = _
  simp only [Option.some.injEq, filter_twice]

/-- Listing rules is careful. -/
theorem listRules_careful {frontendId : String} : (s.listRules zone frontendId).Careful s network :=
  careful_change rfl rfl fun _ => rfl

/-- Creating a rule is careful. -/
theorem createRule_careful {frontendId name : String} {index : Int} {action : RuleAction}
    {subnets : List String} :
    (s.createRule zone frontendId name index action subnets).Careful s network :=
  careful_in_zone fun hzone => (careful_ofExcept _).bind fun _ =>
    careful_request (Request.staysIn_of_zone rfl hzone) fun _ => rfl

/-- Updating a rule is careful. -/
theorem updateRule_careful {ruleId name : String} {index : Int} {action : RuleAction}
    {subnets : List String} :
    (s.updateRule zone ruleId name index action subnets).Careful s network :=
  careful_in_zone fun hzone => (careful_ofExcept _).bind fun _ =>
    careful_request (Request.staysIn_of_zone rfl hzone) fun _ => rfl

/-- Listing is careful zone by zone, if the listing of each zone is. -/
theorem inZones_careful {zones : List String} {list : String → Program (List α)} {p : α → Bool}
    (hlist : ∀ zone ∈ zones, ∀ f : List α → Program (List α), (∀ as, f (as.filter p) = f as) →
      (∀ as, (f as).Careful s network) → (list zone >>= f).Careful s network) :
    (inZones zones list p).Careful s network := by
  induction zones with
  | nil => trivial
  | cons zone rest ih =>
    obtain ⟨hzone, hrest⟩ := List.forall_mem_cons.1 hlist
    refine hzone _ (fun as => ?_) fun as => (ih hrest).bind fun _ => trivial
    rw [filter_twice]

/-- Finding load balancers in all zones that offer them is careful. -/
theorem findBalancers_careful {tags : List String} : (s.findBalancers tags).Careful s network :=
  (careful_ofExcept _).bind fun _ => inZones_careful fun _ hzone _ hasked hf =>
    careful_lookup (Request.staysIn_of_zone rfl hzone) hasked hf

/-- Finding gateways in all zones that offer them is careful. -/
theorem findGateways_careful {tags : List String} : (s.findGateways tags).Careful s network :=
  (careful_ofExcept _).bind fun _ => inZones_careful fun _ hzone _ hasked hf =>
    careful_lookup (Request.staysIn_of_zone rfl hzone) hasked hf

/-- Of the addresses of a private network, further conditions may be looked at. -/
theorem filter_and_of_filter (p q : α → Bool) (as : List α) :
    (as.filter p).filter (fun a => p a && q a) = as.filter fun a => p a && q a := by
  rw [List.filter_filter]
  refine List.filter_congr fun a _ => ?_
  rw [Bool.and_right_comm, Bool.and_self]

/-- Listing the available addresses of a private network is careful. -/
theorem availableAddresses_careful {networkId : String} :
    (availableAddresses networkId).Careful s network :=
  careful_lookup nofun (fun as => congrArg done (filter_and_of_filter _ _ as)) fun _ => trivial

/-- Listing the addresses that load balancers hold is careful. -/
theorem heldAddresses_careful {networkId : String} {balancerIds : List String} :
    (heldAddresses networkId balancerIds).Careful s network :=
  careful_lookup nofun (fun as => congrArg done (filter_and_of_filter _ _ as)) fun _ => trivial

end Site

end ControlPlane
