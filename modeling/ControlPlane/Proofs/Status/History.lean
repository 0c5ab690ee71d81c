import Mathlib.Data.List.Induction
import ControlPlane.ControlLoop
import ControlPlane.Proofs.Provider.Exchanges
import ControlPlane.Proofs.Status.Turns
import ControlPlane.Proofs.Topology.Jobs

/-!
# The history of conditions

A status keeps one condition of each type, so what it tells about a type is all that is left of
everything it was told. `ClusterStatus.Recounts` says what that is: the last condition of the type,
since the first of the latest ones in a row that were as true as it is. Setting one more condition
keeps this up (`Recounts.shows`), and so does any sequence of them.

Turns of the control loop tell the status one condition each, `Ready`, at their end, unless a
failure goes to the caller. What holds of conditions set therefore holds of turns that were
completed, as long as no service sets `Ready` itself (`Program.Spares`); the services of a cluster
set no conditions at all. `ClusterStatus.conditions_history` states both. The time of a condition is
carried through any number of replacements, so neither follows from one call alone: both inductions
go from the front of the history to its end, with the latest stretch (`LatestStretch`) as what each
step hands on.
-/

namespace ControlPlane

/-! ## The latest stretch of a list -/

section

variable {α β : Type} {f : α → β} {xs : List α} {first last x : α}

/-- The longest stretch at the end of a list whose elements agree in a property: its first element
and its last. -/
def LatestStretch (f : α → β) (xs : List α) (first last : α) : Prop :=
  ∃ before stretch, xs = before ++ stretch ∧ stretch.head? = some first ∧
    stretch.getLast? = some last ∧ (∀ y ∈ stretch, f y = f last) ∧
    ∀ y, before.getLast? = some y → f y ≠ f last

/-- The latest stretch ends with the list. -/
theorem LatestStretch.getLast? (h : LatestStretch f xs first last) : xs.getLast? = some last := by
  obtain ⟨before, stretch, rfl, -, hlast, -⟩ := h
  rw [List.getLast?_append, hlast]
  rfl

/-- An element that differs from the last one begins a stretch. -/
theorem latestStretch_concat (h : ∀ y, xs.getLast? = some y → f y ≠ f x) :
    LatestStretch f (xs ++ [x]) x x :=
  ⟨xs, [x], rfl, rfl, rfl, fun y hy => by rw [List.mem_singleton.1 hy], h⟩

/-- An element that agrees with the last one goes on with its stretch. -/
theorem LatestStretch.concat (h : LatestStretch f xs first last) (hx : f last = f x) :
    LatestStretch f (xs ++ [x]) first x := by
  obtain ⟨before, stretch, rfl, hfirst, hlast, hsame, hbefore⟩ := h
  refine ⟨before, stretch ++ [x], List.append_assoc .., ?_, List.getLast?_concat, ?_, ?_⟩
  · rw [List.head?_append, hfirst]
    rfl
  · intro y hy
    rcases List.mem_append.1 hy with hy | hy
    · exact (hsame y hy).trans hx
    · rw [List.mem_singleton.1 hy]
  · intro y hy
    rw [← hx]
    exact hbefore y hy

end

/-! ## Conditions that are set one after the other -/

/-- A text at the end adds to the distinct ones of a list if it is not among them. -/
theorem eraseDups_concat (xs : List String) (x : String) :
    (xs ++ [x]).eraseDups = if x ∈ xs then xs.eraseDups else xs.eraseDups ++ [x] := by
  rw [List.eraseDups_append]
  by_cases h : x ∈ xs
  · simp [List.removeAll, h]
  · simp only [List.removeAll, List.elem_eq_mem, h, decide_false, Bool.not_false, if_false,
      List.filter_cons_of_pos, List.filter_nil]
    rfl

namespace Condition

/-- A condition tells of events, each of which makes it true or not at its time: there is none
without events, and else it is as true as the last one made it, since the first of the latest ones
in a row that made it so. -/
def Tells {α : Type} (truth : α → Bool) (time : α → Timestamp) (events : List α)
    (told : Option Condition) : Prop :=
  (events = [] ∧ told = none) ∨ ∃ first last c, LatestStretch truth events first last ∧
    told = some c ∧ c.holds = truth last ∧ c.since = time first

/-- Since when a condition holds, or does not, once it is set for one more event. -/
theorem Tells.since {α : Type} {truth : α → Bool} {time : α → Timestamp} {events : List α} {x : α}
    {old : Option Condition} {condition : Condition} (h : Tells truth time events old)
    (hholds : condition.holds = truth x) (hsince : condition.since = time x) :
    ∃ first, LatestStretch truth (events ++ [x]) first x ∧
      ClusterStatus.sinceAfter old condition = time first := by
  rcases h with ⟨rfl, rfl⟩ | ⟨first, last, c, hstretch, rfl, hc, hctime⟩
  · exact ⟨x, latestStretch_concat nofun, hsince⟩
  · unfold ClusterStatus.sinceAfter
    by_cases hsame : truth last = truth x
    -- The truth is the same, and so is the time since when.
    · refine ⟨first, hstretch.concat hsame, ?_⟩
      dsimp only
      rw [if_pos (by rw [hc, hsame, hholds]), hctime]
    -- The truth has changed, and the time is that of the event.
    · refine ⟨x, latestStretch_concat fun y hy => ?_, ?_⟩
      · rw [hstretch.getLast?] at hy
        rwa [← Option.some.inj hy]
      · dsimp only
        rw [if_neg (by rwa [hc, hholds]), hsince]

end Condition

namespace ClusterStatus

/-- What a status has left of the conditions that it was told in this order: one of each type, by
order of the first of the type; and of each type the last one, since the first of the latest ones in
a row that were as true. -/
structure Recounts (told : List Condition) (s : ClusterStatus) : Prop where
  nodup : (s.conditions.map (·.type)).Nodup
  types : s.conditions.map (·.type) = (told.map (·.type)).eraseDups
  latest : ∀ type, let own := told.filter (·.type = type)
    (own = [] ∧ s.condition? type = none) ∨ ∃ first last, LatestStretch (·.holds) own first last ∧
      s.condition? type = some { last with since := first.since }

variable {s s' : ClusterStatus} {told : List Condition} {condition : Condition}

/-- Of each type, a status has left what tells of the conditions of that type. -/
theorem Recounts.tells (h : s.Recounts told) (type : String) :
    Condition.Tells (·.holds) (·.since) (told.filter (·.type = type)) (s.condition? type) := by
  rcases h.latest type with hnone | ⟨first, last, hstretch, hlast⟩
  · exact .inl hnone
  · exact .inr ⟨first, last, _, hstretch, hlast, rfl, rfl⟩

/-- A status without conditions recounts that nothing was told. -/
theorem recounts_nil (h : s.conditions = []) : s.Recounts [] := by
  refine ⟨by simp [h], by simp [h], fun type => .inl ⟨rfl, ?_⟩⟩
  unfold condition?
  rw [h]
  rfl

/-- Setting a condition leaves the conditions of other types. -/
theorem Shows.condition?_of_ne (h : s.Shows condition s') {type : String}
    (hne : type ≠ condition.type) : s'.condition? type = s.condition? type := by
  have hfind : ∀ cs : List Condition, cs.find? (·.type = type) =
      (cs.filter (·.type ≠ condition.type)).find? (·.type = type) := by
    intro cs
    rw [List.find?_filter]
    congr 1
    funext c
    by_cases hc : c.type = type
    · simp [hc, hne]
    · simp [hc]
  unfold condition?
  rw [hfind, h.others, ← hfind]

/-- What a status tells of a type once a condition of that type is set. -/
theorem Shows.latest (h : s.Shows condition s') (hs : s.Recounts told) :
    ∃ first, LatestStretch (·.holds) (told.filter (·.type = condition.type) ++ [condition])
        first condition ∧
      s'.condition? condition.type = some { condition with since := first.since } := by
  obtain ⟨first, hstretch, hsince⟩ := (hs.tells condition.type).since (x := condition) rfl rfl
  refine ⟨first, hstretch, ?_⟩
  rw [h.current, hsince]

/-- A status that recounts what it was told recounts one more condition once it is set. -/
theorem Recounts.shows (hs : s.Recounts told) (h : s.Shows condition s') :
    s'.Recounts (told ++ [condition]) := by
  have hmem : condition.type ∈ s.conditions.map (·.type) ↔ condition.type ∈ told.map (·.type) := by
    rw [hs.types, List.mem_eraseDups]
  constructor
  · -- Types stay distinct: the condition replaces the one of its type, or is the first of it.
    rw [h.types]
    split
    · exact hs.nodup
    · next hnew =>
      rw [List.nodup_append]
      refine ⟨hs.nodup, List.nodup_singleton _, fun t ht t' ht' heq => hnew ?_⟩
      rwa [← List.mem_singleton.1 ht', ← heq]
  · -- They stay in the order in which they were first told.
    rw [h.types, List.map_append, List.map_singleton, eraseDups_concat, ← hs.types]
    simp only [hmem]
  · intro type
    dsimp only
    rw [List.filter_append]
    -- Only the latest condition of its own type changes.
    by_cases htype : type = condition.type
    · subst htype
      obtain ⟨first, hstretch, hcurrent⟩ := h.latest hs
      have hown : [condition].filter (·.type = condition.type) = [condition] := by simp
      rw [hown]
      exact .inr ⟨first, condition, hstretch, hcurrent⟩
    · rw [List.filter_cons_of_neg (by simpa using Ne.symm htype), List.filter_nil, List.append_nil,
        h.condition?_of_ne htype]
      exact hs.latest type

/-- Whatever conditions are set, one after the other, the status recounts them. -/
theorem recounts_foldl (h : s.conditions = []) (calls : List Condition) :
    (calls.foldl setCondition s).Recounts calls := by
  induction calls using List.reverseRecOn with
  | nil => exact recounts_nil h
  | append_singleton calls condition ih =>
    rw [List.foldl_concat]
    exact ih.shows (setCondition_shows _ condition)

end ClusterStatus

/-! ## Programs that leave a condition to others -/

namespace Program

variable {σ α β : Type} {type : String}

/-- Whatever is answered, the program reports no condition of the type. -/
def Spares (type : String) : Program α → Prop
  | done _ => True
  | fail _ => True
  | send _ next => ∀ answer, (next answer).Spares type
  | report (.condition t _ _ _) next => t ≠ type ∧ next.Spares type
  | report _ next => next.Spares type

/-- A check reports nothing. -/
theorem spares_ofExcept (r : Except Failure α) : (Program.ofExcept r).Spares type := by
  cases r <;> trivial

/-- One program after another spares a type if both do. -/
theorem Spares.bind {q : Program α} {f : α → Program β} (hq : q.Spares type)
    (hf : ∀ a, (f a).Spares type) : (q >>= f).Spares type := by
  induction q with
  | done a => exact hf a
  | fail e => trivial
  | send r next ih => exact fun answer => ih answer (hq answer)
  | report e next ih =>
    cases e with
    | condition => exact ⟨hq.1, ih hq.2⟩
    | log | address | secondaryAddresses => exact ih hq

/-- An orderly program reports no conditions at all. -/
theorem Orderly.spares {allowed : Request → Prop} {q : Program α} (hq : q.Orderly allowed) :
    q.Spares type := by
  induction q with
  | done | fail => trivial
  | send r next ih => exact fun answer => ih answer (hq.2.2 answer)
  | report e next ih =>
    cases e with
    | log => exact ih hq
    | address | secondaryAddresses | condition => exact hq.elim

/-- A run leaves the condition that its program spares, with any provider. -/
theorem Spares.run {q : Program α} (hq : q.Spares type) (p : Provider σ)
    (deadline : Option Seconds) (x : Session σ) :
    (q.run p deadline x).2.status.condition? type = x.status.condition? type := by
  induction q generalizing x with
  | done | fail => rfl
  | send r next ih =>
    exact (ih _ (hq _) _).trans (congrArg (·.condition? type) (call_status r))
  | report e next ih =>
    cases e with
    | condition t holds reason message =>
      refine (ih hq.2 _).trans ?_
      -- The condition that is told has another type.
      have hshows := x.status.setCondition_shows
        ⟨t, holds, reason, message, .ofSeconds x.world.now⟩
      exact hshows.condition?_of_ne (Ne.symm hq.1)
    | log | address | secondaryAddresses => exact ih hq _

end Program

/-- The services of a cluster set no conditions. -/
theorem Scope.services_spare (s : Scope) (action : Action) (type : String) :
    ∀ service ∈ s.services, (service.act action).Spares type := by
  intro service hservice
  obtain rfl := List.mem_singleton.1 hservice
  cases action with
  | reconcile =>
    show (Topology.reconcile s).Spares type
    rw [Topology.reconcile_eq]
    refine Topology.arrange_orderly.spares.bind fun _ => ?_
    refine (Program.spares_ofExcept _).bind fun _ => ?_
    exact (Program.spares_ofExcept _).bind fun _ => trivial
  | delete => exact Topology.delete_orderly.spares

/-! ## Turns on one status -/

namespace Tick

variable {σ : Type}

/-- A turn in its circumstances. Nothing is said of those, so that anything may have happened since
the turn before. -/
structure Turn (σ : Type) where
  action : Action
  services : List Service
  provider : Provider σ
  deadline : Option Seconds
  start : Session σ

/-- The session that a turn starts in on a status. -/
def Turn.session (t : Turn σ) (s : ClusterStatus) : Session σ := { t.start with status := s }

/-- What a turn comes to on a status. -/
def Turn.run (t : Turn σ) (s : ClusterStatus) : Except Failure Outcome × Session σ :=
  (Tick.run t.action t.services).run t.provider t.deadline (t.session s)

/-- No service sets `Ready` itself. -/
def Turn.LeavesReady (t : Turn σ) : Prop :=
  ∀ service ∈ t.services, (service.act t.action).Spares readyType

/-- A turn that came to an outcome, and the instant of its end. -/
structure Completion where
  outcome : Outcome
  time : Timestamp

/-- Whether the cluster is ready by a turn. -/
def Completion.isReady (k : Completion) : Bool := k.outcome = .succeeded

/-- Turns one after the other on one status: those that were completed, and the status in the end. A
turn whose failure goes to the caller is none of them. -/
def inTurn : List (Turn σ) → ClusterStatus → List Completion × ClusterStatus
  | [], s => ([], s)
  | t :: rest, s =>
    let (result, x) := t.run s
    let (more, s') := inTurn rest x.status
    match result with
    | .ok outcome => (⟨outcome, .ofSeconds x.world.now⟩ :: more, s')
    | .error _ => (more, s')

variable {p : Provider σ} {deadline : Option Seconds} {action : Action} {services : List Service}
  {x y : Session σ} {done : List Completion} {s : ClusterStatus} {t : Turn σ}

/-- Services that spare `Ready` leave the condition as it was before they were run. -/
theorem Serves.condition? (h : Serves p deadline action services x y)
    (hspares : ∀ service ∈ services, (service.act action).Spares readyType) :
    y.status.condition? readyType = x.status.condition? readyType := by
  induction h with
  | nil => rfl
  | @cons service rest x y z hact _ ih =>
    obtain ⟨hfirst, hrest⟩ := List.forall_mem_cons.1 hspares
    have hstatus := hfirst.run p deadline x
    rw [hact] at hstatus
    exact (ih hrest).trans hstatus

/-- What a session declares is told in its status, since when by what was told before. -/
theorem declared_ready {old : Option Condition} {lines : List (LogLevel × String)} {holds : Bool}
    {reason message : String} (hold : x.status.condition? readyType = old)
    (h : x.Declares lines holds reason message y) :
    ∃ condition : Condition, condition.holds = holds ∧ condition.since = .ofSeconds y.world.now ∧
      y.status.condition? readyType =
        some { condition with since := ClusterStatus.sinceAfter old condition } := by
  refine ⟨⟨readyType, holds, reason, message, .ofSeconds x.world.now⟩, rfl, ?_, ?_⟩
  · rw [h.world]
  · have hcurrent := h.status.current
    rw [hold] at hcurrent
    exact hcurrent

/-- Services that leave `Ready` to the turn: it is set at the end if the turn comes to an outcome,
and left if a failure goes to the caller. -/
theorem runServices_ready (hspares : ∀ service ∈ services, (service.act action).Spares readyType)
    (p : Provider σ) (deadline : Option Seconds) (x : Session σ) :
    let old := x.status.condition? readyType
    match (runServices action services).run p deadline x with
    | (.error _, y) => y.status.condition? readyType = old
    | (.ok outcome, y) => ∃ condition : Condition,
        condition.holds = decide (outcome = .succeeded) ∧
        condition.since = .ofSeconds y.world.now ∧
        y.status.condition? readyType =
          some { condition with since := ClusterStatus.sinceAfter old condition } := by
  intro old
  rcases serves_or_fails p deadline action services x with
    ⟨y, hserves⟩ | ⟨before, service, after, y, e, z, rfl, hserves, hfails⟩
  -- All services act with success.
  · have hrun : (runServices action services).run p deadline x =
        (.ok .succeeded, y.note (.condition readyType true "" "")) := by
      rw [← List.append_nil services, runServices_of_serves hserves]
      rfl
    rw [hrun]
    exact declared_ready (hserves.condition? hspares) (y.declares_note true "" "")
  -- The first that fails decides, and up to its failure `Ready` is as it was.
  · rw [runServices_of_serves hserves, runServices_cons, hfails]
    have hold : z.status.condition? readyType = old := by
      have hbefore := hserves.condition? fun v hv => hspares v (List.mem_append_left _ hv)
      have hservice := (hspares service List.mem_append_cons_self).run p deadline y
      rw [hfails] at hservice
      exact hservice.trans hbefore
    have hverdict := conclude_verdict p deadline action service.name e z
    dsimp only
    rcases hend : (conclude action service.name e).run p deadline z with ⟨result, x'⟩
    rw [hend] at hverdict
    dsimp only at hverdict
    cases hverdict with
    | terminal _ hdeclares => exact declared_ready hold hdeclares
    | retry _ hdeclares => exact declared_ready hold hdeclares
    | propagates _ => exact hold

/-- A turn lets its services act one after the other, in one order or the other. -/
theorem Turn.run_eq (t : Turn σ) (s : ClusterStatus) :
    ∃ order, (∀ service ∈ order, service ∈ t.services) ∧
      t.run s = (runServices t.action order).run t.provider t.deadline (t.session s) := by
  obtain ⟨action, services, p, deadline, start⟩ := t
  cases action with
  | reconcile => exact ⟨services, fun _ h => h, rfl⟩
  | delete => exact ⟨services.reverse, fun _ => List.mem_reverse.1, rfl⟩

/-- One more turn on a status that tells of the completed ones. -/
theorem Turn.tells (t : Turn σ) (h : t.LeavesReady)
    (hs : Condition.Tells Completion.isReady Completion.time done (s.condition? readyType)) :
    match t.run s with
    | (.error _, y) =>
      Condition.Tells Completion.isReady Completion.time done (y.status.condition? readyType)
    | (.ok outcome, y) => Condition.Tells Completion.isReady Completion.time
        (done ++ [⟨outcome, .ofSeconds y.world.now⟩]) (y.status.condition? readyType) := by
  obtain ⟨order, horder, hrun⟩ := t.run_eq s
  have hready := runServices_ready (fun service hservice => h service (horder service hservice))
    t.provider t.deadline (t.session s)
  rw [← hrun] at hready
  revert hready
  rcases t.run s with ⟨e | outcome, y⟩ <;> intro hready
  -- The failure goes to the caller, and `Ready` is as it was.
  · dsimp only at hready ⊢
    rwa [hready]
  -- The turn is completed, and tells the status so.
  · obtain ⟨condition, hholds, htime, hcurrent⟩ := hready
    obtain ⟨first, hstretch, hsince⟩ :=
      hs.since (x := (⟨outcome, .ofSeconds y.world.now⟩ : Completion)) hholds htime
    exact .inr ⟨first, _, _, hstretch, hcurrent, hholds, hsince⟩

/-- Whatever turns go over a status, it tells of those that were completed. -/
theorem inTurn_tells (turns : List (Turn σ)) (h : ∀ t ∈ turns, t.LeavesReady)
    (hs : Condition.Tells Completion.isReady Completion.time done (s.condition? readyType)) :
    Condition.Tells Completion.isReady Completion.time (done ++ (inTurn turns s).1)
      ((inTurn turns s).2.condition? readyType) := by
  induction turns generalizing done s with
  | nil => simpa only [inTurn, List.append_nil] using hs
  | cons t rest ih =>
    obtain ⟨ht, hrest⟩ := List.forall_mem_cons.1 h
    have hturn := t.tells ht hs
    unfold inTurn
    -- A turn that fails adds no completion.
    rcases hrun : t.run s with ⟨e | outcome, y⟩
    · rw [hrun] at hturn
      exact ih hrest hturn
    · rw [hrun] at hturn
      have hmore := ih hrest hturn
      rwa [List.append_assoc] at hmore

end Tick

/-- The history of conditions. On a status that starts without any, whatever conditions are set, one
after the other: there is one of each type, by order of the first of the type, with what the last
one of the type said, since the first of the latest ones in a row that were as true. And whatever
turns of the control loop go over such a status, `Ready` holds or does not as the last turn that was
completed came out, since the end of the first of the latest completed ones in a row that came out
the same; turns whose failure went to the caller do not count. Services must not set `Ready`
themselves for that, and those of a cluster set no conditions at all. -/
theorem ClusterStatus.conditions_history {start : ClusterStatus} (h : start.conditions = []) :
    (∀ calls : List Condition, (calls.foldl setCondition start).Recounts calls) ∧
    (∀ {σ : Type} (turns : List (Tick.Turn σ)), (∀ t ∈ turns, t.LeavesReady) →
      Condition.Tells Tick.Completion.isReady Tick.Completion.time (Tick.inTurn turns start).1
        ((Tick.inTurn turns start).2.condition? Tick.readyType)) ∧
    ∀ (s : Scope) (action : Action) (type : String), ∀ service ∈ s.services,
      (service.act action).Spares type := by
  refine ⟨recounts_foldl h, fun turns hturns => ?_, Scope.services_spare⟩
  have hstart : start.condition? Tick.readyType = none := by
    simp [condition?, h]
  rw [← List.nil_append (Tick.inTurn turns start).1]
  exact Tick.inTurn_tells turns hturns (.inl ⟨rfl, hstart⟩)

namespace Sample

/-- A turn at an instant of one service, which comes to an end without a request. -/
def brief (instant : Seconds) (result : Except Failure Unit) : Tick.Turn Unit where
  action := .reconcile
  services := [⟨"dns", .ofExcept result, .ofExcept result⟩]
  provider := { answer := fun _ _ w => (raise (.terminal .canceled), w) }
  deadline := none
  start := { world := { store := (), now := instant, canceled := false } }

/-- The service of a brief turn does not set `Ready`. -/
theorem brief_leavesReady (instant : Seconds) (result : Except Failure Unit) :
    (brief instant result).LeavesReady := by
  intro service hservice
  obtain rfl := List.mem_singleton.1 hservice
  exact Program.spares_ofExcept result

/-- Two turns that go well with a crash in between, and one that does not. -/
def week : List (Tick.Turn Unit) :=
  [brief 1 (.ok ()), brief 2 (raise ⟨.crashed, .canceled⟩), brief 3 (.ok ()),
    brief 4 (raise (.terminal .canceled))]

/-- Conditions of two types in turn. One of them changes its truth. -/
def announcements : List Condition :=
  [⟨"Ready", true, "", "", ⟨1⟩⟩, ⟨"Paused", false, "", "", ⟨2⟩⟩, ⟨"Ready", true, "Again", "", ⟨3⟩⟩,
    ⟨"Paused", true, "", "", ⟨4⟩⟩]

end Sample

/-- `Ready` is told twice and keeps its time, while `Paused` changes. In turns it keeps its time
over a crash, and changes with the failure at the end. -/
theorem ClusterStatus.sample_conditions_history :
    (Sample.announcements.foldl setCondition {}).Recounts Sample.announcements ∧
    (Sample.announcements.foldl setCondition {}).conditions =
      [⟨"Ready", true, "Again", "", ⟨1⟩⟩, ⟨"Paused", true, "", "", ⟨4⟩⟩] ∧
    Condition.Tells Tick.Completion.isReady Tick.Completion.time
      [⟨.succeeded, .ofSeconds 1⟩, ⟨.succeeded, .ofSeconds 3⟩, ⟨.terminal, .ofSeconds 4⟩]
      ((Tick.inTurn Sample.week {}).2.condition? Tick.readyType) ∧
    ((Tick.inTurn (Sample.week.take 3) {}).2.condition? Tick.readyType).map (·.since) =
      some (.ofSeconds 1) := by
  obtain ⟨hcalls, hturns, -⟩ := @conditions_history {} rfl
  have hweek := hturns Sample.week (by
    simp only [Sample.week, List.mem_cons, List.not_mem_nil, or_false]
    rintro t (rfl | rfl | rfl | rfl) <;> exact Sample.brief_leavesReady _ _)
  have hdone : (Tick.inTurn Sample.week {}).1 =
      [⟨.succeeded, .ofSeconds 1⟩, ⟨.succeeded, .ofSeconds 3⟩, ⟨.terminal, .ofSeconds 4⟩] := rfl
  rw [hdone] at hweek
  exact ⟨hcalls _, by decide, hweek, by decide +kernel⟩

end ControlPlane
