import Mathlib.Data.List.Chain
import Mathlib.Data.List.Find
import Mathlib.Data.List.Perm.Subperm
import Mathlib.Logic.Relation
import ControlPlane.Failure

/-!
# The trail of a failure

The links of a failure may run in circles, so its chain is found with the places in mind that have
been passed. A walk has few steps left only if it has passed many places (`Ample`), and so what ends
it is never the number of its steps: it ends at a place without a successor, or with one that it has
passed. The places it goes through are the one list of that kind (`IsTrail`, `isTrail_places`,
`IsTrail.eq_places`).

A graph may hold another one, moved up by a number of places (`Holds`). A walk that begins within
the inner graph does not leave it. So the chain of a failure that was raised from another one is its
own fault and then the chain of the other (`RaisedFrom`, `chain_of_raisedFrom`). A failed call that
is raised from a failure is neither a condition nor a disposition, and any number of them hide
nothing of what the failure comes down to (`chain_goes_once_around`).
-/

namespace ControlPlane

/-! ## Successors -/

namespace Link

variable {l : Link} {j : Nat}

/-- The fault that comes after one is its cause, or if it has none, the context unless it is
suppressed. -/
def LeadsTo (l : Link) (j : Nat) : Prop :=
  l.cause = some j ∨ l.cause = none ∧ l.suppressed = false ∧ l.context = some j

/-- The successor of a fault is the one that it leads to. -/
theorem next?_eq_some_iff : l.next? = some j ↔ l.LeadsTo j := by
  obtain ⟨fault, cause, context, suppressed⟩ := l
  cases cause <;> cases suppressed <;> simp [next?, LeadsTo]

/-- Moving a graph up moves the successors with it. -/
theorem next?_shift (l : Link) (k : Nat) : (l.shift k).next? = l.next?.map (· + k) := by
  obtain ⟨fault, cause, context, suppressed⟩ := l
  cases cause <;> cases suppressed <;> rfl

end Link

namespace Failure

variable {links inner : List Link} {steps k : Nat} {seen : List Nat} {next : Option Nat} {i j : Nat}

/-- A place of a graph comes directly after another one. -/
def Follows (links : List Link) (i j : Nat) : Prop := ∃ l, links[i]? = some l ∧ l.LeadsTo j

/-- A place follows another if it is the successor of the fault there. -/
theorem follows_iff : Follows links i j ↔ links[i]?.bind Link.next? = some j := by
  simp only [Follows, Option.bind_eq_some_iff, Link.next?_eq_some_iff]

/-- The successor of a link that stays within a graph is within it. -/
theorem lt_of_next? (hlinks : ∀ l ∈ links, l.Within links.length)
    (h : links[i]?.bind Link.next? = some j) : j < links.length := by
  obtain ⟨l, hl, hnext⟩ := Option.bind_eq_some_iff.1 h
  have hwithin := hlinks l (List.mem_of_getElem? hl)
  rcases Link.next?_eq_some_iff.1 hnext with hcause | ⟨-, -, hcontext⟩
  · exact hwithin.1 j hcause
  · exact hwithin.2 j hcontext

/-! ## Walks -/

/-- The walk passes a place that it has not passed, and goes on from there. -/
theorem walk_of_not_mem (h : i ∉ seen) :
    walk links (steps + 1) seen (some i) =
      i :: walk links steps (i :: seen) (links[i]?.bind Link.next?) :=
  if_neg h

/-- The walk ends at a place that it has passed. -/
theorem walk_of_mem (h : i ∈ seen) : walk links steps seen (some i) = [] := by
  cases steps with
  | zero => rfl
  | succ steps => exact if_pos h

/-- The walk ends where nothing follows. -/
theorem walk_none : walk links steps seen none = [] := by
  cases steps <;> rfl

/-- A walk begins where it is told to, if it goes anywhere. -/
theorem next_of_head?_walk (h : (walk links steps seen next).head? = some i) : next = some i := by
  cases steps with
  | zero => cases h
  | succ steps =>
    cases next with
    | none => cases h
    | some i' =>
      by_cases hmem : i' ∈ seen
      · rw [walk_of_mem hmem] at h
        cases h
      · rw [walk_of_not_mem hmem] at h
        exact h

/-- A walk from within a graph stays within it. -/
theorem lt_of_mem_walk (hlinks : ∀ l ∈ links, l.Within links.length)
    (hnext : ∀ i ∈ next, i < links.length) : ∀ i ∈ walk links steps seen next, i < links.length := by
  induction steps generalizing seen next with
  | zero => exact nofun
  | succ steps ih =>
    cases next with
    | none => exact nofun
    | some i =>
      by_cases hmem : i ∈ seen
      · rw [walk_of_mem hmem]
        exact nofun
      · rw [walk_of_not_mem hmem]
        exact List.forall_mem_cons.2 ⟨hnext i rfl, ih fun j hj => lt_of_next? hlinks hj⟩

/-- A walk goes through no place that has been passed, and through none twice. -/
theorem nodup_walk : (∀ i ∈ walk links steps seen next, i ∉ seen) ∧
    (walk links steps seen next).Nodup := by
  induction steps generalizing seen next with
  | zero => exact ⟨nofun, List.nodup_nil⟩
  | succ steps ih =>
    cases next with
    | none => exact ⟨nofun, List.nodup_nil⟩
    | some i =>
      by_cases hmem : i ∈ seen
      · rw [walk_of_mem hmem]
        exact ⟨nofun, List.nodup_nil⟩
      · rw [walk_of_not_mem hmem]
        -- What comes after a place is new to the places before it, and to that place itself.
        obtain ⟨hfresh, hnodup⟩ := @ih (i :: seen) (links[i]?.bind Link.next?)
        refine ⟨List.forall_mem_cons.2 ⟨hmem, fun j hj hseen => ?_⟩, ?_⟩
        · exact hfresh j hj (List.mem_cons_of_mem i hseen)
        · exact List.nodup_cons.2 ⟨fun hi => hfresh i hi List.mem_cons_self, hnodup⟩

/-- Each place of a walk is the successor of the one before. -/
theorem isChain_walk : (walk links steps seen next).IsChain (Follows links) := by
  induction steps generalizing seen next with
  | zero => exact List.isChain_nil
  | succ steps ih =>
    cases next with
    | none => exact List.isChain_nil
    | some i =>
      by_cases hmem : i ∈ seen
      · rw [walk_of_mem hmem]
        exact List.isChain_nil
      · rw [walk_of_not_mem hmem]
        exact List.isChain_cons.2 ⟨fun j hj => follows_iff.2 (next_of_head?_walk hj), ih⟩

/-! ## The number of steps -/

/-- There are as many steps as places of the graph that have not been passed, or more. -/
structure Ample (links : List Link) (seen : List Nat) (steps : Nat) : Prop where
  nodup : seen.Nodup
  within : ∀ i ∈ seen, i < links.length
  enough : links.length ≤ seen.length + steps

/-- At first, as many steps are ample as the graph has places. -/
theorem ample_of_length_le (h : links.length ≤ steps) : Ample links [] steps :=
  ⟨List.nodup_nil, nofun, by simpa using h⟩

/-- One step more passes one place more. -/
theorem Ample.cons (h : Ample links seen (steps + 1)) (hi : i < links.length) (hmem : i ∉ seen) :
    Ample links (i :: seen) steps where
  nodup := List.nodup_cons.2 ⟨hmem, h.nodup⟩
  within := List.forall_mem_cons.2 ⟨hi, h.within⟩
  enough := by
    have := h.enough
    rw [List.length_cons]
    omega

/-- Without any steps left, all places have been passed. -/
theorem Ample.mem_of_zero (h : Ample links seen 0) (hi : i < links.length) : i ∈ seen := by
  by_contra hmem
  have hsub : i :: seen ⊆ List.range links.length :=
    List.cons_subset.2 ⟨List.mem_range.2 hi, fun j hj => List.mem_range.2 (h.within j hj)⟩
  have hle := ((List.nodup_cons.2 ⟨hmem, h.nodup⟩).subperm hsub).length_le
  have henough := h.enough
  rw [List.length_cons, List.length_range] at hle
  omega

/-- What comes after a place of a walk with ample steps has been passed, or is on the walk. -/
theorem mem_of_follows_walk (hlinks : ∀ l ∈ links, l.Within links.length)
    (h : Ample links seen steps) (hnext : ∀ i ∈ next, i < links.length) :
    (∀ j ∈ next, j ∈ seen ∨ j ∈ walk links steps seen next) ∧
    ∀ i ∈ walk links steps seen next, ∀ j, Follows links i j →
      j ∈ seen ∨ j ∈ walk links steps seen next := by
  induction steps generalizing seen next with
  | zero => exact ⟨fun j hj => .inl (h.mem_of_zero (hnext j hj)), nofun⟩
  | succ steps ih =>
    cases next with
    | none => exact ⟨nofun, nofun⟩
    | some i =>
      have hi := hnext i rfl
      by_cases hmem : i ∈ seen
      · rw [walk_of_mem hmem]
        refine ⟨fun j hj => ?_, nofun⟩
        rw [← Option.some.inj hj]
        exact .inl hmem
      · rw [walk_of_not_mem hmem]
        obtain ⟨hstart, hrest⟩ := ih (h.cons hi hmem) fun j hj => lt_of_next? hlinks hj
        -- What the rest of the walk has passed is what this one has, and where it begins.
        have hpassed : ∀ j, j ∈ i :: seen ∨
              j ∈ walk links steps (i :: seen) (links[i]?.bind Link.next?) →
            j ∈ seen ∨ j ∈ i :: walk links steps (i :: seen) (links[i]?.bind Link.next?) := by
          intro j hj
          simp only [List.mem_cons] at hj ⊢
          tauto
        refine ⟨fun j hj => .inr ?_, ?_⟩
        · rw [← Option.some.inj hj]
          exact List.mem_cons_self
        · refine List.forall_mem_cons.2 ⟨fun j hj => ?_, fun i' hi' j hj => ?_⟩
          · exact hpassed j (hstart j (follows_iff.1 hj))
          · exact hpassed j (hrest i' hi' j hj)

/-- Places that follow one another, of which none has been passed or comes twice, up to one without
a new successor, are what a walk with ample steps goes through. -/
theorem walk_eq_of_isChain {rest : List Nat} (h : Ample links seen steps)
    (hwithin : ∀ j ∈ i :: rest, j < links.length) (hfresh : ∀ j ∈ i :: rest, j ∉ seen)
    (hnodup : (i :: rest).Nodup) (hchain : (i :: rest).IsChain (Follows links))
    (hends : ∀ last ∈ (i :: rest).getLast?, ∀ j, Follows links last j → j ∈ seen ∨ j ∈ i :: rest) :
    walk links steps seen (some i) = i :: rest := by
  -- By the trail: its first place is fresh, so there is a step left for it, and the walk goes on
  -- with the place behind it among those passed.
  induction rest generalizing i seen steps with
  | nil =>
    have hi := hwithin i List.mem_cons_self
    have hmem := hfresh i List.mem_cons_self
    cases steps with
    | zero => exact absurd (h.mem_of_zero hi) hmem
    | succ steps =>
      rw [walk_of_not_mem hmem]
      cases hnext : links[i]?.bind Link.next? with
      | none => rw [walk_none]
      | some j =>
        -- At the end of the trail a successor has been passed, and the walk stops at it.
        have hj : j ∈ i :: seen := by
          rcases hends i rfl j (follows_iff.2 hnext) with hj | hj
          · exact List.mem_cons_of_mem i hj
          · exact List.mem_singleton.1 hj ▸ List.mem_cons_self
        rw [walk_of_mem hj]
  | cons j rest ih =>
    obtain ⟨hi, hrest⟩ := List.forall_mem_cons.1 hwithin
    obtain ⟨hmem, hfresh⟩ := List.forall_mem_cons.1 hfresh
    obtain ⟨hnot, hnodup⟩ := List.nodup_cons.1 hnodup
    obtain ⟨hfollows, hchain⟩ := List.isChain_cons_cons.1 hchain
    cases steps with
    | zero => exact absurd (h.mem_of_zero hi) hmem
    | succ steps =>
      have hfresh' : ∀ x ∈ j :: rest, x ∉ i :: seen := by
        intro x hx hseen
        rcases List.mem_cons.1 hseen with rfl | hseen
        · exact hnot hx
        · exact hfresh x hx hseen
      rw [walk_of_not_mem hmem, follows_iff.1 hfollows]
      refine congrArg (i :: ·) (ih (h.cons hi hmem) hrest hfresh' hnodup hchain ?_)
      intro last hlast x hx
      have hx' := hends last (List.getLast?_cons_cons.trans hlast) x hx
      simp only [List.mem_cons] at hx' ⊢
      tauto

/-! ## Trails -/

/-- A list of places of a failure begins with the fault that was raised, goes from each place to its
successor and through none twice. It ends at a place without a successor, or with one that is on the
list already. -/
structure IsTrail (f : Failure) (places : List Nat) : Prop where
  head : places.head? = some f.head
  nodup : places.Nodup
  isChain : places.IsChain (Follows f.links)
  ends : ∀ last ∈ places.getLast?, ∀ j, Follows f.links last j → j ∈ places

/-- The walk passes places of the graph only. -/
theorem lt_of_mem_places {f : Failure} (h : i ∈ f.places) : i < f.links.length :=
  lt_of_mem_walk f.within (fun _ hj => Option.some.inj hj ▸ f.head_lt) i h

/-- The places that the walk passes are a trail. -/
theorem isTrail_places (f : Failure) : f.IsTrail f.places where
  head := by
    obtain ⟨n, hn⟩ := Nat.exists_eq_succ_of_ne_zero (Nat.ne_zero_of_lt f.head_lt)
    unfold places
    rw [hn, walk_of_not_mem List.not_mem_nil]
    rfl
  nodup := nodup_walk.2
  isChain := isChain_walk
  ends := by
    intro last hlast j hj
    have hnext : ∀ i ∈ some f.head, i < f.links.length := fun _ hi => Option.some.inj hi ▸ f.head_lt
    have hclosed := (mem_of_follows_walk f.within (ample_of_length_le le_rfl) hnext).2
    exact (hclosed last (List.mem_of_getLast? hlast) j hj).resolve_left List.not_mem_nil

/-- A place that comes after another one is one of the graph. -/
theorem lt_of_follows (hlinks : ∀ l ∈ links, l.Within links.length) (h : Follows links i j) :
    j < links.length :=
  lt_of_next? hlinks (follows_iff.1 h)

/-- However many steps a walk may take, if there is one for each fault it goes along a trail. -/
theorem IsTrail.walk_eq {f : Failure} {places : List Nat} (h : f.IsTrail places)
    (hsteps : f.links.length ≤ steps) : walk f.links steps [] (some f.head) = places := by
  obtain ⟨hhead, hnodup, hchain, hends⟩ := h
  cases places with
  | nil => cases hhead
  | cons i rest =>
    cases hhead
    have hwithin : ∀ j ∈ f.head :: rest, j < f.links.length :=
      hchain.induction (· < f.links.length) _ (fun _ _ h _ => lt_of_follows f.within h)
        fun _ => f.head_lt
    exact walk_eq_of_isChain (ample_of_length_le hsteps) hwithin (fun _ _ => List.not_mem_nil) hnodup
      hchain fun last hlast j hj => .inr (hends last hlast j hj)

/-- A failure has one trail. -/
theorem IsTrail.eq_places {f : Failure} {places : List Nat} (h : f.IsTrail places) :
    places = f.places :=
  (h.walk_eq le_rfl).symm

/-- The chain has the fault of each place. -/
theorem map_some_chain (f : Failure) :
    f.chain.map some = f.places.map fun i => f.links[i]?.map Link.fault := by
  unfold chain
  rw [List.map_filterMap_some_eq_filter_map_isSome, List.filter_eq_self]
  intro fault hfault
  obtain ⟨i, hi, rfl⟩ := List.mem_map.1 hfault
  rw [Option.isSome_map, List.getElem?_eq_getElem (lt_of_mem_places hi)]
  rfl

/-! ## Graphs within graphs -/

/-- A graph holds another one, moved up by a number of places. -/
def Holds (links inner : List Link) (k : Nat) : Prop :=
  ∀ i < inner.length, links[i + k]? = inner[i]?.map (·.shift k)

/-- A graph is at least as long as one that it holds, where that lies. -/
theorem Holds.length_le (h : Holds links inner k) (hinner : 0 < inner.length) :
    inner.length + k ≤ links.length := by
  have hlast := h (inner.length - 1) (by omega)
  rw [List.getElem?_eq_getElem (by omega : inner.length - 1 < inner.length)] at hlast
  have := (List.getElem?_eq_some_iff.1 hlast).1
  omega

/-- Within a graph that is held, successors are the same, moved up. -/
theorem Holds.next? (h : Holds links inner k) (hi : i < inner.length) :
    links[i + k]?.bind Link.next? = (inner[i]?.bind Link.next?).map (· + k) := by
  rw [h i hi, List.getElem?_eq_getElem hi]
  exact Link.next?_shift _ k

/-- Within a graph that is held, faults are the same, moved up. -/
theorem Holds.fault (h : Holds links inner k) (hi : i < inner.length) :
    links[i + k]?.map Link.fault = inner[i]?.map Link.fault := by
  rw [h i hi, List.getElem?_eq_getElem hi]
  rfl

/-- A walk within a graph is the same where the graph is held by another one. -/
theorem Holds.walk_eq (h : Holds links inner k) (hinner : ∀ l ∈ inner, l.Within inner.length)
    {seen' : List Nat} (hseen : ∀ i < inner.length, i + k ∈ seen' ↔ i ∈ seen)
    (hnext : ∀ i ∈ next, i < inner.length) :
    walk links steps seen' (next.map (· + k)) = (walk inner steps seen next).map (· + k) := by
  induction steps generalizing seen seen' next with
  | zero => rfl
  | succ steps ih =>
    cases next with
    | none => rfl
    | some i =>
      have hi : i < inner.length := hnext i rfl
      rw [Option.map_some]
      -- Both walks stop at the same place, or pass it.
      by_cases hmem : i ∈ seen
      · rw [walk_of_mem hmem, walk_of_mem ((hseen i hi).2 hmem)]
        rfl
      · rw [walk_of_not_mem hmem, walk_of_not_mem fun h => hmem ((hseen i hi).1 h), List.map_cons,
          h.next? hi]
        refine congrArg ((i + k) :: ·) (ih (fun j hj => ?_) fun j hj => lt_of_next? hinner hj)
        rw [List.mem_cons, List.mem_cons, hseen j hj, Nat.add_right_cancel_iff]

variable {w e : Failure}

/-- A failure that is seen within a larger graph has the same places, moved up. -/
theorem places_of_holds (h : Holds w.links e.links k) (hhead : w.head = e.head + k) :
    w.places = e.places.map (· + k) := by
  have hlength := h.length_le (Nat.zero_lt_of_lt e.head_lt)
  have hwalk : walk e.links w.links.length [] (some e.head) = e.places :=
    e.isTrail_places.walk_eq (by omega)
  rw [← hwalk]
  unfold places
  rw [hhead]
  exact h.walk_eq e.within (fun _ _ => iff_of_false List.not_mem_nil List.not_mem_nil)
    fun _ hi => Option.some.inj hi ▸ e.head_lt

/-- The faults at places that have been moved up are the same. -/
theorem Holds.filterMap_fault (h : Holds w.links e.links k) :
    (e.places.map (· + k)).filterMap (fun i => w.links[i]?.map Link.fault) = e.chain := by
  rw [List.filterMap_map]
  exact List.filterMap_congr fun i hi => h.fault (lt_of_mem_places hi)

/-- The chain from a place of a graph that is held is that of the graph itself. -/
theorem chain_of_holds (h : Holds w.links e.links k) (hhead : w.head = e.head + k) :
    w.chain = e.chain := by
  rw [← h.filterMap_fault, ← places_of_holds h hhead]
  rfl

/-! ## Failures raised from others -/

/-- A failure was raised from another one: the graph of the other is as it was, the fault that was
raised is none of it, and has its head as the cause. In which context that was does not matter. -/
def RaisedFrom (w e : Failure) : Prop :=
  ∃ k, Holds w.links e.links k ∧ w.top.cause = some (e.head + k) ∧
    (w.head < k ∨ e.links.length + k ≤ w.head)

/-- The fault that was raised is the one at the head. -/
theorem top_eq {l : Link} (h : w.links[w.head]? = some l) : w.top = l :=
  Option.some.inj ((List.getElem?_eq_getElem w.head_lt).symm.trans h)

/-- The fault that was raised for a cause is raised with that cause. -/
theorem top_causedBy (fault : Fault) (cause : Failure) : (causedBy fault cause).top =
    { fault, cause := some cause.head, context := some cause.head, suppressed := true } :=
  top_eq List.getElem?_concat_length

/-- A failure that was caused by another one is raised from it. -/
theorem raisedFrom_causedBy (fault : Fault) (cause : Failure) :
    (causedBy fault cause).RaisedFrom cause := by
  refine ⟨0, fun i hi => ?_, ?_, .inr le_rfl⟩
  · have hshift : (Link.shift · 0) = id := by
      funext l
      obtain ⟨fault, cause, context, suppressed⟩ := l
      cases cause <;> cases context <;> rfl
    rw [hshift, Option.map_id]
    exact List.getElem?_append_left hi
  · rw [top_causedBy]
    rfl

/-- A failure that is given another one as its cause is raised from it. -/
theorem raisedFrom_withCause (f cause : Failure) : (f.withCause cause).RaisedFrom cause := by
  have hlength : ∀ l, (f.links.set f.head l).length = f.links.length := fun _ => List.length_set
  refine ⟨f.links.length, fun i _ => ?_, ?_, .inl f.head_lt⟩
  · unfold withCause relink
    rw [List.getElem?_append_right (by rw [hlength]; omega), List.getElem?_map, hlength,
      Nat.add_sub_cancel]
  · rw [top_eq ((List.getElem?_append_left (by rw [hlength]; exact f.head_lt)).trans
      (List.getElem?_set_self f.head_lt))]

/-- The places of a failure are that of its own fault and those of the failure it was raised from.
-/
theorem RaisedFrom.places_eq (h : w.RaisedFrom e) : ∃ k, Holds w.links e.links k ∧
    w.places = w.head :: e.places.map (· + k) := by
  obtain ⟨k, hholds, hcause, hhead⟩ := h
  refine ⟨k, hholds, ?_⟩
  have hlength := hholds.length_le (Nat.zero_lt_of_lt e.head_lt)
  have hlt := w.head_lt
  -- The graph has a place for the fault that was raised besides those it holds.
  obtain ⟨n, hn⟩ : ∃ n, w.links.length = n + 1 := ⟨w.links.length - 1, by omega⟩
  have hnext : w.links[w.head]?.bind Link.next? = some (e.head + k) := by
    rw [List.getElem?_eq_getElem w.head_lt]
    exact Link.next?_eq_some_iff.2 (.inl hcause)
  have hseen : ∀ i < e.links.length, i + k ∈ [w.head] ↔ i ∈ [] := by
    intro i hi
    rw [List.mem_singleton]
    exact iff_of_false (by omega) List.not_mem_nil
  have hstart : ∀ i ∈ some e.head, i < e.links.length := fun _ hi => Option.some.inj hi ▸ e.head_lt
  have hwalk : walk e.links n [] (some e.head) = e.places := e.isTrail_places.walk_eq (by omega)
  rw [← hwalk, ← hholds.walk_eq e.within hseen hstart]
  unfold places
  rw [hn, walk_of_not_mem List.not_mem_nil, hnext]
  rfl

/-- The chain of a failure that was raised from another one goes on with that one's chain. -/
theorem RaisedFrom.chain_eq (h : w.RaisedFrom e) : w.chain = w.fault :: e.chain := by
  obtain ⟨k, hholds, hplaces⟩ := h.places_eq
  rw [← hholds.filterMap_fault]
  unfold chain
  rw [hplaces, List.filterMap_cons, List.getElem?_eq_getElem w.head_lt]
  rfl

/-- The chain of a failure with a cause goes on with that of the cause. -/
theorem chain_causedBy (fault : Fault) (cause : Failure) :
    (causedBy fault cause).chain = fault :: cause.chain := by
  rw [(raisedFrom_causedBy fault cause).chain_eq, Failure.fault, top_causedBy]

/-- A failure has a kind if its fault has, or the failure that it was raised from. -/
theorem RaisedFrom.has_eq (h : w.RaisedFrom e) (kind : Kind) :
    w.has kind = (decide (w.fault.kind = kind) || e.has kind) := by
  unfold has
  rw [h.chain_eq, List.any_cons]

/-- A failure has a kind if its fault or its cause has. -/
theorem has_causedBy (kind : Kind) (fault : Fault) (cause : Failure) :
    (causedBy fault cause).has kind = (decide (fault.kind = kind) || cause.has kind) := by
  unfold has
  rw [chain_causedBy, List.any_cons]

/-! ## Failed calls -/

/-- A failure is that of a call which was raised from another failure. -/
def FailedCall (w e : Failure) : Prop := w.fault.kind = .callFailed ∧ w.RaisedFrom e

/-- What resolves a failed call is what resolves the failure that it was raised from. -/
theorem FailedCall.resolution?_eq (h : FailedCall w e) : w.resolution? = e.resolution? := by
  unfold resolution?
  rw [h.2.chain_eq, List.findSome?_cons, h.1]
  rfl

/-- What is found in the chain of a failed call is found at the same fault of the failure it was
raised from, and has the same chain from there. -/
theorem FailedCall.resolved?_eq (h : FailedCall w e) :
    w.resolved?.map chain = e.resolved?.map chain := by
  obtain ⟨hkind, hraised⟩ := h
  obtain ⟨k, hholds, hplaces⟩ := hraised.places_eq
  -- Nothing is found at the call itself, and at the other places the same as before.
  have hhead : (w.links[w.head]?.bind fun l => l.fault.kind.disposition?).isSome = false := by
    rw [List.getElem?_eq_getElem w.head_lt]
    exact congrArg (fun kind => kind.disposition?.isSome) hkind
  have hrest : ∀ i ∈ e.places,
      (w.links[i + k]?.bind fun l => l.fault.kind.disposition?).isSome =
        (e.links[i]?.bind fun l => l.fault.kind.disposition?).isSome := by
    intro i hi
    rw [hholds i (lt_of_mem_places hi), Option.bind_map]
    rfl
  have hfound : e.places.find?
        ((fun i => (w.links[i]?.bind fun l => l.fault.kind.disposition?).isSome) ∘ (· + k)) =
      e.places.find? fun i => (e.links[i]?.bind fun l => l.fault.kind.disposition?).isSome :=
    List.find?_congr hrest
  unfold resolved?
  rw [hplaces, List.find?_cons_of_neg (by rw [hhead]; exact Bool.false_ne_true), List.find?_map,
    hfound]
  cases hfind : e.places.find? fun i =>
      (e.links[i]?.bind fun l => l.fault.kind.disposition?).isSome with
  | none => rfl
  | some i =>
    have hi := lt_of_mem_places (List.mem_of_find?_eq_some hfind)
    have hlength := hholds.length_le (Nat.zero_lt_of_lt e.head_lt)
    have hik : i + k < w.links.length := by omega
    simp only [Option.map_some, Option.bind_some, dif_pos hi, dif_pos hik]
    exact congrArg some (chain_of_holds (e := { e with head := i, head_lt := hi }) hholds rfl)

/-- The chain of a failure goes along its links, however these run, and comes to an end: it begins
with the fault that was raised, goes on with the cause of each fault, or with the context if that
has no cause and does not hide it, passes no fault twice, and only ends with a fault behind which
there is none or one that was passed. It is the only list of this kind, and more steps would add
nothing to it. So a failed call that is raised from a failure hides nothing of it, and neither does
any number of them: the chain goes on with that of the failure, and the kinds and the disposition
are the same. -/
theorem chain_goes_once_around (e : Failure) :
    e.IsTrail e.places ∧ (∀ places, e.IsTrail places → places = e.places) ∧
    (∀ steps, e.links.length ≤ steps → walk e.links steps [] (some e.head) = e.places) ∧
    e.chain.map some = e.places.map (fun i => e.links[i]?.map Link.fault) ∧
    ∀ w, Relation.ReflTransGen FailedCall w e →
      (∃ calls, (∀ c ∈ calls, c.kind = .callFailed) ∧ w.chain = calls ++ e.chain) ∧
      (∀ kind, kind ≠ .callFailed → w.has kind = e.has kind) ∧
      w.resolution? = e.resolution? ∧ w.resolved?.map chain = e.resolved?.map chain := by
  refine ⟨e.isTrail_places, fun _ => IsTrail.eq_places, fun _ => e.isTrail_places.walk_eq,
    e.map_some_chain, fun w h => ?_⟩
  -- The induction goes over the failed calls in between, from the inside.
  induction h using Relation.ReflTransGen.head_induction_on with
  | refl => exact ⟨⟨[], nofun, rfl⟩, fun _ _ => rfl, rfl, rfl⟩
  | head hcall _ ih =>
    obtain ⟨⟨calls, hcalls, hchain⟩, hhas, hresolution, hresolved⟩ := ih
    refine ⟨⟨_ :: calls, List.forall_mem_cons.2 ⟨hcall.1, hcalls⟩, ?_⟩, fun kind hkind => ?_,
      hcall.resolution?_eq.trans hresolution, hcall.resolved?_eq.trans hresolved⟩
    · rw [hcall.2.chain_eq, hchain]
      rfl
    · rw [hcall.2.has_eq, hcall.1, decide_eq_false (Ne.symm hkind), Bool.false_or, hhas kind hkind]

end Failure

namespace Sample

/-- Something was not found, an operator is called for, and the first of these is behind the second
and the second behind the first. -/
def circle : Failure :=
  (Failure.causedBy (.terminal .noTags) (.ofFault ⟨.notFound, .reported "gone"⟩)).looped

/-- The fault of a call that came to this. -/
def call : Fault := ⟨.callFailed, .callFailed "list_lbs" circle.message⟩

/-- A call that failed because of that one, while something else was dealt with. -/
def outerCall : Failure :=
  ((Failure.ofFault ⟨.callFailed, .callFailed "find_lb" call.message⟩).withContext
    (.ofFault ⟨.forbidden, .reported "refused"⟩)).withCause (.causedBy call circle)

end Sample

namespace Failure

/-- The chain of a failed call on top of two faults that lead to each other has each of them once.
The call counts as not found, and is resolved as its cause is. -/
theorem sample_goes_once_around :
    Relation.ReflTransGen FailedCall Sample.outerCall Sample.circle ∧
    Sample.circle.IsTrail [1, 0] ∧ Follows Sample.circle.links 0 1 ∧
    (∀ steps, 2 ≤ steps → walk Sample.circle.links steps [] (some 1) = [1, 0]) ∧
    Sample.outerCall.chain = Sample.outerCall.fault :: Sample.call :: Sample.circle.chain ∧
    Sample.outerCall.isNotFound = true ∧ Sample.outerCall.has .forbidden = false ∧
    Sample.outerCall.resolution? = some (.terminal .noTags, .terminal) ∧
    Sample.outerCall.resolved?.map chain = some Sample.circle.chain := by
  have hcalls : Relation.ReflTransGen FailedCall Sample.outerCall Sample.circle :=
    .head ⟨by decide +kernel, raisedFrom_withCause _ _⟩
      (.single ⟨by decide +kernel, raisedFrom_causedBy Sample.call Sample.circle⟩)
  -- The two failed calls add themselves to the chain of the circle, and hide nothing of it.
  obtain ⟨htrail, -, hsteps, -, hwrapped⟩ := chain_goes_once_around Sample.circle
  obtain ⟨-, hhas, hresolution, hresolved⟩ := hwrapped Sample.outerCall hcalls
  have hplaces : Sample.circle.places = [1, 0] := by decide +kernel
  rw [hplaces] at htrail hsteps
  refine ⟨hcalls, htrail, ⟨_, rfl, .inl rfl⟩, hsteps, by decide +kernel, ?_, ?_, ?_, ?_⟩
  · exact (hhas .notFound (by decide)).trans (by decide +kernel)
  · exact (hhas .forbidden (by decide)).trans (by decide +kernel)
  · exact hresolution.trans (by decide +kernel)
  · exact hresolved.trans (by decide +kernel)

end Failure

end ControlPlane
