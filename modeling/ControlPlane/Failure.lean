import ControlPlane.Fault

/-!
# Failures

A failure is a fault together with the faults behind it. Every fault may have a cause and may have
been raised in the context of another one; nothing keeps these links from running in circles, so a
failure is a pointed finite graph. Its chain starts at the head and goes from each fault to its
successor: the cause if there is one, else the context unless that is suppressed. The chain ends
where there is no successor or where it would come back to a fault already seen.
-/

namespace ControlPlane

/-- A fault with its links to others, by position in the graph. -/
structure Link where
  fault : Fault
  cause : Option Nat := none
  context : Option Nat := none
  suppressed : Bool := false
  deriving DecidableEq, Repr

namespace Link

/-- Whether the links stay within a graph of a size. -/
def Within (l : Link) (size : Nat) : Prop :=
  (∀ i ∈ l.cause, i < size) ∧ (∀ i ∈ l.context, i < size)

/-- The fault after this one. -/
def next? (l : Link) : Option Nat :=
  match l.cause with
  | some i => some i
  | none => if l.suppressed then none else l.context

/-- The link with its targets moved up by a number of places. -/
def shift (l : Link) (k : Nat) : Link :=
  { l with cause := l.cause.map (· + k), context := l.context.map (· + k) }

theorem Within.mono {l : Link} {m n : Nat} (h : l.Within m) (hmn : m ≤ n) : l.Within n :=
  ⟨fun i hi => Nat.lt_of_lt_of_le (h.1 i hi) hmn, fun i hi => Nat.lt_of_lt_of_le (h.2 i hi) hmn⟩

theorem Within.shift {l : Link} {m : Nat} (h : l.Within m) (k : Nat) :
    (l.shift k).Within (m + k) := by
  constructor <;> intro i hi <;>
    simp only [Link.shift, Option.mem_def, Option.map_eq_some_iff] at hi <;>
    obtain ⟨j, hj, rfl⟩ := hi
  · exact Nat.add_lt_add_right (h.1 j hj) k
  · exact Nat.add_lt_add_right (h.2 j hj) k

end Link

/-- Faults linked to each other, and the one that was raised. -/
structure Failure where
  links : List Link
  head : Nat
  head_lt : head < links.length
  within : ∀ l ∈ links, l.Within links.length
  deriving DecidableEq, Repr

namespace Failure

/-- The link of the fault that was raised. -/
def top (f : Failure) : Link := f.links.get ⟨f.head, f.head_lt⟩

/-- The places of the chain from a place on, leaving out those seen. The first argument bounds the
number of steps. -/
def walk (links : List Link) : (steps : Nat) → (seen : List Nat) → Option Nat → List Nat
  | 0, _, _ => []
  | _ + 1, _, none => []
  | steps + 1, seen, some i =>
    if i ∈ seen then []
    else i :: walk links steps (i :: seen) (links[i]?.bind Link.next?)

/-- The places of the chain. No place occurs twice, so there are at most as many as faults. -/
def places (f : Failure) : List Nat :=
  walk f.links f.links.length [] (some f.head)

/-- The faults of the chain, outermost first. -/
def chain (f : Failure) : List Fault :=
  f.places.filterMap fun i => f.links[i]?.map Link.fault

/-- The fault that was raised. -/
def fault (f : Failure) : Fault := f.top.fault

/-- The wording of a failure is that of the fault that was raised. -/
def message (f : Failure) : String := f.fault.message

/-- A fault without any behind it. -/
def ofFault (fault : Fault) : Failure where
  links := [{ fault }]
  head := 0
  head_lt := by simp
  within := by simp [Link.Within]

/-- A fault raised because of a failure. -/
def causedBy (fault : Fault) (cause : Failure) : Failure where
  links := cause.links ++
    [{ fault, cause := some cause.head, context := some cause.head, suppressed := true }]
  head := cause.links.length
  head_lt := by simp
  within := by
    have hc := cause.head_lt
    intro l hl
    rw [List.length_append]
    rcases List.mem_append.1 hl with hl | hl
    · exact (cause.within l hl).mono (Nat.le_add_right _ _)
    · rw [List.mem_singleton.1 hl]
      constructor <;> intro i hi <;> cases hi <;> exact Nat.lt_of_lt_of_le hc (Nat.le_add_right _ _)

/-- A failure with the raised fault replaced by one that links into another failure's graph. -/
def relink (f other : Failure) (link : Link → Nat → Link)
    (h : ∀ l i n, l.Within n → i < n → (link l i).Within n) : Failure where
  links := f.links.set f.head (link f.top (other.head + f.links.length)) ++
    other.links.map (·.shift f.links.length)
  head := f.head
  head_lt := by
    have := f.head_lt
    simp only [List.length_append, List.length_set, List.length_map]
    omega
  within := by
    have ho := other.head_lt
    intro l hl
    simp only [List.length_append, List.length_set, List.length_map]
    rcases List.mem_append.1 hl with hl | hl
    · rcases List.mem_or_eq_of_mem_set hl with hl | rfl
      · exact (f.within l hl).mono (Nat.le_add_right _ _)
      · exact h _ _ _ ((f.within _ (List.get_mem _ _)).mono (Nat.le_add_right _ _)) (by omega)
    · obtain ⟨l', hl', rfl⟩ := List.mem_map.1 hl
      exact ((other.within l' hl').shift _).mono (by omega)

/-- A failure whose raised fault has a cause. A cause hides the context. -/
def withCause (f cause : Failure) : Failure :=
  f.relink cause (fun l i => { l with cause := some i, suppressed := true })
    fun _ _ _ h hi => ⟨fun _ hj => by cases hj; exact hi, h.2⟩

/-- A failure whose raised fault has a context. -/
def withContext (f context : Failure) : Failure :=
  f.relink context (fun l i => { l with context := some i })
    fun _ _ _ h hi => ⟨h.1, fun _ hj => by cases hj; exact hi⟩

/-- A failure with one link replaced. -/
def mapLink (f : Failure) (place : Nat) (change : Link → Link)
    (h : ∀ l, l.Within f.links.length → (change l).Within f.links.length) : Failure where
  links := f.links.modify place change
  head := f.head
  head_lt := by rw [List.length_modify]; exact f.head_lt
  within := by
    intro l hl
    rw [List.length_modify]
    obtain ⟨i, hi, rfl⟩ := List.mem_iff_getElem.1 hl
    rw [List.length_modify] at hi
    rw [List.getElem_modify]
    split
    · exact h _ (f.within _ (List.getElem_mem hi))
    · exact f.within _ (List.getElem_mem hi)

/-- A failure whose raised fault hides its context. -/
def hidingContext (f : Failure) : Failure :=
  f.mapLink f.head (fun l => { l with suppressed := true }) fun _ h => h

/-- A failure whose last fault was raised because of the first. -/
def looped (f : Failure) : Failure :=
  f.mapLink (f.places.getLastD f.head)
    (fun l => { l with cause := some f.head, suppressed := true })
    fun _ h => ⟨fun _ hj => by cases hj; exact f.head_lt, h.2⟩

/-! ## What a failure comes down to -/

/-- Whether a fault of the chain has a kind. -/
def has (kind : Kind) (f : Failure) : Bool := f.chain.any (·.kind = kind)

/-- Whether the failure comes from a look-up without a match. -/
def isNotFound (f : Failure) : Bool := f.has .notFound

/-- The first fault of the chain that has a disposition, with that disposition. -/
def resolution? (f : Failure) : Option (Fault × Disposition) :=
  f.chain.findSome? fun fault => fault.kind.disposition?.map (fault, ·)

/-- The part of a failure from the first fault on that has a disposition. -/
def resolved? (f : Failure) : Option Failure :=
  (f.places.find? fun i => (f.links[i]?.bind fun l => l.fault.kind.disposition?).isSome).bind
    fun i => if h : i < f.links.length then some { f with head := i, head_lt := h } else none

/-- Whether a failure is one of the provisioner's that meets one of the given conditions. Only these
may be ignored. -/
def isIgnored (conditions : List Kind) (f : Failure) : Bool :=
  f.fault.kind.isOwn && conditions.any fun kind => f.has kind

end Failure

/-- Fails with a fault that has none behind it. -/
def raise (fault : Fault) : Except Failure α := .error (.ofFault fault)

end ControlPlane
