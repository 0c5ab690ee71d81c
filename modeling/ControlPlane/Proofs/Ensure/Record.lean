import ControlPlane.Proofs.Ensure.Targets

/-!
# A record of what a reconciler does

`Reconciler.recorded` is a reconciler over any state that can fail, with a record of its calls and
of what comes back. It does what the reconciler does (`ends_recording`), so that the record of a run
of `Reconciler.ensure` tells what the run does.
-/

namespace ControlPlane

/-! ## Acting on a state -/

/-- What reads and changes a state and can fail. A failure keeps what was done before it. -/
abbrev Acting (ε σ : Type) := ExceptT ε (StateM σ)

section

variable {ε σ α β : Type}

/-- In a state, an action ends with a value and leaves another state. -/
def Ends (act : Acting ε σ α) (s : σ) (a : α) (s' : σ) : Prop := act.run.run s = (.ok a, s')

/-- How an action ends is determined. -/
theorem Ends.unique {act : Acting ε σ α} {s s1 s2 : σ} {a b : α} (h : Ends act s a s1)
    (h' : Ends act s b s2) : a = b ∧ s1 = s2 := by
  obtain ⟨ha, hs⟩ := Prod.mk.inj (h.symm.trans h')
  exact ⟨Except.ok.inj ha, hs⟩

/-- A value is the end of its own action. -/
@[simp]
theorem ends_pure {a b : α} {s s' : σ} :
    Ends (pure a : Acting ε σ α) s b s' ↔ b = a ∧ s' = s := by
  constructor
  · rintro h
    cases h
    exact ⟨rfl, rfl⟩
  · rintro ⟨rfl, rfl⟩
    rfl

/-- An action that fails has no end. -/
@[simp]
theorem ends_throw {e : ε} {a : α} {s s' : σ} : ¬Ends (throw e : Acting ε σ α) s a s' := nofun

/-- What follows an action is done where the action ends, and nothing is done where it fails. -/
theorem run_run_bind (act : Acting ε σ α) (f : α → Acting ε σ β) (s : σ) :
    (act >>= f).run.run s = match act.run.run s with
      | (.ok a, s') => (f a).run.run s'
      | (.error e, s') => (.error e, s') := by
  show (match act.run.run s with
    | (r, s') => (match r with
      | .ok a => (f a).run
      | .error e => pure (.error e) : StateM σ (Except ε β)).run s') = _
  rcases act.run.run s with ⟨_ | _, _⟩ <;> rfl

/-- Two actions in turn end where the second ends from the end of the first. -/
@[simp]
theorem ends_bind {act : Acting ε σ α} {f : α → Acting ε σ β} {s s'' : σ} {b : β} :
    Ends (act >>= f) s b s'' ↔ ∃ a s', Ends act s a s' ∧ Ends (f a) s' b s'' := by
  unfold Ends
  rw [run_run_bind]
  rcases act.run.run s with ⟨e | a, s'⟩
  · exact iff_of_false nofun (fun ⟨_, _, h, _⟩ => nomatch h)
  · constructor
    · exact fun h => ⟨a, s', rfl, h⟩
    · rintro ⟨a', s1, h, h'⟩
      cases h
      exact h'

end

/-! ## Recording the calls -/

/-- One call to a reconciler, with what came back. -/
inductive Step (D R : Type)
  | listed (live : List R)
  | asked (resource : R) (desired : D) (answer : Bool)
  | updated (resource : R) (desired : D) (result : R)
  | deleted (resource : R)
  | created (zone name : String) (desired : D) (result : R)

/-- The resource that a call deletes. -/
def Step.deletion? {D R : Type} : Step D R → Option R
  | deleted resource => some resource
  | _ => none

/-- An action with a record of it behind the records so far. -/
def recording {ε σ τ α : Type} (act : Acting ε σ α) (step : α → τ) :
    Acting ε (σ × List τ) α :=
  ExceptT.mk fun (s, steps) => match act.run.run s with
    | (.ok a, s') => (.ok a, (s', steps ++ [step a]))
    | (.error e, s') => (.error e, (s', steps))

/-- An action that ends is recorded with its value. -/
theorem ends_recording {ε σ τ α : Type} {act : Acting ε σ α} {s s' : σ} {a : α}
    (h : Ends act s a s') (step : α → τ) (steps : List τ) :
    Ends (recording act step) (s, steps) a (s', steps ++ [step a]) := by
  have hrun : act.run.run s = (.ok a, s') := h
  show (match act.run.run s with
    | (.ok a, s') => (.ok a, (s', steps ++ [step a]))
    | (.error e, s') => (.error e, (s', steps)) : Except ε α × σ × List τ) = _
  rw [hrun]

namespace Reconciler

variable {ε σ D R : Type} {r : Reconciler (Acting ε σ) ε D R}

/-- The zone and the name of a resource. -/
def place {m : Type → Type} (r : Reconciler m ε D R) (resource : R) : String × String :=
  (r.zoneOf resource, r.nameOf resource)

/-- A reconciler that also records what it does. -/
def recorded (r : Reconciler (Acting ε σ) ε D R) :
    Reconciler (Acting ε (σ × List (Step D R))) ε D R where
  list := recording r.list .listed
  create zone name d := recording (r.create zone name d) (.created zone name d)
  update x d := recording (r.update x d) (.updated x d)
  delete x := recording (r.delete x) fun _ => .deleted x
  zoneOf := r.zoneOf
  nameOf := r.nameOf
  desiredZone := r.desiredZone
  desiredName := r.desiredName
  keeps x d := recording (r.keeps x d) (.asked x d)

section

variable {s s' : σ} (steps : List (Step D R))

/-- Listing is recorded with what is listed. -/
theorem ends_recorded_list {live : List R} (h : Ends r.list s live s') :
    Ends r.recorded.list (s, steps) live (s', steps ++ [.listed live]) :=
  ends_recording h _ steps

/-- Creating is recorded with what is created. -/
theorem ends_recorded_create {zone name : String} {d : D} {y : R}
    (h : Ends (r.create zone name d) s y s') :
    Ends (r.recorded.create zone name d) (s, steps) y (s', steps ++ [.created zone name d y]) :=
  ends_recording h _ steps

/-- Updating is recorded with what becomes of the resource. -/
theorem ends_recorded_update {x y : R} {d : D} (h : Ends (r.update x d) s y s') :
    Ends (r.recorded.update x d) (s, steps) y (s', steps ++ [.updated x d y]) :=
  ends_recording h _ steps

/-- Deleting is recorded. -/
theorem ends_recorded_delete {x : R} (h : Ends (r.delete x) s () s') :
    Ends (r.recorded.delete x) (s, steps) () (s', steps ++ [.deleted x]) :=
  ends_recording h _ steps

/-- Asking whether a resource is kept is recorded with the answer. -/
theorem ends_recorded_keeps {x : R} {d : D} {answer : Bool} (h : Ends (r.keeps x d) s answer s') :
    Ends (r.recorded.keeps x d) (s, steps) answer (s', steps ++ [.asked x d answer]) :=
  ends_recording h _ steps

end

section

variable {m m' : Type → Type} {r : Reconciler m ε D R} {r' : Reconciler m' ε D R}

/-- The resource that is found by a name depends on the names of positions only. -/
theorem named?_congr (h : r'.desiredName = r.desiredName) (name : String) (i : Nat) (ds : List D) :
    r'.named? name i ds = r.named? name i ds := by
  induction ds generalizing i with
  | nil => rfl
  | cons d rest ih =>
    unfold named?
    rw [ih, h]

/-- What a resource stands for depends on zones and names only. -/
theorem match?_congr (hzone : r'.zoneOf = r.zoneOf) (hname : r'.nameOf = r.nameOf)
    (h : r'.desiredName = r.desiredName) (wanted : List (String × List D))
    (taken : List (String × String)) (x : R) : r'.match? wanted taken x = r.match? wanted taken x := by
  simp only [match?, hzone, hname, funext (named?_congr h (r.nameOf x) 0)]

end

/-- What a live resource is matched with does not depend on the recording. -/
theorem recorded_match? (wanted : List (String × List D)) (taken : List (String × String)) (x : R) :
    r.recorded.match? wanted taken x = r.match? wanted taken x := by
  refine match?_congr ?_ ?_ ?_ wanted taken x <;> rfl

end Reconciler

end ControlPlane
