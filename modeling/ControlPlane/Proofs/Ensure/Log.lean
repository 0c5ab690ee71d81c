import ControlPlane.Proofs.Ensure.Stores

/-!
# A log of the calls to a reconciler

`Reconciler.logged` is a reconciler that keeps a log of its calls beside the state: of those that
end, with what comes back, and of one that raises a failure. It does what the reconciler does
(`Reconciler.projects_ensure`), and it reflects a store if the reconciler does (`Reflects.logged`),
so that what is proved of runs can be proved of their logs.
-/

namespace ControlPlane

/-! ## Actions that fail -/

section

variable {ε σ τ α β : Type}

/-- In a state, an action fails and leaves another state. -/
def Fails (act : Acting ε σ α) (s : σ) (e : ε) (s' : σ) : Prop := act.run.run s = (.error e, s')

/-- A value does not fail. -/
@[simp]
theorem fails_pure {a : α} {s s' : σ} {e : ε} : ¬Fails (pure a : Acting ε σ α) s e s' := nofun

/-- A failure that is thrown is that of the action, and the state is as it was. -/
@[simp]
theorem fails_throw {e e' : ε} {s s' : σ} :
    Fails (throw e : Acting ε σ α) s e' s' ↔ e' = e ∧ s' = s := by
  constructor
  · intro h
    cases h
    exact ⟨rfl, rfl⟩
  · rintro ⟨rfl, rfl⟩
    rfl

/-- Two actions in a row fail where the first one does, or where the second one does after it. -/
theorem fails_bind {act : Acting ε σ α} {f : α → Acting ε σ β} {s s'' : σ} {e : ε} :
    Fails (act >>= f) s e s'' ↔
      Fails act s e s'' ∨ ∃ a s', Ends act s a s' ∧ Fails (f a) s' e s'' := by
  unfold Fails Ends
  rw [run_run_bind]
  rcases act.run.run s with ⟨e' | a, s'⟩
  · constructor
    · intro h
      cases h
      exact .inl rfl
    · rintro (h | ⟨_, _, h, -⟩) <;> cases h
      rfl
  · constructor
    · exact fun h => .inr ⟨a, s', rfl, h⟩
    · rintro (h | ⟨a', s1, h, h'⟩)
      · cases h
      · cases h
        exact h'

/-- An action on a state that has another one as a part does what an action on the part does. -/
def Projects (part : τ → σ) (act' : Acting ε τ α) (act : Acting ε σ α) : Prop :=
  ∀ t, act.run.run (part t) = ((act'.run.run t).1, part (act'.run.run t).2)

/-- A value is the same on a part. -/
theorem projects_pure (part : τ → σ) (a : α) : Projects part (pure a : Acting ε τ α) (pure a) :=
  fun _ => rfl

/-- A failure is the same on a part. -/
theorem projects_throw (part : τ → σ) (e : ε) : Projects part (throw e : Acting ε τ α) (throw e) :=
  fun _ => rfl

/-- Where the action on the whole ends, the one on the part does. -/
theorem Projects.ends {part : τ → σ} {act' : Acting ε τ α} {act : Acting ε σ α}
    (h : Projects part act' act) {t t' : τ} {a : α} (hends : Ends act' t a t') :
    Ends act (part t) a (part t') := by
  unfold Ends at hends ⊢
  rw [h t, hends]

/-- Two actions in turn project if both do. -/
theorem Projects.bind {part : τ → σ} {act' : Acting ε τ α} {act : Acting ε σ α}
    {f' : α → Acting ε τ β} {f : α → Acting ε σ β} (h : Projects part act' act)
    (hf : ∀ a, Projects part (f' a) (f a)) : Projects part (act' >>= f') (act >>= f) := by
  intro t
  rw [run_run_bind, run_run_bind, h t]
  rcases act'.run.run t with ⟨_ | a, t'⟩
  · rfl
  · exact hf a t'

/-- Acts on a list project if each of them does. -/
theorem Projects.mapM' {part : τ → σ} {f' : α → Acting ε τ β} {f : α → Acting ε σ β}
    (h : ∀ a, Projects part (f' a) (f a)) {as : List α} :
    Projects part (as.mapM' f') (as.mapM' f) := by
  induction as with
  | nil => exact projects_pure part []
  | cons a rest ih => exact (h a).bind fun b => ih.bind fun more => projects_pure part (b :: more)

end

/-! ## Logging the calls -/

/-- An operation of a reconciler, with what it is called with. -/
inductive Operation (D R : Type)
  | list
  | keeps (resource : R) (desired : D)
  | update (resource : R) (desired : D)
  | delete (resource : R)
  | create (zone name : String) (desired : D)

/-- A call in a log: it ended, or it raised a failure. -/
inductive Entry (ε D R : Type)
  | ended (step : Step D R)
  | raised (operation : Operation D R) (error : ε)

section

variable {ε σ D R α : Type}

/-- An action for an operation, with what came of it behind the log so far. -/
def logging (act : Acting ε σ α) (op : Operation D R) (step : α → Step D R) :
    Acting ε (σ × List (Entry ε D R)) α :=
  ExceptT.mk fun (s, entries) => match act.run.run s with
    | (.ok a, s') => (.ok a, (s', entries ++ [.ended (step a)]))
    | (.error e, s') => (.error e, (s', entries ++ [.raised op e]))

variable {act : Acting ε σ α} {op : Operation D R} {step : α → Step D R}
  {t t' : σ × List (Entry ε D R)}

/-- Logging runs the action, and puts what came of it behind the log. -/
theorem run_logging (act : Acting ε σ α) (op : Operation D R) (step : α → Step D R)
    (t : σ × List (Entry ε D R)) : (logging act op step).run.run t =
      match act.run.run t.1 with
      | (.ok a, s') => (.ok a, (s', t.2 ++ [.ended (step a)]))
      | (.error e, s') => (.error e, (s', t.2 ++ [.raised op e])) := rfl

/-- A logged action ends as the action does, with a call that ended behind the log. -/
theorem ends_logging {a : α} : Ends (logging act op step) t a t' ↔
    Ends act t.1 a t'.1 ∧ t'.2 = t.2 ++ [.ended (step a)] := by
  unfold Ends
  rw [run_logging]
  rcases act.run.run t.1 with ⟨e | b, s'⟩
  · exact iff_of_false nofun fun h => nomatch h.1
  · obtain ⟨s1, entries⟩ := t'
    constructor
    · intro h
      cases h
      exact ⟨rfl, rfl⟩
    · rintro ⟨h, rfl⟩
      cases h
      rfl

/-- A logged action fails as the action does, with a failure behind the log. -/
theorem fails_logging {e : ε} : Fails (logging act op step) t e t' ↔
    Fails act t.1 e t'.1 ∧ t'.2 = t.2 ++ [.raised op e] := by
  unfold Fails
  rw [run_logging]
  rcases act.run.run t.1 with ⟨e' | b, s'⟩
  · obtain ⟨s1, entries⟩ := t'
    constructor
    · intro h
      cases h
      exact ⟨rfl, rfl⟩
    · rintro ⟨h, rfl⟩
      cases h
      rfl
  · exact iff_of_false nofun fun h => nomatch h.1

/-- But for the log, a logged action is the action. -/
theorem projects_logging (act : Acting ε σ α) (op : Operation D R) (step : α → Step D R) :
    Projects Prod.fst (logging act op step) act := by
  intro t
  rw [run_logging]
  rcases act.run.run t.1 with ⟨_ | _, _⟩ <;> rfl

end

namespace Reconciler

variable {ε σ D R : Type}

/-- A reconciler that also keeps a log of its calls. -/
def logged (r : Reconciler (Acting ε σ) ε D R) :
    Reconciler (Acting ε (σ × List (Entry ε D R))) ε D R where
  list := logging r.list .list .listed
  create zone name d := logging (r.create zone name d) (.create zone name d) (.created zone name d)
  update x d := logging (r.update x d) (.update x d) (.updated x d)
  delete x := logging (r.delete x) (.delete x) fun _ => .deleted x
  zoneOf := r.zoneOf
  nameOf := r.nameOf
  desiredZone := r.desiredZone
  desiredName := r.desiredName
  keeps x d := logging (r.keeps x d) (.keeps x d) (.asked x d)

variable (r : Reconciler (Acting ε σ) ε D R)

/-- But for the log, the walk over the live resources is the same. -/
theorem projects_retain (wanted : List (String × List D)) (taken : List (String × String))
    (l : List R) : Projects Prod.fst (r.logged.retain wanted taken l) (r.retain wanted taken l) := by
  induction l generalizing taken with
  | nil => exact projects_pure _ _
  | cons x rest ih =>
    -- Which desired one a resource matches does not depend on the log.
    have hmatch : r.logged.match? wanted taken x = r.match? wanted taken x := by
      refine match?_congr ?_ ?_ ?_ wanted taken x <;> rfl
    rw [retain, retain, hmatch]
    cases r.match? wanted taken x with
    | none =>
      exact (projects_pure _ _).bind fun _ => (projects_logging _ _ _).bind fun _ => ih _
    | some d =>
      refine (projects_logging _ _ _).bind fun answer => ?_
      cases answer with
      | false => exact (projects_logging _ _ _).bind fun _ => ih _
      | true =>
        refine (projects_logging _ _ _).bind fun y => ?_
        exact (ih _).bind fun more => projects_pure _ _

/-- But for the log, the walk over what is missing is the same. -/
theorem projects_createMissing (taken : List (String × String)) (ts : List (String × String × D)) :
    Projects Prod.fst (r.logged.createMissing taken ts) (r.createMissing taken ts) := by
  rw [createMissing_eq, createMissing_eq]
  exact Projects.mapM' fun _ => projects_logging _ _ _

/-- A run with a log is the run without. -/
theorem projects_ensure (desired : List D) :
    Projects Prod.fst (r.logged.ensure desired) (r.ensure desired) := by
  have hgroups : r.logged.groups desired = r.groups desired := rfl
  unfold ensure
  rw [hgroups]
  cases r.groups desired with
  | error e => exact (projects_throw _ e).bind fun _ => (projects_logging _ _ _).bind fun l =>
      (r.projects_retain _ _ l).bind fun kept => (r.projects_createMissing _ _).bind fun made =>
        projects_pure _ _
  | ok wanted => exact (projects_pure _ wanted).bind fun _ => (projects_logging _ _ _).bind fun l =>
      (r.projects_retain _ _ l).bind fun kept => (r.projects_createMissing _ _).bind fun made =>
        projects_pure _ _

variable {r}

/-- What is desired at a place does not depend on the log. -/
theorem logged_desiredAt (desired : List D) (zone name : String) :
    r.logged.desiredAt desired zone name = r.desiredAt desired zone name := by
  refine named?_congr ?_ name 0 (r.desiredIn zone desired)
  rfl

/-- A collection that reflects its resources still does so with a log. -/
theorem Reflects.logged {ι : Type} [DecidableEq ι] {valid : σ → Prop} {live : σ → List R}
    {id : R → ι} (hr : r.Reflects valid live id) :
    r.logged.Reflects (valid ·.1) (live ·.1) id where
  nodup hs := hr.nodup hs
  list hs h := hr.list hs (ends_logging.1 h).1
  keeps hs hx h := hr.keeps hs hx (ends_logging.1 h).1
  update hs hx h := hr.update hs hx (ends_logging.1 h).1
  delete hs hx h := hr.delete hs hx (ends_logging.1 h).1
  create hs h := hr.create hs (ends_logging.1 h).1

end Reconciler

/-! ## What the log says -/

section

variable {ε σ D R : Type} {r : Reconciler (Acting ε σ) ε D R} {desired : List D}
  {taken : List (String × String)} {t t' : σ × List (Entry ε D R)}

/-- A survey logs the calls of its visits. -/
theorem Survey.log {vs : List (Visit (σ × List (Entry ε D R)) D R)}
    (h : Survey r.logged desired taken t vs t') :
    t'.2 = t.2 ++ (vs.flatMap Visit.steps).map .ended := by
  induction h with
  | done => exact (List.append_nil _).symm
  | unwanted _ hdelete _ ih =>
    rw [ih, (ends_logging.1 hdelete).2, List.append_assoc]
    rfl
  | refused _ _ hkeeps hdelete _ ih =>
    -- Each call is one entry: here the question and then the deletion.
    rw [ih, (ends_logging.1 hdelete).2, (ends_logging.1 hkeeps).2, List.append_assoc,
      List.append_assoc]
    rfl
  | retained _ _ hkeeps hupdate _ ih =>
    rw [ih, (ends_logging.1 hupdate).2, (ends_logging.1 hkeeps).2, List.append_assoc,
      List.append_assoc]
    rfl

/-- Creating logs the creations. -/
theorem Makes.log {ks : List (Creation D R)} (h : Makes r.logged t ks t') :
    t'.2 = t.2 ++ (ks.map Creation.step).map .ended := by
  induction h with
  | done => exact (List.append_nil _).symm
  | made hcreate _ ih =>
    rw [ih, (ends_logging.1 hcreate).2, List.append_assoc]
    rfl

end

end ControlPlane
