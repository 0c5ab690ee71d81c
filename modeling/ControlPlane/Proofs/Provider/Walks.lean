import ControlPlane.Proofs.Provider.Progress

/-!
# Programs that walk through lists

Much of what a reconciler does, it does to the elements of a list, one after the other. There are
three such walks: `List.forM` only acts, `List.mapM'` collects what comes of each element, and
`List.foldlM` hands a value on from one element to the next. A property of programs that is `Closed`
under sequencing is one of a whole walk if it is one of each of its steps. A walk idles if each step
does.

What a walk upholds or achieves depends on the cloud. The rules for these take a condition that each
step finds and leaves, beside the invariant that holds on the way.
-/

namespace ControlPlane

namespace Program

variable {α β : Type} {as : List α}

/-- A property that programs have which only end with a value, and sequences of programs which have
it. -/
structure Closed (T : {α : Type} → Program α → Prop) : Prop where
  done {α : Type} (a : α) : T (done a)
  bind {α β : Type} {p : Program α} {f : α → Program β} (hp : T p) (hf : ∀ a, T (f a)) :
    T (p >>= f)

namespace Closed

variable {T : {α : Type} → Program α → Prop}

/-- Acting on each element has the property if all the acts have it. -/
theorem forM (hT : Closed T) {f : α → Program Unit} (h : ∀ a ∈ as, T (f a)) : T (as.forM f) := by
  induction as with
  | nil => exact hT.done ()
  | cons a rest ih =>
    obtain ⟨ha, hrest⟩ := List.forall_mem_cons.1 h
    exact hT.bind ha fun _ => ih hrest

/-- Collecting values has the property if each of them is found with it. -/
theorem mapM' (hT : Closed T) {f : α → Program β} (h : ∀ a ∈ as, T (f a)) : T (as.mapM' f) := by
  induction as with
  | nil => exact hT.done []
  | cons a rest ih =>
    obtain ⟨ha, hrest⟩ := List.forall_mem_cons.1 h
    exact hT.bind ha fun b => hT.bind (ih hrest) fun more => hT.done (b :: more)

/-- Handing a value on has the property if each step has it, with whatever value. -/
theorem foldlM (hT : Closed T) {f : β → α → Program β} (h : ∀ b, ∀ a ∈ as, T (f b a)) (b : β) :
    T (as.foldlM f b) := by
  induction as generalizing b with
  | nil => exact hT.done b
  | cons a rest ih =>
    rw [List.foldlM_cons]
    refine hT.bind (h b a List.mem_cons_self) fun b' => ?_
    exact ih (fun b a ha => h b a (List.mem_cons_of_mem _ ha)) b'

end Closed

/-- Being orderly is closed under sequencing. -/
theorem orderly_closed (allowed : Request → Prop) : Closed fun p => p.Orderly allowed :=
  ⟨fun _ => trivial, Orderly.bind⟩

section

variable {c : Cloud}

/-- Acting on each element idles if all the acts do. -/
theorem Idles.forM {f : α → Program Unit} (h : ∀ a ∈ as, (f a).Idles c ()) :
    (as.forM f).Idles c () := by
  induction as with
  | nil => exact idles_done () c
  | cons a rest ih =>
    obtain ⟨ha, hrest⟩ := List.forall_mem_cons.1 h
    exact ha.bind (ih hrest)

/-- Collecting values idles if finding each of them does. -/
theorem Idles.mapM' {f : α → Program β} (h : ∀ a ∈ as, ∃ b, (f a).Idles c b) :
    ∃ bs, (as.mapM' f).Idles c bs := by
  induction as with
  | nil => exact ⟨[], idles_done [] c⟩
  | cons a rest ih =>
    obtain ⟨⟨b, hb⟩, hrest⟩ := List.forall_mem_cons.1 h
    obtain ⟨bs, hbs⟩ := ih hrest
    exact ⟨b :: bs, hb.bind (hbs.bind (idles_done (b :: bs) c))⟩

/-- Handing a value on idles if each step does, with whatever value. -/
theorem Idles.foldlM {f : β → α → Program β} (h : ∀ b, ∀ a ∈ as, ∃ b', (f b a).Idles c b')
    (b : β) : ∃ b', (as.foldlM f b).Idles c b' := by
  induction as generalizing b with
  | nil => exact ⟨b, idles_done b c⟩
  | cons a rest ih =>
    obtain ⟨b', hb'⟩ := h b a List.mem_cons_self
    obtain ⟨b'', hrest⟩ := ih (fun b a ha => h b a (List.mem_cons_of_mem _ ha)) b'
    rw [List.foldlM_cons]
    exact ⟨b'', hb'.bind hrest⟩

end

section

variable {P K : Cloud → Prop} {c : Cloud}

/-- To uphold something wherever it holds at the start is closed under sequencing. -/
theorem upholds_closed (P : Cloud → Prop) : Closed fun p => ∀ c, P c → p.Upholds P c :=
  ⟨fun a _ hP => upholds_done hP a, fun hp hf c hP => (hp c hP).bind fun a c' _ hP' => hf a c' hP'⟩

/-- Acting on each element upholds something if all the acts do and leave what they need. -/
theorem Upholds.forM {f : α → Program Unit}
    (h : ∀ a ∈ as, ∀ c, P c → K c → (f a).Upholds P c ∧ ∀ c', (f a).Returns c () c' → K c')
    (hP : P c) (hK : K c) : (as.forM f).Upholds P c := by
  induction as generalizing c with
  | nil => exact upholds_done hP ()
  | cons a rest ih =>
    obtain ⟨ha, hrest⟩ := List.forall_mem_cons.1 h
    obtain ⟨hfirst, hkeeps⟩ := ha c hP hK
    exact hfirst.bind fun _ c' hreturns hP' => ih hrest hP' (hkeeps c' hreturns)

/-- Collecting values upholds something if finding each of them does and leaves what the next one
needs. -/
theorem Upholds.mapM' {f : α → Program β}
    (h : ∀ a ∈ as, ∀ c, P c → K c → (f a).Upholds P c ∧ ∀ b c', (f a).Returns c b c' → K c')
    (hP : P c) (hK : K c) : (as.mapM' f).Upholds P c := by
  induction as generalizing c with
  | nil => exact upholds_done hP []
  | cons a rest ih =>
    obtain ⟨ha, hrest⟩ := List.forall_mem_cons.1 h
    obtain ⟨hfirst, hkeeps⟩ := ha c hP hK
    refine hfirst.bind fun b c' hreturns hP' => ?_
    exact (ih hrest hP' (hkeeps b c' hreturns)).bind fun bs c'' _ hP'' => upholds_done hP'' (b :: bs)

/-- Handing a value on upholds something if each step does, with whatever value, and leaves what the
next one needs. -/
theorem Upholds.foldlM {f : β → α → Program β}
    (h : ∀ b, ∀ a ∈ as, ∀ c, P c → K c →
      (f b a).Upholds P c ∧ ∀ b' c', (f b a).Returns c b' c' → K c')
    (hP : P c) (hK : K c) (b : β) : (as.foldlM f b).Upholds P c := by
  induction as generalizing b c with
  | nil => exact upholds_done hP b
  | cons a rest ih =>
    obtain ⟨hfirst, hkeeps⟩ := h b a List.mem_cons_self c hP hK
    rw [List.foldlM_cons]
    refine hfirst.bind fun b' c' hreturns hP' => ?_
    exact ih (fun b a ha => h b a (List.mem_cons_of_mem _ ha)) hP' (hkeeps b' c' hreturns) b'

/-- Acting on each element succeeds if all the acts do, and leave what they need. -/
theorem Achieves.forM {f : α → Program Unit}
    (h : ∀ a ∈ as, ∀ c, P c → K c → (f a).Achieves P c fun _ c' => K c') (hP : P c) (hK : K c) :
    (as.forM f).Achieves P c fun _ c' => K c' := by
  induction as generalizing c with
  | nil => exact achieves_done hP hK
  | cons a rest ih =>
    obtain ⟨ha, hrest⟩ := List.forall_mem_cons.1 h
    exact (ha c hP hK).bind fun _ _ _ hP' hK' => ih hrest hP' hK'

/-- Collecting values succeeds if finding each of them does, and each value is what was found for an
element. -/
theorem Achieves.mapM' {R : α → β → Prop} {f : α → Program β}
    (h : ∀ a ∈ as, ∀ c, P c → (f a).Achieves P c fun b _ => R a b) (hP : P c) :
    (as.mapM' f).Achieves P c fun bs _ => ∀ b ∈ bs, ∃ a ∈ as, R a b := by
  induction as generalizing c with
  | nil => exact achieves_done hP fun b hb => nomatch hb
  | cons a rest ih =>
    obtain ⟨ha, hrest⟩ := List.forall_mem_cons.1 h
    refine (ha c hP).bind fun b c' _ hP' hb => ?_
    refine (ih hrest hP').bind fun bs c'' _ hP'' hbs => achieves_done hP'' ?_
    refine List.forall_mem_cons.2 ⟨⟨a, List.mem_cons_self, hb⟩, fun b' hb' => ?_⟩
    obtain ⟨a', ha', hR⟩ := hbs b' hb'
    exact ⟨a', List.mem_cons_of_mem _ ha', hR⟩

/-- Handing a value on succeeds if each step does, with whatever value, and leaves what the next one
needs. -/
theorem Achieves.foldlM {f : β → α → Program β}
    (h : ∀ b, ∀ a ∈ as, ∀ c, P c → K c → (f b a).Achieves P c fun _ c' => K c') (hP : P c)
    (hK : K c) (b : β) : (as.foldlM f b).Achieves P c fun _ c' => K c' := by
  induction as generalizing b c with
  | nil => exact achieves_done hP hK
  | cons a rest ih =>
    rw [List.foldlM_cons]
    refine (h b a List.mem_cons_self c hP hK).bind fun b' _ _ hP' hK' => ?_
    exact ih (fun b a ha => h b a (List.mem_cons_of_mem _ ha)) hP' hK' b'

end

end Program

end ControlPlane
