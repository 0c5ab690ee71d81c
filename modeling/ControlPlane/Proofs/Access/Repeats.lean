import ControlPlane.Proofs.Access.Comparison

/-!
# Rules with repeated names

Rules are sorted by name alone before they are compared, so rules of one name are compared in the
order that they came in. As long as rules of one name say the same (`RuleSpec.Unambiguous`) this
does not matter, and the comparison decides whether two lists have the same contents, in any order
and each as often. Where two rules of one name differ, it tells a list apart from itself in another
order (`exists_reordered_of_ambiguous`). `sameRules_orderless_iff` puts both together: the order of
rules is ignored exactly on lists that are unambiguous. The order of subnets and the descriptions
are ignored on all lists.
-/

namespace ControlPlane.RuleSpec

/-- Rules of one name all say the same. -/
def Unambiguous (rules : List RuleSpec) : Prop :=
  ∀ x ∈ rules, ∀ y ∈ rules, x.name = y.name → x.content = y.content

/-- The second rule says what the first one does, with the subnets in any order. The descriptions
may be others. -/
structure Restates (x y : RuleSpec) : Prop where
  name : y.name = x.name
  index : y.index = x.index
  action : y.action = x.action
  subnets : y.subnets.Perm x.subnets

/-- The contents of rules, in no order, and each as often as there are rules with it. -/
def contents (rules : List RuleSpec) : Multiset (String × Int × RuleAction × Multiset String) :=
  rules.map content

variable {xs xs' ys : List RuleSpec}

/-- The contents of two lists of rules are the same multiset exactly when one list is a permutation
of the other up to the order of subnets. -/
theorem contents_eq_iff : contents xs = contents ys ↔ (xs.map content).Perm (ys.map content) :=
  Multiset.coe_eq_coe

/-! ## Contents only -/

/-- Two lists that are found the same are found the same as any other. -/
theorem sameRules_congr (h : sameRules xs xs' = true) (ys : List RuleSpec) :
    sameRules xs' ys = sameRules xs ys ∧ sameRules ys xs' = sameRules ys xs := by
  have hnames := sameRules_iff.1 h
  constructor
  · rw [Bool.eq_iff_iff, sameRules_iff, sameRules_iff]
    simp only [hnames]
  · rw [Bool.eq_iff_iff, sameRules_iff, sameRules_iff]
    simp only [hnames]

/-- Rules that are restated one by one keep their contents. -/
theorem map_content_of_restates (h : List.Forall₂ Restates xs xs') :
    xs'.map content = xs.map content := by
  induction h with
  | nil => rfl
  | cons hxy _ ih =>
    have hcontent := content_eq_iff.2 ⟨hxy.name, hxy.index, hxy.action, hxy.subnets⟩
    simp only [List.map_cons, hcontent, ih]

/-- Rules are found the same as what restates them. -/
theorem sameRules_of_restates (h : List.Forall₂ Restates xs xs') : sameRules xs xs' = true := by
  apply sameRules_iff.2
  intro name
  rw [contentsOf_eq, contentsOf_eq, map_content_of_restates h]

/-- To be found the same is an equivalence of lists of rules. -/
theorem sameRules_equivalence : Equivalence fun xs ys : List RuleSpec => sameRules xs ys = true where
  refl := sameRules_refl
  symm h := sameRules_iff.2 fun name => (sameRules_iff.1 h name).symm
  trans h h' := sameRules_iff.2 fun name =>
    (sameRules_iff.1 h name).trans (sameRules_iff.1 h' name)

/-! ## Unambiguous rules -/

/-- An unambiguous list has one content of each name. -/
theorem Unambiguous.content_eq (h : Unambiguous xs) {name : String}
    {c d : String × Int × RuleAction × Multiset String} (hc : c ∈ contentsOf name xs)
    (hd : d ∈ contentsOf name xs) : c = d := by
  simp only [contentsOf, List.mem_map, List.mem_filter, decide_eq_true_eq] at hc hd
  obtain ⟨x, ⟨hx, hxname⟩, rfl⟩ := hc
  obtain ⟨y, ⟨hy, hyname⟩, rfl⟩ := hd
  exact h x hx y hy (hxname.trans hyname.symm)

/-- What has the same contents as an unambiguous list has them in the same order, name by name. -/
theorem Unambiguous.sameRules_of_perm (h : Unambiguous xs)
    (hperm : (xs.map content).Perm (ys.map content)) : sameRules xs ys = true := by
  apply sameRules_iff.2
  intro name
  have hname : (contentsOf name xs).Perm (contentsOf name ys) := by
    rw [contentsOf_eq, contentsOf_eq]
    exact hperm.filter _
  -- All that is listed is one content, so any order of it is the same.
  have hany : ∀ cs : List (String × Int × RuleAction × Multiset String),
      cs.Pairwise fun _ _ => True := fun cs => List.pairwise_of_forall fun _ _ => trivial
  refine hname.eq_of_pairwise (fun c d hc hd _ _ => ?_) (hany _) (hany _)
  exact h.content_eq hc (hname.mem_iff.2 hd)

/-- On an unambiguous list the comparison decides equality as multisets. -/
theorem Unambiguous.sameRules_iff_perm (h : Unambiguous xs) (ys : List RuleSpec) :
    sameRules xs ys = true ↔ (xs.map content).Perm (ys.map content) :=
  ⟨perm_of_sameRules, h.sameRules_of_perm⟩

/-! ## Ambiguous rules -/

/-- The rules with a given content, and then the others. -/
def front (c : String × Int × RuleAction × Multiset String) (rules : List RuleSpec) :
    List RuleSpec :=
  rules.filter (·.content = c) ++ rules.filter (·.content ≠ c)

/-- Moving the rules of one content to the front loses none and adds none. -/
theorem front_perm (c : String × Int × RuleAction × Multiset String) (rules : List RuleSpec) :
    (front c rules).Perm rules := by
  have hsplit := List.filter_append_perm (fun r : RuleSpec => decide (r.content = c)) rules
  simpa only [front, decide_not] using hsplit

/-- A rule whose content is brought to the front is the first of its name. -/
theorem head?_contentsOf_front {x : RuleSpec} (hx : x ∈ xs) :
    (contentsOf x.name (front x.content xs)).head? = some x.content := by
  have hnamed : ∀ r : RuleSpec, r.content = x.content → r.name = x.name := fun r hr =>
    (content_eq_iff.1 hr).1
  -- Rules with the content come first, and all of them have the name.
  have hfront : contentsOf x.name (front x.content xs) =
      (xs.filter (·.content = x.content)).map content ++
        contentsOf x.name (xs.filter (·.content ≠ x.content)) := by
    unfold front contentsOf
    rw [List.filter_append, List.map_append, List.filter_eq_self.2]
    intro r hr
    simp only [List.mem_filter, decide_eq_true_eq] at hr
    exact decide_eq_true (hnamed r hr.2)
  rw [hfront]
  cases hsame : xs.filter (·.content = x.content) with
  | nil => simpa using List.filter_eq_nil_iff.1 hsame x hx
  | cons r rs =>
    have hr : r ∈ xs.filter (·.content = x.content) := hsame ▸ List.mem_cons_self
    simp only [List.mem_filter, decide_eq_true_eq] at hr
    simp only [List.map_cons, List.cons_append, List.head?_cons, hr.2]

/-- An ambiguous list is told apart from itself in another order. -/
theorem exists_reordered_of_ambiguous (h : ¬Unambiguous xs) :
    ∃ ys, ys.Perm xs ∧ sameRules xs ys = false := by
  unfold Unambiguous at h
  push Not at h
  obtain ⟨x, hx, y, hy, hname, hcontent⟩ := h
  -- Were neither of the two orders told apart from `xs`, they would not be told apart themselves.
  have hfront : ¬(sameRules xs (front x.content xs) = true ∧
      sameRules xs (front y.content xs) = true) := by
    rintro ⟨hsame, hsame'⟩
    have heads : contentsOf x.name (front x.content xs) = contentsOf x.name (front y.content xs) :=
      (sameRules_iff.1 hsame x.name).symm.trans (sameRules_iff.1 hsame' x.name)
    have hhead := congrArg List.head? heads
    rw [head?_contentsOf_front hx, hname, head?_contentsOf_front hy] at hhead
    exact hcontent (Option.some.inj hhead)
  by_cases hsame : sameRules xs (front x.content xs) = true
  · refine ⟨front y.content xs, front_perm _ _, ?_⟩
    simpa using fun hsame' => hfront ⟨hsame, hsame'⟩
  · exact ⟨front x.content xs, front_perm _ _, Bool.eq_false_iff.2 hsame⟩

/-! ## Both -/

/-- When comparing rules ignores their order. It decides whether lists of rules have the same
contents, each as often, exactly if rules of one name say the same; and exactly then the answer is
the same for every order of the list. On all lists it decides whether they have the same contents
with those of each name in the same order; the order of subnets and the descriptions are ignored,
and to be found the same is an equivalence. -/
theorem sameRules_orderless_iff (xs : List RuleSpec) :
    ((∀ ys, sameRules xs ys = true ↔ contents xs = contents ys) ↔ Unambiguous xs) ∧
    ((∀ xs' : List RuleSpec, xs'.Perm xs → ∀ ys,
        sameRules xs' ys = sameRules xs ys ∧ sameRules ys xs' = sameRules ys xs) ↔
      Unambiguous xs) ∧
    (∀ ys, sameRules xs ys = true ↔
      contents xs = contents ys ∧ ∀ name, contentsOf name xs = contentsOf name ys) ∧
    (∀ xs', List.Forall₂ Restates xs xs' → ∀ ys,
      sameRules xs' ys = sameRules xs ys ∧ sameRules ys xs' = sameRules ys xs) ∧
    Equivalence fun xs ys : List RuleSpec => sameRules xs ys = true := by
  simp only [contents_eq_iff]
  refine ⟨⟨?decides, fun h => h.sameRules_iff_perm⟩, ⟨?orderless, ?reordered⟩, ?exactly, ?restated,
    sameRules_equivalence⟩
  case decides =>
    intro h
    -- Some permutation of an ambiguous list has the same contents and is told apart from it.
    by_contra hambiguous
    obtain ⟨ys, hperm, hsame⟩ := exists_reordered_of_ambiguous hambiguous
    rw [(h ys).2 (hperm.symm.map content)] at hsame
    cases hsame
  case orderless =>
    intro h
    by_contra hambiguous
    obtain ⟨ys, hperm, hsame⟩ := exists_reordered_of_ambiguous hambiguous
    rw [(h ys hperm xs).2, sameRules_refl] at hsame
    cases hsame
  case reordered =>
    intro h xs' hperm ys
    exact sameRules_congr (h.sameRules_of_perm (hperm.symm.map content)) ys
  case exactly =>
    intro ys
    rw [sameRules_iff]
    exact ⟨fun h => ⟨perm_of_sameRules (sameRules_iff.2 h), h⟩, fun h => h.2⟩
  case restated =>
    intro xs' h
    exact sameRules_congr (sameRules_of_restates h)

/-- Two rules of one name that differ in their index. -/
def sampleRepeated : List RuleSpec :=
  [⟨"office", 0, .allow, ["10.0.0.0/8"], ""⟩, ⟨"office", 1, .allow, ["10.0.0.0/8"], ""⟩]

/-- The other way around, the sample has the same contents and is told apart from itself. -/
theorem sample_repeated_told_apart :
    contents sampleRepeated = contents sampleRepeated.reverse ∧
      sameRules sampleRepeated sampleRepeated.reverse = false := by
  have hfirst : contentsOf "office" sampleRepeated ≠
      contentsOf "office" sampleRepeated.reverse := by
    simp [contentsOf, sampleRepeated, content]
  have hexactly := (sameRules_orderless_iff sampleRepeated).2.2.1 sampleRepeated.reverse
  refine ⟨contents_eq_iff.2 ((List.reverse_perm sampleRepeated).symm.map content), ?_⟩
  rw [Bool.eq_false_iff]
  intro hsame
  exact hfirst ((hexactly.1 hsame).2 "office")

end ControlPlane.RuleSpec
