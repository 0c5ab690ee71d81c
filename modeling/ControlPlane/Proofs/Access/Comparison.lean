import Mathlib.Data.Multiset.Defs
import ControlPlane.Access.Compare

/-!
# What comparing sorted lists decides

Sorting by an order forgets the order that elements came in and nothing else, so comparing sorted
texts decides whether two lists are permutations of each other (`sameTexts_iff`). Rules are sorted
by name alone, and rules of one name stay as they came; so `RuleSpec.sameRules` decides whether the
rules of each name have the same contents in the same order (`RuleSpec.sameRules_iff`). It may tell
apart what is the same, but what it finds the same has the same contents
(`RuleSpec.perm_of_sameRules`), also where names are repeated.
-/

namespace ControlPlane

variable {α : Type}

/-- Lists with the same elements are sorted to the same list, if no two of the elements stand at one
place of the order. -/
theorem mergeSort_eq_of_perm {le : α → α → Bool}
    (trans : ∀ a b c, le a b = true → le b c = true → le a c = true)
    (total : ∀ a b, (le a b || le b a) = true) {xs ys : List α}
    (antisymm : ∀ a ∈ xs, ∀ b ∈ xs, le a b = true → le b a = true → a = b) (h : xs.Perm ys) :
    xs.mergeSort le = ys.mergeSort le := by
  have hx : (xs.mergeSort le).Perm xs := List.mergeSort_perm xs le
  have hy : (ys.mergeSort le).Perm ys := List.mergeSort_perm ys le
  have hperm : (xs.mergeSort le).Perm (ys.mergeSort le) := by
    calc (xs.mergeSort le).Perm xs := hx
      _ |>.Perm ys := h
      _ |>.Perm (ys.mergeSort le) := hy.symm
  -- Two sorted lists with the same members are the same.
  refine List.Perm.eq_of_pairwise ?_ (List.pairwise_mergeSort trans total xs)
    (List.pairwise_mergeSort trans total ys) hperm
  intro a b ha hb
  exact antisymm a (hx.mem_iff.1 ha) b (h.mem_iff.2 (hy.mem_iff.1 hb))

section

variable {key : α → String} {xs ys : List α}

/-- Lists with the same elements of each key have the same elements. -/
theorem mem_iff_of_filter_eq (h : ∀ k, xs.filter (key · = k) = ys.filter (key · = k)) (a : α) :
    a ∈ xs ↔ a ∈ ys := by
  have hkey := congrArg (a ∈ ·) (h (key a))
  simpa only [List.mem_filter, decide_true, and_true, eq_iff_iff] using hkey

/-- The first element of a sorted list has the least key. -/
theorem key_le_of_mem {x y : α} (hx : (x :: xs).Pairwise fun a b => key a ≤ key b)
    (hy : y ∈ x :: xs) : key x ≤ key y := by
  rcases List.mem_cons.1 hy with heq | hmem
  · subst heq
    exact String.le_refl _
  · exact List.rel_of_pairwise_cons hx hmem

/-- A list that is sorted by a key is told by its elements of each key. -/
theorem eq_of_filter_eq (hx : xs.Pairwise fun a b => key a ≤ key b)
    (hy : ys.Pairwise fun a b => key a ≤ key b)
    (h : ∀ k, xs.filter (key · = k) = ys.filter (key · = k)) : xs = ys := by
  have hmem := mem_iff_of_filter_eq h
  induction xs generalizing ys with
  | nil => exact (List.eq_nil_iff_forall_not_mem.2 fun y hy => nomatch (hmem y).2 hy).symm
  | cons x xs ih =>
    cases ys with
    | nil => exact nomatch (hmem x).1 List.mem_cons_self
    | cons y ys =>
      -- Both heads have the least key of their lists, and the lists have the same members.
      have hkey : key y = key x :=
        String.le_antisymm (key_le_of_mem hy ((hmem x).1 List.mem_cons_self))
          (key_le_of_mem hx ((hmem y).2 List.mem_cons_self))
      -- Among the entries with that key the heads are the first.
      have hhead : x :: xs.filter (key · = key x) = y :: ys.filter (key · = key x) := by
        have hfilter := h (key x)
        rwa [List.filter_cons, List.filter_cons, hkey, decide_eq_true rfl, if_pos rfl,
          if_pos rfl] at hfilter
      obtain ⟨rfl, htail⟩ := List.cons.inj hhead
      have hrest : ∀ k, xs.filter (key · = k) = ys.filter (key · = k) := by
        intro k
        by_cases hk : key x = k
        · rw [← hk]
          exact htail
        · have hfilter := h k
          rwa [List.filter_cons, List.filter_cons, decide_eq_false hk, if_neg Bool.false_ne_true,
            if_neg Bool.false_ne_true] at hfilter
      rw [ih hx.of_cons hy.of_cons hrest (mem_iff_of_filter_eq hrest)]

end

/-! ## Texts -/

/-- Sorting texts loses none and adds none. -/
theorem sortTexts_perm (xs : List String) : (sortTexts xs).Perm xs := List.mergeSort_perm xs _

/-- Lists of the same texts are sorted alike. -/
theorem sortTexts_eq_of_perm {xs ys : List String} (h : xs.Perm ys) :
    sortTexts xs = sortTexts ys := by
  refine mergeSort_eq_of_perm ?trans ?total ?antisymm h
  case trans =>
    intro a b c hab hbc
    rw [decide_eq_true_eq] at hab hbc ⊢
    exact String.le_trans hab hbc
  case total =>
    intro a b
    rw [Bool.or_eq_true, decide_eq_true_eq, decide_eq_true_eq]
    exact String.le_total a b
  case antisymm =>
    intro a _ b _ hab hba
    rw [decide_eq_true_eq] at hab hba
    exact String.le_antisymm hab hba

/-- Sorting texts forgets the order that they came in and nothing else. -/
theorem sortTexts_eq_iff {xs ys : List String} : sortTexts xs = sortTexts ys ↔ xs.Perm ys := by
  constructor
  · intro h
    calc xs.Perm (sortTexts xs) := (sortTexts_perm xs).symm
      _ = sortTexts ys := h
      _ |>.Perm ys := sortTexts_perm ys
  · exact sortTexts_eq_of_perm

/-- Texts are found the same exactly if they are, in any order and each as often. -/
theorem sameTexts_iff {xs ys : List String} : sameTexts xs ys = true ↔ xs.Perm ys := by
  unfold sameTexts
  rw [decide_eq_true_eq, sortTexts_eq_iff]

/-! ## Rules -/

namespace RuleSpec

/-- What counts of a rule: its name, its place, what it does, and its subnets in any order. -/
def content (r : RuleSpec) : String × Int × RuleAction × Multiset String :=
  (r.name, r.index, r.action, (r.subnets : Multiset String))

/-- Two rules have the same content if they agree in all that is compared, with their subnets in any
order. -/
theorem content_eq_iff {x y : RuleSpec} : x.content = y.content ↔
    x.name = y.name ∧ x.index = y.index ∧ x.action = y.action ∧ x.subnets.Perm y.subnets := by
  unfold content
  rw [Prod.mk.injEq, Prod.mk.injEq, Prod.mk.injEq, Multiset.coe_eq_coe]

/-- The comparison of two rules decides whether their contents are the same. -/
theorem agrees_iff {x y : RuleSpec} : x.agrees y = true ↔ x.content = y.content := by
  rw [content_eq_iff]
  unfold agrees
  simp only [Bool.and_eq_true, decide_eq_true_eq, sameTexts_iff, and_assoc]

/-- Rules agree pair by pair exactly if they have the same contents. -/
theorem all_agrees_iff {xs ys : List RuleSpec} (hlen : xs.length = ys.length) :
    (xs.zip ys).all (fun (x, y) => x.agrees y) = true ↔ xs.map content = ys.map content := by
  induction xs generalizing ys with
  | nil =>
    rw [List.length_eq_zero_iff.1 hlen.symm]
    exact iff_of_true rfl rfl
  | cons x xs ih =>
    cases ys with
    | nil => cases hlen
    | cons y ys =>
      rw [List.zip_cons_cons, List.all_cons, Bool.and_eq_true, agrees_iff,
        ih (Nat.succ.inj hlen), List.map_cons, List.map_cons, List.cons.injEq]

/-! ### Sorted rules -/

/-- Sorting rules loses none and adds none. -/
theorem sortByName_perm (rules : List RuleSpec) : (sortByName rules).Perm rules :=
  List.mergeSort_perm rules _

/-- The order by name is transitive. -/
private theorem byName_trans (a b c : RuleSpec) (hab : decide (a.name ≤ b.name) = true)
    (hbc : decide (b.name ≤ c.name) = true) : decide (a.name ≤ c.name) = true :=
  decide_eq_true (String.le_trans (of_decide_eq_true hab) (of_decide_eq_true hbc))

/-- The order by name is total. -/
private theorem byName_total (a b : RuleSpec) :
    (decide (a.name ≤ b.name) || decide (b.name ≤ a.name)) = true := by
  rw [Bool.or_eq_true, decide_eq_true_eq, decide_eq_true_eq]
  exact String.le_total a.name b.name

/-- Sorted rules have their names in order. -/
theorem pairwise_sortByName (rules : List RuleSpec) :
    (sortByName rules).Pairwise fun a b => a.name ≤ b.name :=
  (List.pairwise_mergeSort byName_trans byName_total rules).imp of_decide_eq_true

/-- Rules are found the same exactly if they have the same contents once they are sorted. -/
theorem sameRules_iff_sorted {xs ys : List RuleSpec} :
    sameRules xs ys = true ↔ (sortByName xs).map content = (sortByName ys).map content := by
  unfold sameRules
  rw [Bool.and_eq_true, decide_eq_true_eq, ← (sortByName_perm xs).length_eq,
    ← (sortByName_perm ys).length_eq]
  constructor
  · rintro ⟨hlen, hall⟩
    exact (all_agrees_iff hlen).1 hall
  · intro h
    have hlen := congrArg List.length h
    rw [List.length_map, List.length_map] at hlen
    exact ⟨hlen, (all_agrees_iff hlen).2 h⟩

/-- Rules that are found the same have the same contents, each as often. -/
theorem perm_of_sameRules {xs ys : List RuleSpec} (h : sameRules xs ys = true) :
    (xs.map content).Perm (ys.map content) := by
  calc (xs.map content).Perm ((sortByName xs).map content) := ((sortByName_perm xs).map content).symm
    _ = (sortByName ys).map content := sameRules_iff_sorted.1 h
    _ |>.Perm (ys.map content) := (sortByName_perm ys).map content

/-! ### Rules of one name -/

/-- The contents of the rules of one name, in order. -/
def contentsOf (name : String) (rules : List RuleSpec) :
    List (String × Int × RuleAction × Multiset String) :=
  (rules.filter (·.name = name)).map content

/-- The contents of the rules of a name are the contents with that name. -/
theorem contentsOf_eq (name : String) (rules : List RuleSpec) :
    contentsOf name rules = (rules.map content).filter (·.1 = name) := by
  rw [List.filter_map]
  rfl

/-- Sorting leaves the rules of one name in order. -/
theorem contentsOf_sortByName (name : String) (rules : List RuleSpec) :
    contentsOf name (sortByName rules) = contentsOf name rules := by
  have hequal : (rules.filter (·.name = name)).Pairwise
      fun a b => decide (a.name ≤ b.name) = true := by
    refine List.pairwise_of_forall_mem_list fun a ha b hb => ?_
    rw [of_decide_eq_true (List.mem_filter.1 ha).2, of_decide_eq_true (List.mem_filter.1 hb).2]
    exact decide_eq_true (String.le_refl name)
  have hsub : (rules.filter (·.name = name)).Sublist (sortByName rules) :=
    List.sublist_mergeSort byName_trans byName_total hequal List.filter_sublist
  -- The sorted list has no more of the name.
  have hsub' : (rules.filter (·.name = name)).Sublist
      ((sortByName rules).filter (·.name = name)) := by
    have hfilter := hsub.filter (fun r => decide (r.name = name))
    rw [List.filter_filter] at hfilter
    simpa only [Bool.and_self] using hfilter
  have hlen := ((sortByName_perm rules).filter fun r => decide (r.name = name)).length_eq
  unfold contentsOf
  rw [hsub'.eq_of_length hlen.symm]

/-- Rules are found the same exactly if those of each name have the same contents, in order. -/
theorem sameRules_iff {xs ys : List RuleSpec} :
    sameRules xs ys = true ↔ ∀ name, contentsOf name xs = contentsOf name ys := by
  rw [sameRules_iff_sorted]
  constructor
  · intro h name
    calc contentsOf name xs = contentsOf name (sortByName xs) := (contentsOf_sortByName name xs).symm
      _ = contentsOf name (sortByName ys) := by rw [contentsOf_eq, h, ← contentsOf_eq]
      _ = contentsOf name ys := contentsOf_sortByName name ys
  · intro h
    refine @eq_of_filter_eq _ Prod.fst _ _ ?_ ?_ fun name => ?_
    · exact List.pairwise_map.2 (pairwise_sortByName xs)
    · exact List.pairwise_map.2 (pairwise_sortByName ys)
    · rw [← contentsOf_eq, ← contentsOf_eq, contentsOf_sortByName, contentsOf_sortByName, h]

/-- Rules are found the same as themselves. -/
theorem sameRules_refl (xs : List RuleSpec) : sameRules xs xs = true :=
  sameRules_iff.2 fun _ => rfl

end RuleSpec

end ControlPlane
