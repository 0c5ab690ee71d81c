import Mathlib.Data.List.TakeWhile
import ControlPlane.Zone

/-!
# The region in the name of a zone

`Zone.region` cuts the name of a zone at its last dash. What is cut off has no dash in it; a name
without any is left whole. So a zone belongs to a region if its name is that of the region with a
dash and more behind it, but no further dash (`Region.Includes`). All zones of a product that a
region considers are such zones, the one it falls back on among them.
-/

namespace ControlPlane

namespace Text

variable {sep : Char} {s before after : List Char}

/-- The part before the last separator, where no other one follows. -/
theorem beforeLast_append (h : sep ∉ after) :
    beforeLast sep (before ++ sep :: after) = before := by
  have hdrop : (before ++ sep :: after).reverse.dropWhile (· ≠ sep) = sep :: before.reverse := by
    rw [List.reverse_append, List.reverse_cons, List.append_assoc, List.singleton_append,
      List.dropWhile_append_of_pos]
    · exact List.dropWhile_cons_of_neg (by simp)
    · intro c hc
      exact decide_eq_true fun hsep => h (hsep ▸ List.mem_reverse.1 hc)
  unfold beforeLast
  rw [hdrop]
  exact List.reverse_reverse before

/-- Without a separator, all of the text is before it. -/
theorem beforeLast_of_not_mem (h : sep ∉ s) : beforeLast sep s = s := by
  have hdrop : s.reverse.dropWhile (· ≠ sep) = [] :=
    List.dropWhile_eq_nil_iff.2 fun c hc =>
      decide_eq_true fun hsep => h (hsep ▸ List.mem_reverse.1 hc)
  unfold beforeLast
  rw [hdrop]

/-- A text is cut at its last separator, or has none. -/
theorem beforeLast_eq_iff : beforeLast sep s = before ↔
    (∃ after, sep ∉ after ∧ s = before ++ sep :: after) ∨ sep ∉ s ∧ s = before := by
  constructor
  · rintro rfl
    by_cases hmem : sep ∈ s
    · obtain ⟨after, before, hs, hafter⟩ :=
        List.eq_append_cons_of_mem (List.mem_reverse.2 hmem)
      -- The last separator is the first one from behind.
      have hcut : s = before.reverse ++ sep :: after.reverse := by
        rw [← List.reverse_reverse s, hs]
        simp
      have hafter' : sep ∉ after.reverse := fun h => hafter (List.mem_reverse.1 h)
      refine .inl ⟨after.reverse, hafter', ?_⟩
      rw [hcut, beforeLast_append hafter']
    · exact .inr ⟨hmem, (beforeLast_of_not_mem hmem).symm⟩
  · rintro (⟨after, hafter, rfl⟩ | ⟨hmem, rfl⟩)
    · exact beforeLast_append hafter
    · exact beforeLast_of_not_mem hmem

end Text

namespace Region

variable {r : Region} {zone : String}

/-- Up to its last dash, the name of a zone is the region's. A name without any dash counts as a
whole. -/
def Includes (r : Region) (zone : String) : Prop :=
  (∃ number, '-' ∉ number ∧ zone.toList = r.name.toList ++ '-' :: number) ∨
    '-' ∉ zone.toList ∧ zone = r.name

/-- A region includes the zones that its name is the region of. -/
theorem includes_iff : r.Includes zone ↔ Zone.region zone = r.name := by
  have hname : Zone.region zone = r.name ↔ Text.beforeLast '-' zone.toList = r.name.toList := by
    unfold Zone.region
    rw [← String.toList_inj, String.toList_ofList]
  rw [hname, Text.beforeLast_eq_iff, String.toList_inj]
  exact Iff.rfl

/-- The default zone of a region is one of its own. -/
theorem includes_defaultZone (r : Region) : r.Includes r.defaultZone :=
  .inl ⟨['1'], by decide, by rw [defaultZone, String.toList_append]; rfl⟩

/-- Whatever zones a product is advertised in, those that a region considers are its own. -/
theorem includes_of_mem_productZones {supported : List String}
    (h : zone ∈ r.productZones supported) : r.Includes zone := by
  unfold productZones at h
  dsimp only at h
  split at h
  · rw [List.mem_singleton.1 h]
    exact r.includes_defaultZone
  · exact includes_iff.2 (of_decide_eq_true (List.mem_filter.1 h).2)

end Region

end ControlPlane
