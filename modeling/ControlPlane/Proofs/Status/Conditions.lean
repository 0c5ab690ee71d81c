import ControlPlane.Status

/-!
# Setting a condition

`ClusterStatus.Shows` says all that setting a condition does to a status: the condition is there,
with the time of its last transition, and everything else is as it was. The place of a condition
among the others does not change either, and a new one comes last.
-/

namespace ControlPlane

namespace ClusterStatus

/-- Since when a condition holds, or does not, once it is set: since before if one of its type was
there and told the same, and else from now on. -/
def sinceAfter (old : Option Condition) (condition : Condition) : Timestamp :=
  match old with
  | some c => if c.holds = condition.holds then c.since else condition.since
  | none => condition.since

/-- A status is another one with a condition set in it. -/
structure Shows (old : ClusterStatus) (condition : Condition) (s : ClusterStatus) : Prop where
  current : s.condition? condition.type = some { condition with
    since := sinceAfter (old.condition? condition.type) condition }
  others : s.conditions.filter (·.type ≠ condition.type) =
    old.conditions.filter (·.type ≠ condition.type)
  types : s.conditions.map (·.type) =
    if condition.type ∈ old.conditions.map (·.type) then old.conditions.map (·.type)
    else old.conditions.map (·.type) ++ [condition.type]
  address : s.address = old.address
  secondaryAddresses : s.secondaryAddresses = old.secondaryAddresses

section

variable (condition : Condition) (conditions : List Condition)

/-- The condition that is put in the place of one of its type. -/
theorem place_cons_of_eq {existing : Condition} (h : existing.type = condition.type) :
    place condition (existing :: conditions) =
      { condition with since := sinceAfter (some existing) condition } :: conditions := by
  unfold place sinceAfter
  rw [if_pos h]
  dsimp only
  split <;> rfl

/-- A condition is placed behind the conditions of other types. -/
theorem place_cons_of_ne {existing : Condition} (h : existing.type ≠ condition.type) :
    place condition (existing :: conditions) = existing :: place condition conditions :=
  if_neg h

/-- The condition that is placed is the one that its type then finds, since the time that the rule
for it gives. -/
theorem find?_place : (place condition conditions).find? (·.type = condition.type) =
    some { condition with
      since := sinceAfter (conditions.find? (·.type = condition.type)) condition } := by
  induction conditions with
  | nil => simp [place, sinceAfter]
  | cons existing rest ih =>
    by_cases h : existing.type = condition.type
    · rw [place_cons_of_eq condition rest h]
      simp [h]
    · rw [place_cons_of_ne condition rest h]
      simpa [h] using ih

/-- Placing a condition leaves those of all other types as they were. -/
theorem filter_place : (place condition conditions).filter (·.type ≠ condition.type) =
    conditions.filter (·.type ≠ condition.type) := by
  induction conditions with
  | nil => simp [place]
  | cons existing rest ih =>
    by_cases h : existing.type = condition.type
    · rw [place_cons_of_eq condition rest h]
      simp [h]
    · rw [place_cons_of_ne condition rest h]
      simpa [h] using ih

/-- Placing a condition adds its type at the end, unless it is there already. -/
theorem map_type_place : (place condition conditions).map (·.type) =
    if condition.type ∈ conditions.map (·.type) then conditions.map (·.type)
    else conditions.map (·.type) ++ [condition.type] := by
  induction conditions with
  | nil => rfl
  | cons existing rest ih =>
    by_cases h : existing.type = condition.type
    · rw [place_cons_of_eq condition rest h, List.map_cons, List.map_cons, h,
        if_pos List.mem_cons_self]
    · -- The type is not that of the first condition, and so is looked for among the rest.
      have hmem : condition.type ∈ (existing :: rest).map (·.type) ↔
          condition.type ∈ rest.map (·.type) := by
        rw [List.map_cons, List.mem_cons, or_iff_right (Ne.symm h)]
      rw [place_cons_of_ne condition rest h, List.map_cons, ih]
      simp only [hmem]
      split <;> rfl

end

/-- Setting a condition changes that condition and nothing else. -/
theorem setCondition_shows (s : ClusterStatus) (condition : Condition) :
    s.Shows condition (s.setCondition condition) where
  current := find?_place condition s.conditions
  others := filter_place condition s.conditions
  types := map_type_place condition s.conditions
  address := rfl
  secondaryAddresses := rfl

end ClusterStatus

end ControlPlane
