import ControlPlane.Schema.Issue

/-!
# Checked results

A checked result is a model or the issues that kept it from being read. Combining results with `<*>`
keeps the issues of both sides, left before right; `Checked.refine` adds a check that only runs on a
valid result.
-/

namespace ControlPlane.Schema

/-- A valid result, or the issues found. -/
inductive Checked (α : Type)
  | valid (a : α)
  | invalid (issues : List Issue)
  deriving Repr, DecidableEq

namespace Checked

/-- One issue at the value itself. -/
def problem (p : Problem) : Checked α := invalid [⟨[], p⟩]

/-- Applies a function to a valid result. -/
def map (f : α → β) : Checked α → Checked β
  | valid a => valid (f a)
  | invalid issues => invalid issues

/-- Applies a checked function to a checked argument and keeps the issues of both. -/
def seq : Checked (α → β) → Checked α → Checked β
  | valid f, r => r.map f
  | invalid issues, valid _ => invalid issues
  | invalid issues, invalid more => invalid (issues ++ more)

instance : Applicative Checked where
  pure := valid
  map := map
  seq f r := seq f (r ())

/-- A further check of a valid result. -/
def refine (r : Checked α) (f : α → Checked β) : Checked β :=
  match r with
  | valid a => f a
  | invalid issues => invalid issues

/-- The same result with its issues one step further inside. -/
def under (step : Step) : Checked α → Checked α
  | valid a => valid a
  | invalid issues => invalid (issues.map fun i => ⟨step :: i.place, i.problem⟩)

/-- The results of a list, or the issues of all its elements. -/
def all : List (Checked α) → Checked (List α)
  | [] => valid []
  | r :: rest => List.cons <$> r <*> all rest

end Checked

end ControlPlane.Schema
