import ControlPlane.Resource.Rule

/-!
# Comparing rules

Subnets and rules are compared regardless of order. Lists are sorted and then compared element by
element; rules are sorted by name, and their descriptions do not count.
-/

namespace ControlPlane

/-- Texts in ascending order. -/
def sortTexts (xs : List String) : List String :=
  xs.mergeSort fun a b => decide (a ≤ b)

/-- Whether two lists hold the same texts, regardless of order. -/
def sameTexts (a b : List String) : Bool := sortTexts a = sortTexts b

namespace RuleSpec

/-- Rules in ascending order of their names; rules of one name stay in order. -/
def sortByName (rules : List RuleSpec) : List RuleSpec :=
  rules.mergeSort fun a b => decide (a.name ≤ b.name)

/-- Whether two rules say the same, but for the description and the order of the subnets. -/
def agrees (x y : RuleSpec) : Bool :=
  x.name = y.name && x.index = y.index && x.action = y.action && sameTexts x.subnets y.subnets

/-- Whether two lists hold the same rules, regardless of order. -/
def sameRules (a b : List RuleSpec) : Bool :=
  a.length = b.length && ((sortByName a).zip (sortByName b)).all fun (x, y) => x.agrees y

end RuleSpec

end ControlPlane
