import ControlPlane.Detail
import ControlPlane.Number.Shortest
import ControlPlane.Value

/-!
# Issues found in data

Reading data into a model does not stop at the first fault. Each fault is an issue: the place of the
faulty part and what is wrong with it.
-/

namespace ControlPlane.Schema

/-- One step from a value into one of its parts. -/
inductive Step
  | key (k : Key)
  | index (i : Nat)
  deriving DecidableEq, Repr

/-- How a step is reported: by a number or by a text. Keys that are whole numbers of 64 bits keep
their number, and truth values count as zero and one. -/
def Step.label : Step → Int ⊕ String
  | key .null => .inr "None"
  | key (.bool b) => .inl (if b then 1 else 0)
  | key (.int n) =>
    if -0x8000000000000000 ≤ n ∧ n < 0x8000000000000000 then .inl n else .inr (toString n)
  | key (.real x) => .inr x.shortest
  | key (.text s) => .inr s
  | index i => .inl i

/-- What is wrong with a part. -/
inductive Problem
  | missing
  | notTable
  | notText
  | tooLong
  | patternMismatch
  | notList
  | notMember
  | notTruthWord
  | notTruth
  | notWholeText
  | notWhole
  | fractional
  | notFinite
  | notRealText
  | notReal
  | belowMinimum
  | aboveMaximum
  | notAbove
  | unknownKey
  | keyNotText
  | notPath
  | rejected (detail : Detail)
  deriving DecidableEq, Repr

/-- The code that a problem is reported under. -/
def Problem.code : Problem → String
  | missing => "missing"
  | notTable => "model_type"
  | notText => "string_type"
  | tooLong => "string_too_long"
  | patternMismatch => "string_pattern_mismatch"
  | notList => "list_type"
  | notMember => "enum"
  | notTruthWord => "bool_parsing"
  | notTruth => "bool_type"
  | notWholeText => "int_parsing"
  | notWhole => "int_type"
  | fractional => "int_from_float"
  | notFinite => "finite_number"
  | notRealText => "float_parsing"
  | notReal => "float_type"
  | belowMinimum => "greater_than_equal"
  | aboveMaximum => "less_than_equal"
  | notAbove => "greater_than"
  | unknownKey => "extra_forbidden"
  | keyNotText => "invalid_key"
  | notPath => "path_type"
  | rejected _ => "value_error"

/-- The words of a problem that has words of its own. -/
def Problem.words? : Problem → Option String
  | rejected detail => some ("Value error, " ++ detail.message)
  | _ => none

/-- A fault found in data: where, from the outside in, and what. -/
structure Issue where
  place : List Step
  problem : Problem
  deriving DecidableEq, Repr

end ControlPlane.Schema
