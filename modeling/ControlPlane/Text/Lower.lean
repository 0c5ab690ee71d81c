import ControlPlane.Text.CaseTable

/-!
# Lower case

Unicode lower-casing of a text. Every letter maps by itself, but for two: `İ` becomes two
characters, and a capital sigma takes its final form after a letter and before none, where the
characters of `caseIgnorableRanges` do not count as neighbours.
-/

namespace ControlPlane.Text

/-- Whether a number lies in one of the ranges, ends included. -/
def inRanges (ranges : List (Nat × Nat)) (n : Nat) : Bool :=
  ranges.any fun r => decide (r.1 ≤ n) && decide (n ≤ r.2)

/-- Whether a character is a letter with case. -/
def isCased (c : Char) : Bool :=
  if c.toNat < 128 then c.isAlpha else inRanges casedRanges c.toNat

/-- Whether a character is skipped when a letter looks for its neighbours. -/
def isCaseIgnorable (c : Char) : Bool :=
  inRanges caseIgnorableRanges c.toNat

/-- Whether a run of letters holds the code point. -/
def CaseRun.holds (r : CaseRun) (n : Nat) : Bool :=
  decide (r.first ≤ n) && decide (n ≤ r.last) && (n - r.first) % r.stride = 0

/-- The lower-case form of a character, for those that have a single one. -/
def lowerChar (c : Char) : Char :=
  if c.toNat < 128 then c.toLower
  else match lowerRuns.find? (·.holds c.toNat) with
    | some r => Char.ofNat (c.toNat + r.shift).toNat
    | none => c

/-- Whether the first character that counts, if any, is a letter with case. -/
def meetsLetter (s : List Char) : Bool :=
  (s.find? fun c => !isCaseIgnorable c).any isCased

/-- Lower-cases the characters of `rest`; `before` holds those to the left, nearest first. -/
def lowerFrom (before : List Char) : List Char → List Char
  | [] => []
  | c :: rest =>
    let here :=
      if c = 'Σ' then [if meetsLetter before && !meetsLetter rest then 'ς' else 'σ']
      else if c = 'İ' then ['i', '\u0307']
      else [lowerChar c]
    here ++ lowerFrom (c :: before) rest

/-- A text in lower case. -/
def lower (s : String) : String :=
  String.ofList (lowerFrom [] s.toList)

end ControlPlane.Text
