import ControlPlane.Number.Binary64
import ControlPlane.Text.Blank

/-!
# Number literals

The texts read as numbers. Digits are ASCII and may be grouped by single underscores between two of
them. `wholeNumber?` reads an optional sign, digits, and a fraction of zeros; `realNumber?` reads
the usual decimal and exponent forms and the names of the values that are not finite. White space
around a literal does not count.
-/

namespace ControlPlane.Literal

/-- The value of a string of digits in a base; digits above nine are letters. -/
def digitsValue (base : Nat) (s : List Char) : Nat :=
  s.foldl (fun acc c => acc * base + digitValue c) 0
where
  /-- The value of one digit. -/
  digitValue (c : Char) : Nat :=
    if c.isDigit then c.toNat - '0'.toNat else c.toLower.toNat - 'a'.toNat + 10

/-- Whether a character is a hexadecimal digit, in either letter case. -/
def isHexDigit (c : Char) : Bool :=
  c.isDigit || ('a' ≤ c && c ≤ 'f') || ('A' ≤ c && c ≤ 'F')

/-- Removes grouping underscores: each must stand between two digits. `afterDigit` tells whether the
character on the left is a digit. -/
def ungroup : (afterDigit : Bool) → List Char → Option (List Char)
  | _, [] => some []
  | afterDigit, '_' :: c :: rest =>
    if afterDigit && c.isDigit then (ungroup true rest).map (c :: ·) else none
  | _, c :: rest => if c = '_' then none else (ungroup c.isDigit rest).map (c :: ·)

/-- A literal's sign, `true` for minus, and the text after it. -/
def splitSign : List Char → Bool × List Char
  | '-' :: rest => (true, rest)
  | '+' :: rest => (false, rest)
  | s => (false, s)

/-- An integer with a sign. -/
def signed (negative : Bool) (n : Nat) : Int :=
  if negative then -n else n

/-- Without a fraction that holds zeros only. -/
def dropZeroFraction (s : List Char) : List Char :=
  match s.dropWhile (· ≠ '.') with
  | '.' :: fraction => if fraction.all (· = '0') then s.takeWhile (· ≠ '.') else s
  | _ => s

/-- The whole number that a text denotes. -/
def wholeNumber? (s : String) : Option Int := do
  let body := dropZeroFraction (Text.trimBoth Text.isWhite s.toList)
  let digits ← ungroup false (splitSign body).2
  if digits ≠ [] ∧ digits.all Char.isDigit then
    some (signed (splitSign body).1 (digitsValue 10 digits))
  else none

/-- An exponent: `e`, an optional sign and digits; zero if the text is empty. -/
def exponent? : List Char → Option Int
  | [] => some 0
  | c :: rest =>
    let (negative, digits) := splitSign rest
    if (c = 'e' ∨ c = 'E') ∧ digits ≠ [] ∧ digits.all Char.isDigit then
      some (signed negative (digitsValue 10 digits))
    else none

/-- An unsigned decimal without grouping: digits before or after a point, or both, then perhaps an
exponent. -/
def unsignedReal? (negative : Bool) (s : List Char) : Option Binary64 := do
  let whole := s.takeWhile Char.isDigit
  let rest := s.dropWhile Char.isDigit
  let (fraction, rest) := match rest with
    | '.' :: r => (r.takeWhile Char.isDigit, r.dropWhile Char.isDigit)
    | r => ([], r)
  if whole = [] ∧ fraction = [] then none
  else
    let exponent ← exponent? rest
    some (.ofDecimal negative (digitsValue 10 (whole ++ fraction)) (exponent - fraction.length))

/-- The double that a text denotes. -/
def realNumber? (s : String) : Option Binary64 :=
  let (negative, body) := splitSign (Text.trimBoth Text.isWhite s.toList)
  let name := String.ofList (body.map Char.toLower)
  if name = "inf" ∨ name = "infinity" then some (.infinity negative)
  else if name = "nan" then some .nan
  else (ungroup false body).bind (unsignedReal? negative)

/-- The truth value that a text denotes, in any letter case. -/
def truth? (s : String) : Option Bool :=
  let word := String.ofList (s.toList.map Char.toLower)
  if word ∈ ["0", "off", "f", "false", "n", "no"] then some false
  else if word ∈ ["1", "on", "t", "true", "y", "yes"] then some true
  else none

end ControlPlane.Literal
