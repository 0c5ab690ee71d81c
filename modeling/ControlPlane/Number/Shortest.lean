import ControlPlane.Number.Decimal

/-!
# The shortest decimal text of a double

A double is written with the fewest significant digits that read back as the same double, and of
several such decimals with the nearest. The text is positional from `10^-4` up to `10^16`, where a
whole number keeps one zero after the point, and has an exponent of at least two digits outside.
-/

namespace ControlPlane.Binary64

/-- The decimals on either side of `n / d` in units of `10^exponent`, the nearer one first. -/
def neighbours (n d : Nat) (exponent : Int) : List Nat :=
  let nearest := scaled n d exponent
  let low := match exponent with
    | .ofNat e => n / (d * Nat.pow 10 e)
    | .negSucc e => n * Nat.pow 10 (e + 1) / d
  [nearest, if nearest = low then low + 1 else low]

/-- The first number of digits, from a count on, with a decimal that reads back, and that decimal
with its exponent. -/
def readsBack? (units : Nat) : (steps digits : Nat) → Option (Nat × Int)
  | 0, _ => none
  | steps + 1, digits =>
    let exponent := decimalExponent units oneUnits - (digits - 1 : Nat)
    match (neighbours units oneUnits exponent).find? fun m =>
        ofDecimal false m exponent = finite units with
    | some m => some (m, exponent)
    | none => readsBack? units steps (digits + 1)

/-- The decimal of up to 17 digits for a magnitude; so many digits always read back. -/
def shortestDecimal (units : Nat) : Nat × Int :=
  (readsBack? units 17 1).getD (0, 0)

/-- Without the last digits as long as these are zeros. The first argument bounds the number of
digits. -/
def dropZeros : (steps : Nat) → Nat → Int → Nat × Int
  | 0, m, e => (m, e)
  | steps + 1, m, e =>
    if m ≠ 0 ∧ m % 10 = 0 then dropZeros steps (m / 10) (e + 1) else (m, e)

/-- The text of `m * 10^e`, for an `m` that does not end in a zero. -/
def shortestText (m : Nat) (e : Int) : List Char :=
  let ds := Nat.toDigits 10 m
  let top := e + ds.length - 1
  if top < -4 ∨ 16 ≤ top then
    let fraction := ds.drop 1
    ds.take 1 ++ (if fraction = [] then [] else '.' :: fraction) ++
      'e' :: (if top < 0 then '-' else '+') :: paddedDigits 2 top.natAbs
  else if e < 0 then placed e.natAbs m
  else ds ++ List.replicate e.toNat '0' ++ ['.', '0']

/-- A double with the fewest digits that read back. -/
def shortest : Binary64 → String
  | finite u =>
    if u = 0 then "0.0"
    else
      let (m, e) := shortestDecimal u.natAbs
      let (m, e) := dropZeros 17 m e
      String.ofList (signText (decide (u < 0)) ++ shortestText m e)
  | infinity negative => String.ofList (signText negative ++ ['i', 'n', 'f'])
  | nan => "nan"

end ControlPlane.Binary64
