import ControlPlane.Number.Binary64

/-!
# Decimal text of doubles

Two formats. `fixed` has a given number of places. `general` has a given number of significant
digits without trailing zeros, positional from `10^-4` up to the digit count and with an exponent of
at least two digits outside. Both round the exact value, a half to the even digit.
-/

namespace ControlPlane.Binary64

/-- The digits of a number, padded with zeros on the left. -/
def paddedDigits (width n : Nat) : List Char :=
  let ds := Nat.toDigits 10 n
  List.replicate (width - ds.length) '0' ++ ds

/-- A number of `10^-places` as text, with all places. -/
def placed (places n : Nat) : List Char :=
  let ds := paddedDigits (places + 1) n
  let whole := ds.take (ds.length - places)
  if places = 0 then whole else whole ++ '.' :: ds.drop (ds.length - places)

/-- The text of a sign. -/
def signText (negative : Bool) : List Char :=
  if negative then ['-'] else []

/-- A double with a fixed number of places. -/
def fixed (places : Nat) : Binary64 → String
  | finite u =>
    let n := roundHalfEven (u.natAbs * Nat.pow 10 places) oneUnits
    String.ofList (signText (decide (u < 0)) ++ placed places n)
  | infinity negative => String.ofList (signText negative ++ ['i', 'n', 'f'])
  | nan => "nan"

/-- The decimal exponent of `n / d`: the `e` with `10^e ≤ n / d < 10^(e+1)`. -/
def decimalExponent (n d : Nat) : Int :=
  if d ≤ n then ((Nat.toDigits 10 (n / d)).length - 1 : Nat)
  else if (d - 1) / n = 0 then -1
  else -((Nat.toDigits 10 ((d - 1) / n)).length : Int)

/-- `n / d` in units of `10^exponent`, rounded. -/
def scaled (n d : Nat) : Int → Nat
  | .ofNat e => roundHalfEven n (d * Nat.pow 10 e)
  | .negSucc e => roundHalfEven (n * Nat.pow 10 (e + 1)) d

/-- Without trailing zeros after a point, and without the point if nothing follows it. -/
def stripZeros (s : List Char) : List Char :=
  if '.' ∈ s then
    match s.reverse.dropWhile (· = '0') with
    | '.' :: r => r.reverse
    | r => r.reverse
  else s

/-- A positive ratio with `digits` significant digits. -/
def generalRatio (digits n d : Nat) : List Char :=
  let e := decimalExponent n d
  let m := scaled n d (e - (digits - 1 : Nat))
  let (m, e) := if m = Nat.pow 10 digits then (m / 10, e + 1) else (m, e)
  if e < -4 ∨ (digits : Int) ≤ e then
    let exponent := paddedDigits 2 e.natAbs
    stripZeros (placed (digits - 1) m) ++ 'e' :: (if e < 0 then '-' else '+') :: exponent
  else if e < 0 then stripZeros (placed (digits - 1 + e.natAbs) m)
  else stripZeros (placed (digits - 1 - e.toNat) m)

/-- A double with a number of significant digits. -/
def general (digits : Nat) : Binary64 → String
  | finite u =>
    if u = 0 then "0"
    else String.ofList (signText (decide (u < 0)) ++ generalRatio digits u.natAbs oneUnits)
  | infinity negative => String.ofList (signText negative ++ ['i', 'n', 'f'])
  | nan => "nan"

end ControlPlane.Binary64
