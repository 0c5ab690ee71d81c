/-!
# Doubles as exact numbers

Durations, instants and configured numbers are doubles. Every finite double is a whole multiple of
`2^-1074`, so a double is held as that multiple and its arithmetic is integer arithmetic followed by
one rounding to 53 significant bits, a half going to the even neighbour. Both zeros are one value
here: nothing this library decides or prints tells them apart.
-/

namespace ControlPlane

/-- A double: a whole multiple of `2^-1074`, an infinity, or not a number. -/
inductive Binary64
  | finite (units : Int)
  | infinity (negative : Bool)
  | nan
  deriving DecidableEq, Repr, Inhabited

namespace Binary64

/-- The units of the number one. -/
def oneUnits : Nat := 1 <<< 1074

/-- The units at which the finite range ends. -/
def limitUnits : Nat := 1 <<< 2098

/-- `n / d` rounded to the nearest whole number, a half to the even one. -/
def roundHalfEven (n d : Nat) : Nat :=
  let q := n / d
  let r := n % d
  if 2 * r < d then q
  else if d < 2 * r then q + 1
  else if q % 2 = 0 then q else q + 1

/-- `n / d` rounded to 53 significant bits, or to a whole number if it has fewer. -/
def roundSignificant (n d : Nat) : Nat :=
  let shift := (n / d).log2 - 52
  roundHalfEven n (d <<< shift) <<< shift

/-- The double with a sign and a magnitude in units that has been rounded. -/
def ofMagnitude (negative : Bool) (units : Nat) : Binary64 :=
  if limitUnits ≤ units then infinity negative
  else finite (if negative then -units else units)

/-- The double nearest to a whole number of units. -/
def ofUnits (z : Int) : Binary64 :=
  ofMagnitude (decide (z < 0)) (roundSignificant z.natAbs 1)

/-- The double nearest to `n / d`, with a sign. -/
def ofRatio (negative : Bool) (n d : Nat) : Binary64 :=
  ofMagnitude negative (roundSignificant (n * oneUnits) d)

/-- The double nearest to a whole number. -/
def ofInt (z : Int) : Binary64 :=
  ofRatio (decide (z < 0)) z.natAbs 1

/-- The double nearest to `digits * 10^exponent`. Exponents so far out that the answer is plain are
not computed. -/
def ofDecimal (negative : Bool) (digits : Nat) (exponent : Int) : Binary64 :=
  if digits = 0 then finite 0
  else if 400 < exponent then infinity negative
  else if exponent < -(400 + (digits.log2 : Int)) then finite 0
  else match exponent with
    | .ofNat e => ofRatio negative (digits * Nat.pow 10 e) 1
    | .negSucc e => ofRatio negative digits (Nat.pow 10 (e + 1))

instance : OfNat Binary64 n := ⟨ofInt n⟩

/-- The order of doubles; nothing is below or above `nan`. -/
def lt : Binary64 → Binary64 → Bool
  | finite a, finite b => decide (a < b)
  | finite _, infinity negative => !negative
  | infinity negative, finite _ => negative
  | infinity a, infinity b => a && !b
  | _, _ => false

instance : LT Binary64 := ⟨fun a b => lt a b = true⟩

instance (a b : Binary64) : Decidable (a < b) := inferInstanceAs (Decidable (lt a b = true))

/-- The sum, rounded. -/
def add : Binary64 → Binary64 → Binary64
  | finite a, finite b => ofUnits (a + b)
  | finite _, infinity negative => infinity negative
  | infinity negative, finite _ => infinity negative
  | infinity a, infinity b => if a = b then infinity a else nan
  | _, _ => nan

/-- The opposite. -/
def neg : Binary64 → Binary64
  | finite a => finite (-a)
  | infinity negative => infinity (!negative)
  | nan => nan

instance : Add Binary64 := ⟨add⟩

instance : Neg Binary64 := ⟨neg⟩

instance : Sub Binary64 := ⟨fun a b => a + -b⟩

/-- The larger of zero and a double; zero for `nan`. -/
def clampBelow (a : Binary64) : Binary64 :=
  if 0 < a then a else 0

/-- The whole number that a double is, if it is one. -/
def toInt? : Binary64 → Option Int
  | finite a => if a % oneUnits = 0 then some (a / oneUnits) else none
  | _ => none

end Binary64

/-- A duration, or an instant as the duration since the clock's origin. -/
abbrev Seconds := Binary64

/-- A delay that lies in the future. -/
structure Delay where
  length : Seconds
  positive : 0 < length
  deriving DecidableEq, Repr

/-- The delay of a length, if it is positive. -/
def Delay.ofSeconds? (s : Seconds) : Option Delay :=
  if h : 0 < s then some ⟨s, h⟩ else none

end ControlPlane
