import ControlPlane.Number.Literal
import ControlPlane.Text.Split

/-!
# IP addresses

The two textual forms. An IPv4 address is four decimal numbers up to 255 without leading zeros. An
IPv6 address is eight groups of up to four hexadecimal digits, where one `::` may stand for one or
more zero groups, the last two groups may be written as an IPv4 address, and a zone name may follow
a `%`.
-/

namespace ControlPlane

/-- An IP address: four octets, or eight 16-bit groups with the name of a scope, if one is given. -/
inductive Address
  | v4 (octets : List Nat)
  | v6 (groups : List Nat) (scope : Option String)
  deriving DecidableEq, Repr

namespace Address

/-- One number of an IPv4 address. -/
def octet? (s : List Char) : Option Nat :=
  if s ≠ [] ∧ s.length ≤ 3 ∧ s.all Char.isDigit ∧ (s = ['0'] ∨ s.head? ≠ some '0') then
    let n := Literal.digitsValue 10 s
    if n ≤ 255 then some n else none
  else none

/-- The octets of an IPv4 address. -/
def octets? (s : List Char) : Option (List Nat) :=
  let parts := Text.splitOn '.' s
  if parts.length = 4 then parts.mapM octet? else none

/-- One group of an IPv6 address. -/
def group? (s : List Char) : Option Nat :=
  if s ≠ [] ∧ s.length ≤ 4 ∧ s.all Literal.isHexDigit then some (Literal.digitsValue 16 s) else none

/-- The groups that a part between colons stands for; the last part may be an IPv4 address. -/
def tailGroups? (s : List Char) : Option (List Nat) :=
  if '.' ∈ s then
    match octets? s with
    | some [a, b, c, d] => some [a * 256 + b, c * 256 + d]
    | _ => none
  else (group? s).map ([·])

/-- The groups of a run of parts, where only the last part may be an IPv4 address. -/
def groups? : List (List Char) → Option (List Nat)
  | [] => some []
  | [s] => tailGroups? s
  | s :: rest => do return (← group? s) :: (← groups? rest)

/-- The parts on either side of the first empty part that is neither the first nor the last, which
is what a `::` leaves. -/
def splitAtGap : List (List Char) → Option (List (List Char) × List (List Char))
  | a :: [] :: b :: rest => some ([a], b :: rest)
  | a :: b :: c :: rest => (splitAtGap (b :: c :: rest)).map fun r => (a :: r.1, r.2)
  | _ => none

/-- The eight groups of an IPv6 address without a scope. -/
def eightGroups? (s : List Char) : Option (List Nat) :=
  let parts := Text.splitOn ':' s
  match splitAtGap parts with
  | none => do
    let groups ← groups? parts
    if groups.length = 8 then some groups else none
  | some (before, after) => do
    -- A leading or trailing `::` leaves one more empty part at that end.
    let high ← if before = [[]] then some [] else before.mapM group?
    let low ← if after = [[]] then some [] else groups? after
    if high.length + low.length < 8 then
      some (high ++ List.replicate (8 - high.length - low.length) 0 ++ low)
    else none

/-- The address that a text denotes. -/
def ofChars? (s : List Char) : Option Address :=
  match octets? s with
  | some octets => some (v4 octets)
  | none =>
    match Text.partition '%' s with
    | (_, some []) => none
    | (body, some scope) =>
      if '%' ∈ scope ∨ '/' ∈ scope then none
      else (eightGroups? body).map (v6 · (some (String.ofList scope)))
    | (body, none) => (eightGroups? body).map (v6 · none)

/-- The address that a text denotes. -/
def ofText? (s : String) : Option Address := ofChars? s.toList

/-- Whether an address has the IPv4 form. -/
def isV4 : Address → Bool
  | v4 _ => true
  | v6 _ _ => false

end Address

end ControlPlane
