import ControlPlane.Network.Address

/-!
# Address ranges

A range is an address, alone or with a mask after one slash. The mask is a prefix length in decimal
digits; an IPv4 mask may also be an address whose bits are ones before zeros, or zeros before ones.
Bits of the address outside the mask may be set.
-/

namespace ControlPlane

/-- An address range: an address and the length of the fixed part. -/
structure AddressRange where
  address : Address
  prefixLength : Nat
  deriving DecidableEq, Repr

namespace AddressRange

/-- The bits of an address. -/
def width : Address → Nat
  | .v4 _ => 32
  | .v6 _ _ => 128

/-- A prefix length in digits, up to a limit. -/
def length? (limit : Nat) (s : List Char) : Option Nat :=
  if s ≠ [] ∧ s.all Char.isDigit then
    let n := Literal.digitsValue 10 s
    if n ≤ limit then some n else none
  else none

/-- The prefix length of a 32-bit mask: ones before zeros, or zeros before ones. All zeros is the
empty prefix. -/
def maskLength? (mask : Nat) : Option Nat :=
  match (List.range 33).find? fun k => mask + (1 <<< (32 - k)) = 1 <<< 32 with
  | some k => some k
  | none => (List.range 33).find? fun k => mask + 1 = 1 <<< (32 - k)

/-- The prefix length that a mask's text gives for an address. -/
def mask? (address : Address) (s : List Char) : Option Nat :=
  match length? (width address) s with
  | some n => some n
  | none =>
    if address.isV4 then
      (Address.octets? s).bind fun octets => maskLength? (octets.foldl (· * 256 + ·) 0)
    else none

/-- The range that a text denotes. -/
def ofText? (s : String) : Option AddressRange :=
  match Text.partition '/' s.toList with
  | (body, none) => (Address.ofChars? body).map fun a => ⟨a, width a⟩
  | (body, some mask) => do
    let address ← Address.ofChars? body
    return ⟨address, ← mask? address mask⟩

end AddressRange

end ControlPlane
