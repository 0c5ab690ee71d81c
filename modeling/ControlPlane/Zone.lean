import ControlPlane.Failure
import ControlPlane.Text.Split

/-!
# Zones and regions

A zone is named by its region and a digit, as in `fr-par-1`; two older names stand for zones of
today. A region knows its first zone and which zones of a product lie in it.
-/

namespace ControlPlane

namespace Zone

/-- The older zone names that are still read, with the zones they stand for. -/
def aliases : List (String × String) :=
  [("par1", "fr-par-1"), ("ams1", "nl-ams-1")]

/-- Whether a character is a lower-case ASCII letter. -/
def isLetter (c : Char) : Bool := 'a' ≤ c && c ≤ 'z'

/-- Two letters, a dash, three letters. -/
def isRegionShape : List Char → Bool
  | [a, b, '-', c, d, e] => [a, b, c, d, e].all isLetter
  | _ => false

/-- Two letters, a dash, three letters, a dash, a digit from 1 to 9. -/
def isShape : List Char → Bool
  | [a, b, '-', c, d, e, '-', n] => [a, b, c, d, e].all isLetter && '1' ≤ n && n ≤ '9'
  | _ => false

/-- What is accepted as a zone name: the shape, also with one line feed behind it. -/
def isAccepted (s : List Char) : Bool :=
  isShape s || (s.getLast? = some '\n' && isShape s.dropLast)

/-- The zone that a text names. -/
def parse (written : String) : Except Detail String :=
  let zone := (aliases.lookup written).getD written
  if isAccepted zone.toList then .ok zone else .error (.zoneFormat written)

/-- The region that a zone belongs to: all of its name before the last dash. -/
def region (zone : String) : String :=
  String.ofList (Text.beforeLast '-' zone.toList)

end Zone

/-- A configured region. -/
structure Region where
  name : String
  deriving DecidableEq, Repr

namespace Region

/-- The first zone of the region. -/
def defaultZone (r : Region) : String := r.name ++ "-1"

/-- The zone that a text names, or the first one if there is no text. -/
def resolve (r : Region) : Option String → Except Failure String
  | none => .ok r.defaultZone
  | some written =>
    match Zone.parse written with
    | .ok zone => .ok zone
    | .error detail =>
      .error (.causedBy (.terminal (.zoneInvalid written detail.message))
        (.ofFault (.badValue detail)))

/-- The zones of the region among those where a product is available; the first zone of the region
if there are none. -/
def productZones (r : Region) (supported : List String) : List String :=
  let zones := supported.filter fun z => Zone.region z = r.name
  if zones = [] then [r.defaultZone] else zones

/-- Checks that a product is available in a zone of the region. -/
def checkZone (r : Region) (supported : List String) (zone : String) : Except Failure Unit :=
  let zones := r.productZones supported
  if zone ∈ zones then .ok () else raise (.terminal (.zoneUnavailable zone zones))

end Region

end ControlPlane
