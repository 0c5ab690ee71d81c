import ControlPlane.Number.Literal
import ControlPlane.Value

/-!
# What scalars mean

The core schema with dates. A plain scalar means a truth value, a number, null or a date if it has
the form of one, and is a text otherwise; a tag can ask for a meaning. `none` stands for a scalar
that has a form and no meaning, such as a date in a thirteenth month.
-/

namespace ControlPlane.Yaml

/-- A tag: a name of the core schema, or the one that asks for no meaning in particular. -/
inductive Tag
  | default
  | core (name : String)
  deriving DecidableEq, Repr

/-- What the names of the core schema start with when they are written out. -/
def coreStart : List Char := "tag:yaml.org,2002:".toList

/-- The tag that is written behind the first exclamation mark. -/
def Tag.ofWritten? : List Char → Option Tag
  | [] => some default
  | '!' :: name => if name = [] then none else some (core (String.ofList name))
  | '<' :: name =>
    if name.take coreStart.length = coreStart ∧ name.getLast? = some '>' then
      some (core (String.ofList (name.drop coreStart.length).dropLast))
    else none
  | _ => none

namespace Core

/-- The words for truth values. -/
def truthWords : List (String × Bool) :=
  [("true", true), ("True", true), ("TRUE", true),
   ("false", false), ("False", false), ("FALSE", false)]

/-- The words for null. -/
def nullWords : List String := ["", "~", "null", "Null", "NULL"]

/-- The words for the numbers that are not finite, without a sign. -/
def infinityWords : List String := [".inf", ".Inf", ".INF"]

/-- The words for what is not a number. -/
def nanWords : List String := [".nan", ".NaN", ".NAN"]

/-- Whether a character is a digit or groups digits. -/
def isGrouped (c : Char) : Bool := c.isDigit || c = '_'

/-- Without the characters that group digits. -/
def ungrouped (s : List Char) : List Char := s.filter (· ≠ '_')

/-- The base and the digits of what has the form of an unsigned whole number. -/
def wholeForm? (s : List Char) : Option (Nat × List Char) :=
  let form (base : Nat) (isDigit : Char → Bool) (ds : List Char) : Option (Nat × List Char) :=
    if ds ≠ [] ∧ ds.all fun c => isDigit c || c = '_' then some (base, ungrouped ds) else none
  match s with
  | '0' :: 'b' :: ds => form 2 (fun c => c = '0' || c = '1') ds
  | '0' :: 'o' :: ds => form 8 (fun c => '0' ≤ c && c ≤ '7') ds
  | '0' :: 'x' :: ds => form 16 Literal.isHexDigit ds
  | ds => form 10 Char.isDigit ds

/-- The whole number in some digits, if there are any. -/
def wholeValue? (negative : Bool) (base : Nat) (digits : List Char) : Option Value :=
  if digits = [] then none
  else some (.int (Literal.signed negative (Literal.digitsValue base digits)))

/-- Whether a text is an exponent, whose sign may be required. -/
def isExponent (signRequired : Bool) : List Char → Bool
  | e :: rest =>
    let digits := (Literal.splitSign rest).2
    (e = 'e' || e = 'E') && digits ≠ [] && digits.all Char.isDigit &&
      (!signRequired || digits.length < rest.length)
  | [] => false

/-- Whether an unsigned text has the form of a number with a point or an exponent. -/
def isRealForm (s : List Char) : Bool :=
  let whole := s.takeWhile isGrouped
  match whole, s.dropWhile isGrouped with
  | [], '.' :: rest =>
    let ending := rest.dropWhile isGrouped
    rest.head?.any isGrouped && (ending = [] || isExponent true ending)
  | c :: _, '.' :: rest =>
    let ending := rest.dropWhile isGrouped
    c.isDigit && (ending = [] || isExponent false ending)
  | c :: _, ending => c.isDigit && isExponent false ending
  | [], _ => false

/-! ## Dates -/

/-- A number of digits within bounds, as a number. -/
def digits? (least most : Nat) (s : List Char) : Option (Nat × List Char) :=
  let ds := (s.takeWhile Char.isDigit).take most
  if least ≤ ds.length then some (Literal.digitsValue 10 ds, s.drop ds.length) else none

/-- A given character. -/
def mark? (c : Char) : List Char → Option (List Char)
  | d :: rest => if d = c then some rest else none
  | [] => none

/-- The days of a month. -/
def daysIn (year month : Nat) : Nat :=
  if month = 2 then
    if year % 4 = 0 ∧ (year % 100 ≠ 0 ∨ year % 400 = 0) then 29 else 28
  else if month ∈ [4, 6, 9, 11] then 30
  else 31

/-- Whether there is such a day. -/
def isDay (year month day : Nat) : Bool :=
  1 ≤ year && 1 ≤ month && month ≤ 12 && 1 ≤ day && day ≤ daysIn year month

/-- Whether a text has the form of an offset from universal time, or is empty. -/
def isOffset (s : List Char) : Bool :=
  match s.dropWhile fun c => c = ' ' || c = '\t' with
  | [] => s = []
  | ['Z'] => true
  | sign :: rest => (sign = '+' || sign = '-') && match digits? 1 2 rest with
    | some (_, []) => true
    | some (_, ':' :: rest) => rest.length = 2 && rest.all Char.isDigit
    | _ => false

/-- Whether the day and time exist that a text has the form of, if it has that form. -/
def dateForm? (s : List Char) : Option Bool := do
  let (year, rest) ← digits? 4 4 s
  let (month, rest) ← digits? 1 2 (← mark? '-' rest)
  let (day, rest) ← digits? 1 2 (← mark? '-' rest)
  if rest = [] then
    if s.length = 10 then return isDay year month day else none
  else
    let time := match rest with
      | 'T' :: time | 't' :: time => time
      | _ => rest.dropWhile fun c => c = ' ' || c = '\t'
    if time.length = rest.length then none
    else
      let (hour, rest) ← digits? 1 2 time
      let (minute, rest) ← digits? 2 2 (← mark? ':' rest)
      let (second, rest) ← digits? 2 2 (← mark? ':' rest)
      let rest := match rest with
        | '.' :: fraction => fraction.dropWhile Char.isDigit
        | _ => rest
      if isOffset rest then
        return isDay year month day && hour < 24 && minute < 60 && second < 60
      else none

/-! ## Meanings -/

/-- The number that a text denotes, if it has the form of one; `some none` for a form without a
meaning. -/
def number? (s : String) : Option (Option Value) :=
  let (negative, body) := Literal.splitSign s.toList
  if isRealForm body then
    some ((Literal.realNumber? (String.ofList (ungrouped s.toList))).map .real)
  else if String.ofList body ∈ infinityWords then some (some (.real (.infinity negative)))
  else if s ∈ nanWords then some (some (.real .nan))
  else if s.toList.head? = some '_' then none
  else (wholeForm? body).map fun (base, digits) => wholeValue? negative base digits

/-- The meaning of a plain scalar. The signs for merging and for a default have none. -/
def resolve (s : String) : Option Value :=
  match truthWords.lookup s with
  | some b => some (.bool b)
  | none =>
    match number? s with
    | some v => v
    | none =>
      if s ∈ nullWords then some .null
      else if s = "<<" ∨ s = "=" then none
      else match dateForm? s.toList with
        | some known => if known then some (.date s) else none
        | none => some (.text s)

/-- The words for truth values that a tag makes of a text, in any letter case. -/
def taggedTruthWords : List (String × Bool) :=
  [("yes", true), ("no", false), ("y", true), ("n", false), ("true", true), ("false", false),
   ("on", true), ("off", false)]

/-- The meaning that a tag asks for. -/
def tagged (name s : String) : Option Value :=
  if name = "str" then some (.text s)
  else if name = "null" then some .null
  else if name = "bool" then
    (taggedTruthWords.lookup (String.ofList (s.toList.map Char.toLower))).map .bool
  else if name = "int" then
    match number? s with
    | some (some (.int n)) => some (.int n)
    | _ => none
  else if name = "float" then
    match number? s with
    | some (some (.int n)) => some (.real (.ofInt n))
    | some (some (.real x)) => some (.real x)
    | _ => none
  else none

/-- The meaning of a scalar. -/
def scalar (tag : Option Tag) (s : String) (plain : Bool) : Option Value :=
  match tag with
  | some (.core name) => tagged name s
  | some .default => resolve s
  | none => if plain then resolve s else some (.text s)

end Core

end ControlPlane.Yaml
