/-!
# Splitting text

`splitOn` cuts at every separator, so `n` separators give `n + 1` parts; `partition` cuts at the
first one only.
-/

namespace ControlPlane.Text

/-- The parts of a text between the occurrences of a separator. -/
def splitOn (sep : Char) : List Char → List (List Char)
  | [] => [[]]
  | c :: rest =>
    if c = sep then [] :: splitOn sep rest
    else match splitOn sep rest with
      | [] => [[c]]
      | part :: parts => (c :: part) :: parts

/-- The text before the first separator and, if there is one, the text after it. -/
def partition (sep : Char) (s : List Char) : List Char × Option (List Char) :=
  match s.dropWhile (· ≠ sep) with
  | [] => (s, none)
  | _ :: rest => (s.takeWhile (· ≠ sep), some rest)

/-- The text before the last separator, or all of it if there is none. -/
def beforeLast (sep : Char) (s : List Char) : List Char :=
  match s.reverse.dropWhile (· ≠ sep) with
  | [] => s
  | _ :: rest => rest.reverse

end ControlPlane.Text
