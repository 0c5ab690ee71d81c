/-!
# Tokens

The tokens of a document. Indentation shows as starts and ends of blocks, and a key as a token in
front of it, even where the text has none.
-/

namespace ControlPlane.Yaml

/-- A token of a document. -/
inductive Token
  | directive
  | documentStart
  | documentEnd
  | blockSequence
  | blockMapping
  | blockEnd
  | flowSequence
  | flowSequenceEnd
  | flowMapping
  | flowMappingEnd
  | entry
  | separator
  | key
  | value
  | alias (name : String)
  | anchor (name : String)
  | tag (written : List Char)
  | scalar (text : String) (plain : Bool)
  deriving DecidableEq, Repr

end ControlPlane.Yaml
