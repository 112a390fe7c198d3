/-!
The tokens of a YAML text.
-/

namespace Conform.Yaml

inductive Directive where
  | version (major minor : Nat)
  /-- Tags that begin with the handle stand for tags that begin with the other text. -/
  | handle (name lead : String)
  | other
deriving DecidableEq, Repr

/-- The characters of a scalar, of which lone halves are none. -/
abbrev ScalarText := List (Option Char)

inductive Token where
  | streamStart
  | streamEnd
  | directive (d : Directive)
  | documentStart
  | documentEnd
  | blockSequenceStart
  | blockMappingStart
  | blockEnd
  | flowSequenceStart
  | flowSequenceEnd
  | flowMappingStart
  | flowMappingEnd
  | blockEntry
  | flowEntry
  | key
  | value
  | alias (name : String)
  | anchor (name : String)
  /-- A tag after its handle; a tag without one is complete. -/
  | tag (handle : Option String) (rest : String)
  | scalar (plain : Bool) (text : ScalarText)
deriving DecidableEq, Repr

end Conform.Yaml
