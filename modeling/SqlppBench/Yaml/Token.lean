import SqlppBench.Yaml.Cursor

/-! # Tokens of a YAML text

Indentation has become tokens: a block collection has one where it begins and one where it ends.
-/

namespace SqlppBench.Yaml

/-- A token. -/
inductive Token where
  /-- The directive with the version of the notation. -/
  | version (major minor : Nat)
  /-- The directive that says what a handle of tags stands for. -/
  | tagHandle (handle meaning : String)
  | documentStart
  | documentEnd
  | blockSequenceStart
  | blockMappingStart
  | blockEnd
  | flowSequenceStart
  | flowSequenceEnd
  | flowMappingStart
  | flowMappingEnd
  | blockEntry
  | flowEntry
  | key
  | value
  | alias (name : String)
  | anchor (name : String)
  | tag (handle suffix : String)
  /-- A scalar, and whether it is written without quotes and on its line. -/
  | scalar (text : String) (plain : Bool)
deriving DecidableEq, Repr

end SqlppBench.Yaml
