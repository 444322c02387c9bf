/-!
The tokens of a YAML text. Indentation has become tokens of its own: a block
collection opens where its first entry stands and closes where the text goes back.
-/

namespace DroneTactics.Yaml

/-- A tag as it is written: a handle and what follows it. A tag in full has no handle. -/
structure WrittenTag where
  handle : Option String
  suffix : String
  deriving DecidableEq, Repr

inductive Token where
  /-- The version that a document asks for. -/
  | version (major : Nat)
  /-- A handle for tags. -/
  | tagHandle (handle replacement : String)
  /-- Any other directive. -/
  | otherDirective
  | documentStart
  | documentEnd
  | blockSequenceStart
  | blockMappingStart
  | blockEnd
  | flowSequenceStart
  | flowSequenceEnd
  | flowMappingStart
  | flowMappingEnd
  | blockEntry
  | flowEntry
  | key
  | value
  | alias (name : String)
  | anchor (name : String)
  | tag (written : WrittenTag)
  | scalar (text : String) (plain : Bool)
  deriving DecidableEq, Repr

end DroneTactics.Yaml
