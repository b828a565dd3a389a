import CallCapture.Yaml.Fault

namespace CallCapture.Yaml

/-- How a scalar is written: as it is, in quotes of either kind, or as a block
of lines whose breaks are kept or folded. -/
inductive Style where
  | plain
  | single
  | double
  | literal
  | folded
  deriving DecidableEq, Inhabited

namespace Token

/-- The kinds of tokens. The starts of blocks and their ends have no
characters of their own: they come from the indentation. -/
inductive Kind where
  | streamStart
  | streamEnd
  | versionDirective (major minor : Nat)
  | tagDirective (handle expansion : String)
  | documentStart
  | documentEnd
  | blockSequenceStart
  | blockMappingStart
  | blockEnd
  | flowSequenceStart
  | flowSequenceEnd
  | flowMappingStart
  | flowMappingEnd
  | blockEntry
  | flowEntry
  | key
  | value
  | alias (name : String)
  | anchor (name : String)
  | tag (handle suffix : String)
  | scalar (text : String) (style : Style)
  deriving DecidableEq, Inhabited

end Token

/-- A token with the places in front of it and behind it. Events and messages
take their places from it. -/
structure Token where
  kind : Token.Kind
  start : Mark
  stop : Mark
  deriving DecidableEq, Inhabited

end CallCapture.Yaml
