/-
  InfraEvidence — the tokens of YAML.

  * `Yaml.Token`: the tokens.  `blockEnd` and the starts of block collections
    have no text of their own: they follow from the columns;
  * `Yaml.ScalarStyle`: the ways to write a scalar.
-/
namespace InfraEvidence

namespace Yaml

/-- A way to write a scalar. -/
inductive ScalarStyle where
  | plain
  | singleQuoted
  | doubleQuoted
  | literal
  | folded
deriving DecidableEq

/-- A token. -/
inductive Token where
  /-- The version that a text declares -/
  | versionDirective (major minor : Nat)
  /-- A handle for tags, and what it stands for -/
  | tagDirective (handle meaning : String)
  | documentStart
  | documentEnd
  | blockSequenceStart
  | blockMappingStart
  | blockEnd
  | flowSequenceStart
  | flowSequenceEnd
  | flowMappingStart
  | flowMappingEnd
  | blockEntry
  | flowEntry
  | key
  | value
  | alias (name : String)
  | anchor (name : String)
  | tag (handle suffix : String)
  | scalar (style : ScalarStyle) (text : String)
  | streamEnd
deriving DecidableEq

end Yaml

end InfraEvidence
