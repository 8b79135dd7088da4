import MultiTarget.Yaml.Tag

/-!
# `MultiTarget.Yaml.Token`: the lexemes of a YAML text

Indentation appears among the tokens as the starts and ends of block
collections, so the grammar above them is free of columns.
-/

set_option autoImplicit false

namespace MultiTarget.Yaml

/-- How a scalar is written. -/
inductive ScalarStyle where
  | plain
  | singleQuoted
  | doubleQuoted
  | literal
  | folded
  deriving DecidableEq, Repr

/-- A lexeme, or a boundary that indentation implies. -/
inductive Token where
  | versionDirective (major minor : Nat)
  | tagDirective (handle : String) (stem : Tag)
  | documentStart
  | documentEnd
  | blockSequenceStart
  | blockMappingStart
  | blockEnd
  | flowSequenceStart
  | flowSequenceEnd
  | flowMappingStart
  | flowMappingEnd
  | blockEntry
  | flowEntry
  | key
  | value
  | alias (name : String)
  | anchor (name : String)
  | tag (handle : String) (suffix : Tag)
  | scalar (text : String) (style : ScalarStyle)
  deriving DecidableEq, Repr

end MultiTarget.Yaml
