import SchemaScript.Yaml.Spot

/-!
# Yaml.Token: the tokens of a document

Tokens are the scalars, the marks of anchors, aliases and tags, the indicators of collections, and the starts and ends that
indentation stands for.
-/

namespace SchemaScript.Yaml

/-- How a scalar is written. -/
inductive Style
  | plain
  | single
  | double
  | literal
  | folded
  deriving DecidableEq, Repr

/-- The kinds of tokens. -/
inductive TokenKind
  | streamEnd
  | version (major minor : Nat)
  | tagDirective (handle start : List Char)
  | documentStart
  | documentEnd
  | blockSequenceStart
  | blockMappingStart
  | blockEnd
  | flowSequenceStart
  | flowSequenceEnd
  | flowMappingStart
  | flowMappingEnd
  | blockEntry
  | flowEntry
  | key
  | value
  | alias (name : List Char)
  | anchor (name : List Char)
  | tag (handle suffix : List Char)
  | scalar (text : List Char) (style : Style)
  deriving DecidableEq, Repr

/-- A token with the place of its start and the place behind it. -/
structure Token where
  kind : TokenKind
  start : Mark
  stop : Mark
  deriving DecidableEq, Repr

end SchemaScript.Yaml
