import SchemaScript.Mismatch

/-!
# Yaml.Fault: why a text is not the YAML that a reader expects

Either the text is not one well-formed document, or the document has another shape. A fault of shape names the path to the
value, in field names joined by dots, and the place of the value; lines and columns count from one, and the very start of
the text is not mentioned.
-/

namespace SchemaScript.Yaml

/-- A place in the text: the characters before it, the line breaks before it, and the characters before it on its line. -/
structure Mark where
  index : Nat
  line : Nat
  column : Nat
  deriving DecidableEq, Repr

namespace Mark

/-- The start of a text. -/
def start : Mark := ⟨0, 0, 0⟩

/-- The place as it ends a message; nothing for the start of the first line. -/
def suffix (m : Mark) : String :=
  if m.line = 0 ∧ m.column = 0 then ""
  else " at line " ++ toString (m.line + 1) ++ " column " ++ toString (m.column + 1)

end Mark

/-- Why a text is not one well-formed document. -/
inductive Malformed
  /-- A control character, or another one that documents may not hold. -/
  | forbiddenCharacter
  | badDirective
  | duplicateDirective
  | unsupportedVersion
  | badAnchor
  | badAlias
  | badTag
  | undefinedTag
  | badBlockScalar
  | badQuotedScalar
  | badPlainScalar
  | badIndentation
  | badSimpleKey
  | badToken
  | unexpectedToken
  | unknownAlias
  | noDocument
  | severalDocuments

namespace Malformed

/-- What is wrong with a malformed text. -/
def message : Malformed → String
  | forbiddenCharacter => "control characters are not allowed"
  | badDirective => "malformed directive"
  | duplicateDirective => "found duplicate directive"
  | unsupportedVersion => "found incompatible YAML document"
  | badAnchor => "malformed anchor"
  | badAlias => "malformed alias"
  | badTag => "malformed tag"
  | undefinedTag => "found undefined tag handle"
  | badBlockScalar => "malformed block scalar"
  | badQuotedScalar => "malformed quoted scalar"
  | badPlainScalar => "found unexpected ':' while scanning a plain scalar"
  | badIndentation => "found a tab or an entry where indentation was expected"
  | badSimpleKey => "could not find expected ':'"
  | badToken => "found character that cannot start any token"
  | unexpectedToken => "did not find what was expected here"
  | unknownAlias => "unknown anchor"
  | noDocument => "EOF while parsing a value"
  | severalDocuments => "deserializing from YAML containing more than one document is not supported"

end Malformed

/-- Why a text is not the YAML that a reader expects. -/
inductive Fault
  | malformed (problem : Malformed) (mark : Mark)
  | unfit (path : String) (mismatch : Mismatch) (mark : Mark)

namespace Fault

/-- Whether the text is well-formed and only its shape is wrong. -/
def isUnfit : Fault → Bool
  | malformed .. => false
  | unfit .. => true

/-- The text of a fault: the path, the problem and the place. -/
def message : Fault → String
  | malformed problem mark => problem.message ++ mark.suffix
  | unfit path mismatch mark => (if path = "" then "" else path ++ ": ") ++ mismatch.message ++ mark.suffix

end Fault

end SchemaScript.Yaml
