import SchemaScript.Mismatch

/-!
# Json.Fault: why a text is not the JSON that a reader expects

A fault is a problem and the place where reading stopped: the line, from one, and the number of bytes read of that line.
-/

namespace SchemaScript.Json

/-- The problems of a text that is not JSON, and those of JSON that has another shape. -/
inductive Problem
  | endInList
  | endInObject
  | endInString
  | endInValue
  | noColon
  | noCommaInList
  | noCommaInObject
  | noKeyword
  | noValue
  | badEscape
  | badNumber
  | numberTooLarge
  | controlInString
  | keyNotString
  | loneSurrogate
  | brokenSurrogatePair
  | trailingComma
  | trailingText
  | tooDeep
  | unfit (mismatch : Mismatch)

namespace Problem

/-- The text of a problem, without its place. -/
def message : Problem → String
  | endInList => "EOF while parsing a list"
  | endInObject => "EOF while parsing an object"
  | endInString => "EOF while parsing a string"
  | endInValue => "EOF while parsing a value"
  | noColon => "expected `:`"
  | noCommaInList => "expected `,` or `]`"
  | noCommaInObject => "expected `,` or `\x7d`"
  | noKeyword => "expected ident"
  | noValue => "expected value"
  | badEscape => "invalid escape"
  | badNumber => "invalid number"
  | numberTooLarge => "number out of range"
  | controlInString => "control character (\\u0000-\\u001F) found while parsing a string"
  | keyNotString => "key must be a string"
  | loneSurrogate => "lone leading surrogate in hex escape"
  | brokenSurrogatePair => "unexpected end of hex escape"
  | trailingComma => "trailing comma"
  | trailingText => "trailing characters"
  | tooDeep => "recursion limit exceeded"
  | unfit mismatch => mismatch.message

end Problem

/-- A problem at a place of the text. -/
structure Fault where
  problem : Problem
  line : Nat
  column : Nat

namespace Fault

/-- The text of a fault with its place. -/
def message (f : Fault) : String :=
  f.problem.message ++ " at line " ++ toString f.line ++ " column " ++ toString f.column

end Fault

end SchemaScript.Json
