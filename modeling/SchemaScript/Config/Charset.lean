import SchemaScript.Failure
import SchemaScript.Text.CaseMap

/-!
# Config.Charset: the character sets of a connection

A character set is named in any letter case, with hyphens anywhere.
-/

namespace SchemaScript

/-- The character sets that a connection can use. -/
inductive Charset
  | utf8
  | iso8859_1
  | win1252
  deriving DecidableEq, Repr

namespace Charset

/-- The name of a character set. -/
def label : Charset → String
  | utf8 => "UTF8"
  | iso8859_1 => "ISO8859_1"
  | win1252 => "WIN1252"

/-- A name in upper case and without hyphens. -/
def normalize (name : String) : String := String.ofList ((Text.uppercase name).toList.filter (· ≠ '-'))

/-- The character set of a name. -/
def ofName (name : String) : Except Failure Charset :=
  match normalize name with
  | "UTF8" => .ok utf8
  | "ISO88591" => .ok iso8859_1
  | "WIN1252" => .ok win1252
  | other => .error (.config ("unsupported charset '" ++ other ++ "'. Supported: UTF8, ISO8859_1, WIN1252"))

end Charset

end SchemaScript
