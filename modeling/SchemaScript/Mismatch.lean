import SchemaScript.Text.Quoted

/-!
# Mismatch: why a well-formed document does not have the expected shape

Snapshots and configuration files are read into fixed shapes. What a reader finds instead of what it expects is named the
same way in both formats.
-/

namespace SchemaScript

/-- What a reader found in the place of what it expected. -/
inductive Found
  /-- The word that stands for nothing in the format. -/
  | nothing (word : String)
  | flag (value : Bool)
  | integer (value : Int)
  /-- An integer that needs 128 bits; the suffix says of which sign. -/
  | wideInteger (value : Int) (width : String)
  /-- A number with a point, as the format writes it. -/
  | float (written : String)
  | text (value : String)
  | sequence
  | map

namespace Found

/-- How a reader names what it found. -/
def label : Found → String
  | nothing word => word
  | flag value => "boolean `" ++ toString value ++ "`"
  | integer value => "integer `" ++ toString value ++ "`"
  | wideInteger value width => "integer `" ++ toString value ++ "` as " ++ width
  | float written => "floating point `" ++ written ++ "`"
  | text value => "string " ++ Text.quoted value
  | sequence => "sequence"
  | map => "map"

end Found

/-- The ways in which a well-formed document can fail to have the expected shape. -/
inductive Mismatch
  | missingField (name : String)
  | duplicateField (name : String)
  | wrongType (found : Found) (expected : String)
  | wrongValue (found : Found) (expected : String)
  | wrongLength (length : Nat) (expected : String)

namespace Mismatch

/-- The text of a mismatch, without its place in the document. -/
def message : Mismatch → String
  | missingField name => "missing field `" ++ name ++ "`"
  | duplicateField name => "duplicate field `" ++ name ++ "`"
  | wrongType found expected => "invalid type: " ++ found.label ++ ", expected " ++ expected
  | wrongValue found expected => "invalid value: " ++ found.label ++ ", expected " ++ expected
  | wrongLength length expected => "invalid length " ++ toString length ++ ", expected " ++ expected

end Mismatch

end SchemaScript
