import SchemaScript.Log

/-!
# Catalog.Field: the type of a field as the catalog describes it

The catalog describes a type by a numeric code with a length, a scale and a sub type, all 16-bit words. `Field.sql` writes it
as SQL. Lengths are in bytes of UTF-8 and are divided by four; scales are stored negated. Both are computed in words, as wide as they
need to be.
-/

namespace SchemaScript.Catalog

/-- The kinds of types that the catalog knows by a code. -/
inductive FieldKind
  | smallInt
  | integer
  | float
  | date
  | time
  | char
  | int64
  | double
  | timestamp
  | varchar
  | blob
  deriving DecidableEq, Repr

/-- The kind that a code stands for; other codes are not mapped. -/
def FieldKind.ofCode? (code : Int16) : Option FieldKind :=
  match code.toInt with
  | 7 => some smallInt
  | 8 => some integer
  | 10 => some float
  | 12 => some date
  | 13 => some time
  | 14 => some char
  | 16 => some int64
  | 27 => some double
  | 35 => some timestamp
  | 37 => some varchar
  | 261 => some blob
  | _ => none

/-- The type that stands for a code that is not mapped. -/
def fallbackType : String := "VARCHAR(100)"

/-- The bytes that the server keeps for a character. -/
def bytesPerCharacter : Int16 := 4

/-- The description of a type. -/
structure Field where
  code : Int16
  length : Int16
  scale : Int16
  subType? : Option Int16
  deriving DecidableEq, Repr

namespace Field

/-- The length in characters, in 16 bits: a part of a character does not count. -/
def characters (f : Field) : Int16 := f.length / bytesPerCharacter

/-- The digits behind the point, in 32 bits. -/
def places (f : Field) : Int32 := -f.scale.toInt32

/-- The type of a 64-bit integer: an exact number under the sub types 1 and 2. -/
def exactType (f : Field) : String :=
  match (f.subType?.getD 0).toInt with
  | 1 => "NUMERIC(18, " ++ toString f.places ++ ")"
  | 2 => "DECIMAL(18, " ++ toString f.places ++ ")"
  | _ => "BIGINT"

/-- The type as SQL; a missing sub type counts as zero. -/
def sql (f : Field) : String :=
  match FieldKind.ofCode? f.code with
  | none => fallbackType
  | some .smallInt => "SMALLINT"
  | some .integer => "INTEGER"
  | some .float => "FLOAT"
  | some .date => "DATE"
  | some .time => "TIME"
  | some .char => "CHAR(" ++ toString f.characters ++ ")"
  | some .int64 => f.exactType
  | some .double => "DOUBLE PRECISION"
  | some .timestamp => "TIMESTAMP"
  | some .varchar => "VARCHAR(" ++ toString f.characters ++ ")"
  | some .blob => "BLOB SUB_TYPE TEXT"

/-- What is reported when the type is written: that its code is not mapped. -/
def notes (f : Field) : List Entry :=
  match FieldKind.ofCode? f.code with
  | none => [⟨.debug, "Unmapped catalog type code " ++ toString f.code.toInt ++ ", using fallback"⟩]
  | some _ => []

end Field

end SchemaScript.Catalog
