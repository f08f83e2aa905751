import SchemaScript.Catalog.Row

/-!
# Catalog.Record: the answers of the catalog

A record holds the values of a row as the catalog answers them. A scale that is missing counts as zero, and so do the code and
the length of a parameter whose field the catalog does not know.
-/

namespace SchemaScript.Catalog

/-- An answer about a domain. -/
structure DomainRecord where
  name : String
  code : Int16
  length : Int16
  scale? : Option Int16
  subType? : Option Int16
  nullFlag? : Option Int16
  default? : Option String
  check? : Option String
  deriving DecidableEq, Repr

/-- The row of an answer about a domain. -/
def DomainRecord.toRow (r : DomainRecord) : DomainRow :=
  ⟨r.name, ⟨r.code, r.length, r.scale?.getD 0, r.subType?⟩, r.nullFlag?, r.default?, r.check?⟩

/-- An answer about a column. -/
structure ColumnRecord where
  name : String
  fieldSource : String
  code : Int16
  length : Int16
  scale? : Option Int16
  subType? : Option Int16
  nullFlag? : Option Int16
  default? : Option String
  deriving DecidableEq, Repr

/-- The row of an answer about a column. -/
def ColumnRecord.toRow (r : ColumnRecord) : ColumnRow :=
  ⟨r.name, r.fieldSource, ⟨r.code, r.length, r.scale?.getD 0, r.subType?⟩, r.nullFlag?, r.default?⟩

/-- An answer about a parameter. -/
structure ParameterRecord where
  name : String
  directionCode : Int16
  fieldSource : String
  code? : Option Int16
  length? : Option Int16
  scale? : Option Int16
  subType? : Option Int16
  deriving DecidableEq, Repr

/-- The row of an answer about a parameter. -/
def ParameterRecord.toRow (r : ParameterRecord) : ParameterRow :=
  ⟨r.name, r.directionCode, r.fieldSource, ⟨r.code?.getD 0, r.length?.getD 0, r.scale?.getD 0, r.subType?⟩⟩

end SchemaScript.Catalog
