import SchemaScript.Schema.Basic
import SchemaScript.Text.Blank

/-!
# Schema.Validate: whether every object of a schema can be scripted

A schema can be scripted when no name and no type is blank and every table has a column. `Schema.defect?` finds the first
place where that fails, in the order in which the objects are scripted.
-/

namespace SchemaScript

/-- The named or typed parts of a schema. -/
inductive Schema.Part
  | domainName
  | domainType
  | tableName
  | columnName
  | columnType
  | procedureName
  | parameterName
  | parameterType
  deriving DecidableEq, Repr

/-- How a part of a schema is called in messages. -/
def Schema.Part.label : Schema.Part → String
  | domainName => "domain name"
  | domainType => "domain type"
  | tableName => "table name"
  | columnName => "column name"
  | columnType => "column type"
  | procedureName => "procedure name"
  | parameterName => "parameter name"
  | parameterType => "parameter type"

/-- Why a schema cannot be scripted. -/
inductive Schema.Defect
  /-- A name or a type is blank; the owner is the object that holds it, empty for the object's own name. -/
  | blank (part : Schema.Part) (owner : String)
  | noColumns (table : String)
  deriving DecidableEq, Repr

/-- The text of a defect. -/
def Schema.Defect.message : Schema.Defect → String
  | blank part owner =>
    if owner = "" then "snapshot " ++ part.label ++ " is empty"
    else "snapshot " ++ part.label ++ " is empty in '" ++ owner ++ "'"
  | noColumns table => "snapshot table '" ++ table ++ "' has no columns"

namespace Schema

/-- The defect of a blank text, if it is blank. -/
def blankDefect? (part : Part) (text owner : String) : Option Defect :=
  if Text.allBlank text then some (.blank part owner) else none

end Schema

/-- The first defect of a domain. -/
def Domain.defect? (d : Domain) : Option Schema.Defect :=
  (Schema.blankDefect? .domainName d.name "").or (Schema.blankDefect? .domainType d.type d.name)

/-- The first defect of a column of a table. -/
def Column.defect? (table : String) (c : Column) : Option Schema.Defect :=
  (Schema.blankDefect? .columnName c.name table).or (Schema.blankDefect? .columnType c.type table)

/-- The first defect of a table: its name, then whether it has columns, then the columns in order. -/
def Table.defect? (t : Table) : Option Schema.Defect :=
  (Schema.blankDefect? .tableName t.name "").or <|
    if t.columns.isEmpty then some (.noColumns t.name) else t.columns.findSome? (·.defect? t.name)

/-- The first defect of a parameter of a procedure. -/
def Parameter.defect? (procedure : String) (p : Parameter) : Option Schema.Defect :=
  (Schema.blankDefect? .parameterName p.name procedure).or (Schema.blankDefect? .parameterType p.type procedure)

/-- The first defect of a procedure: its name, then its inputs, then its outputs. -/
def Procedure.defect? (p : Procedure) : Option Schema.Defect :=
  (Schema.blankDefect? .procedureName p.name "").or ((p.inputs ++ p.outputs).findSome? (·.defect? p.name))

/-- The first defect of a schema: domains, then tables, then procedures. -/
def Schema.defect? (s : Schema) : Option Schema.Defect :=
  (s.domains.findSome? (·.defect?)).or ((s.tables.findSome? (·.defect?)).or (s.procedures.findSome? (·.defect?)))

end SchemaScript
