import SchemaScript.Catalog.Field
import SchemaScript.Schema.Basic
import SchemaScript.Text.Blank

/-!
# Catalog.Row: the rows of the catalog and the objects they describe

Names and texts of the catalog may be padded with blanks, which are cut off. A field source that starts with `RDB$` belongs
to the system, and the field is written out; any other field source is the name of a domain. The body of a procedure is kept
as it is.
-/

namespace SchemaScript.Catalog

/-- A text of the catalog without its padding; a blank one counts as absent. -/
def unpadded? (text : Option String) : Option String := text.bind fun t => Text.nonEmpty? (Text.trimmed t)

/-- What the field sources of the system start with. -/
def systemFieldStart : String := "RDB$"

/-- Whether a field source belongs to the system. -/
def isSystemField (source : String) : Bool :=
  systemFieldStart.toList.isPrefixOf (Text.trim source.toList)

/-- The type of a column or parameter: the field written out, or the domain that the source names. -/
def typeOf (source : String) (field : Field) : String :=
  if isSystemField source then field.sql else Text.trimmed source

/-- What is reported when `typeOf` writes a type. -/
def typeNotes (source : String) (field : Field) : List Entry := if isSystemField source then field.notes else []

/-- A row of the domains. -/
structure DomainRow where
  name : String
  field : Field
  nullFlag? : Option Int16
  default? : Option String
  check? : Option String
  deriving DecidableEq, Repr

namespace DomainRow

/-- The domain of a row; NULL is forbidden by the flag 1. -/
def toDomain (r : DomainRow) : Domain where
  name := Text.trimmed r.name
  type := r.field.sql
  notNull := r.nullFlag? == some 1
  default? := unpadded? r.default?
  check? := unpadded? r.check?

end DomainRow

/-- A row of the columns of a table. -/
structure ColumnRow where
  name : String
  fieldSource : String
  field : Field
  nullFlag? : Option Int16
  default? : Option String
  deriving DecidableEq, Repr

namespace ColumnRow

/-- The column of a row; NULL is allowed without a flag and by the flag 0. -/
def toColumn (r : ColumnRow) : Column where
  name := Text.trimmed r.name
  type := typeOf r.fieldSource r.field
  nullable := r.nullFlag?.getD 0 == 0
  default? := unpadded? r.default?

end ColumnRow

/-- The direction of a parameter. -/
inductive Direction
  | input
  | output
  deriving DecidableEq, Repr

/-- The direction that a code stands for. -/
def Direction.ofCode? (code : Int16) : Option Direction :=
  if code = 0 then some .input else if code = 1 then some .output else none

/-- A row of the parameters of a procedure. -/
structure ParameterRow where
  name : String
  directionCode : Int16
  fieldSource : String
  field : Field
  deriving DecidableEq, Repr

namespace ParameterRow

/-- The direction of the row's parameter; rows of another kind describe none. -/
def direction? (r : ParameterRow) : Option Direction := Direction.ofCode? r.directionCode

/-- The parameter of a row, whatever its direction. -/
def toParameter (r : ParameterRow) : Parameter := ⟨Text.trimmed r.name, typeOf r.fieldSource r.field⟩

/-- What is reported when the row is read: nothing for a row that describes no parameter. -/
def notes (r : ParameterRow) : List Entry :=
  if r.direction?.isSome then typeNotes r.fieldSource r.field else []

/-- The parameters of one direction, in the order of their rows. -/
def select (d : Direction) (rows : List ParameterRow) : List Parameter :=
  (rows.filter (·.direction? == some d)).map toParameter

end ParameterRow

/-- A row of the procedures. -/
structure ProcedureRow where
  name : String
  body : String
  deriving DecidableEq, Repr

namespace ProcedureRow

/-- The procedure of a row and the rows of its parameters. -/
def toProcedure (r : ProcedureRow) (parameters : List ParameterRow) : Procedure where
  name := Text.trimmed r.name
  body := r.body
  inputs := ParameterRow.select .input parameters
  outputs := ParameterRow.select .output parameters

end ProcedureRow

end SchemaScript.Catalog
