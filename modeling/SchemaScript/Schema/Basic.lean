import SchemaScript.Text.Search

/-!
# Schema.Basic: the objects of a database schema

Domains, tables with their columns, and stored procedures with their parameters, in the order in which they are scripted.
Optional texts are absent rather than empty; the functions that set one keep it so.
-/

namespace SchemaScript

/-- A named column type. -/
structure Domain where
  name : String
  type : String
  notNull : Bool
  default? : Option String
  check? : Option String
  deriving DecidableEq, Repr

/-- A column of a table; its type is a type expression or the name of a domain. -/
structure Column where
  name : String
  type : String
  nullable : Bool
  default? : Option String
  deriving DecidableEq, Repr

/-- A table with its columns in order. -/
structure Table where
  name : String
  columns : List Column
  deriving DecidableEq, Repr

/-- A parameter of a procedure; the list that holds it gives its direction. -/
structure Parameter where
  name : String
  type : String
  deriving DecidableEq, Repr

/-- A stored procedure; the body is opaque text. -/
structure Procedure where
  name : String
  body : String
  inputs : List Parameter
  outputs : List Parameter
  deriving DecidableEq, Repr

/-- All objects of a database. -/
structure Schema where
  domains : List Domain
  tables : List Table
  procedures : List Procedure
  deriving DecidableEq, Repr

namespace Domain

/-- A nullable domain without default and check. -/
def plain (name type : String) : Domain := ⟨name, type, false, none, none⟩

/-- The domain without NULL. -/
def required (d : Domain) : Domain := { d with notNull := true }

/-- The domain with a default; an empty text takes the default away. -/
def withDefault (d : Domain) (text : String) : Domain := { d with default? := Text.nonEmpty? text }

/-- The domain with a check; an empty text takes the check away. -/
def withCheck (d : Domain) (text : String) : Domain := { d with check? := Text.nonEmpty? text }

end Domain

namespace Column

/-- A nullable column without a default. -/
def plain (name type : String) : Column := ⟨name, type, true, none⟩

/-- The column without NULL. -/
def required (c : Column) : Column := { c with nullable := false }

/-- The column with a default; an empty text takes the default away. -/
def withDefault (c : Column) (text : String) : Column := { c with default? := Text.nonEmpty? text }

end Column

namespace Procedure

/-- A procedure without parameters. -/
def plain (name body : String) : Procedure := ⟨name, body, [], []⟩

/-- The procedure with other input parameters. -/
def withInputs (p : Procedure) (inputs : List Parameter) : Procedure := { p with inputs := inputs }

/-- The procedure with other output parameters. -/
def withOutputs (p : Procedure) (outputs : List Parameter) : Procedure := { p with outputs := outputs }

end Procedure

namespace Schema

/-- A schema without objects. -/
def empty : Schema := ⟨[], [], []⟩

/-- The number of objects of a schema. -/
def size (s : Schema) : Nat := s.domains.length + s.tables.length + s.procedures.length

end Schema

end SchemaScript
