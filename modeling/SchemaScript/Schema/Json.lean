import SchemaScript.Failure
import SchemaScript.Json.Reader
import SchemaScript.Json.Value
import SchemaScript.Schema.Validate

/-!
# Schema.Json: schemas as JSON

A schema is written as an object with its fields in order; texts that are absent are left out. When a schema is read, lists and
absent texts may be missing, and the schema has to be one that can be scripted.
-/

namespace SchemaScript

open Json (Value Field Shape Reader)

/-- A field that holds an optional text, left out when there is none. -/
def Json.optionalField (name : String) (text : Option String) : List (String × Value) :=
  (text.map fun t => (name, Value.text t)).toList

/-! ### Writing -/

/-- A domain as JSON. -/
def Domain.toJson (d : Domain) : Value :=
  .object ([("name", .text d.name), ("type_definition", .text d.type), ("is_not_null", .flag d.notNull)] ++
    Json.optionalField "default_expression" d.default? ++ Json.optionalField "check_constraint" d.check?)

/-- A column as JSON. -/
def Column.toJson (c : Column) : Value :=
  .object ([("name", .text c.name), ("type_definition", .text c.type), ("is_nullable", .flag c.nullable)] ++
    Json.optionalField "default_expression" c.default?)

/-- A table as JSON. -/
def Table.toJson (t : Table) : Value :=
  .object [("name", .text t.name), ("columns", .list (t.columns.map (·.toJson)))]

/-- A parameter as JSON. -/
def Parameter.toJson (p : Parameter) : Value :=
  .object [("name", .text p.name), ("type_definition", .text p.type)]

/-- A procedure as JSON. -/
def Procedure.toJson (p : Procedure) : Value :=
  .object [("name", .text p.name), ("source", .text p.body),
    ("input_parameters", .list (p.inputs.map (·.toJson))), ("output_parameters", .list (p.outputs.map (·.toJson)))]

/-- A schema as JSON. -/
def Schema.toJson (s : Schema) : Value :=
  .object [("domains", .list (s.domains.map (·.toJson))), ("tables", .list (s.tables.map (·.toJson))),
    ("procedures", .list (s.procedures.map (·.toJson)))]

/-- A schema as the text of a snapshot. -/
def Schema.snapshot (s : Schema) : String := s.toJson.pretty

/-! ### Reading -/

/-- The shape of a domain. -/
def Domain.shape : Shape Domain where
  name := "Domain"
  fields := [
    .of "name" true Json.readString fun v d => { d with name := v },
    .of "type_definition" true Json.readString fun v d => { d with type := v },
    .of "is_not_null" false Json.readFlag fun v d => { d with notNull := v },
    .of "default_expression" false (Json.readOptional Json.readString) fun v d => { d with default? := v },
    .of "check_constraint" false (Json.readOptional Json.readString) fun v d => { d with check? := v }]
  empty := .plain "" ""

/-- The shape of a column. -/
def Column.shape : Shape Column where
  name := "Column"
  fields := [
    .of "name" true Json.readString fun v c => { c with name := v },
    .of "type_definition" true Json.readString fun v c => { c with type := v },
    .of "is_nullable" true Json.readFlag fun v c => { c with nullable := v },
    .of "default_expression" false (Json.readOptional Json.readString) fun v c => { c with default? := v }]
  empty := .plain "" ""

/-- The shape of a table. -/
def Table.shape : Shape Table where
  name := "Table"
  fields := [
    .of "name" true Json.readString fun v t => { t with name := v },
    .of "columns" true (Json.readList (Json.readRecord Column.shape)) fun v t => { t with columns := v }]
  empty := ⟨"", []⟩

/-- The shape of a parameter. -/
def Parameter.shape : Shape Parameter where
  name := "Parameter"
  fields := [
    .of "name" true Json.readString fun v p => { p with name := v },
    .of "type_definition" true Json.readString fun v p => { p with type := v }]
  empty := ⟨"", ""⟩

/-- The shape of a procedure. -/
def Procedure.shape : Shape Procedure where
  name := "Procedure"
  fields := [
    .of "name" true Json.readString fun v p => { p with name := v },
    .of "source" true Json.readString fun v p => { p with body := v },
    .of "input_parameters" false (Json.readList (Json.readRecord Parameter.shape)) fun v p => { p with inputs := v },
    .of "output_parameters" false (Json.readList (Json.readRecord Parameter.shape)) fun v p => { p with outputs := v }]
  empty := .plain "" ""

/-- The shape of a schema. -/
def Schema.shape : Shape Schema where
  name := "Schema"
  fields := [
    .of "domains" false (Json.readList (Json.readRecord Domain.shape)) fun v s => { s with domains := v },
    .of "tables" false (Json.readList (Json.readRecord Table.shape)) fun v s => { s with tables := v },
    .of "procedures" false (Json.readList (Json.readRecord Procedure.shape)) fun v s => { s with procedures := v }]
  empty := .empty

/-- The schema itself if every object of it can be scripted. -/
def Schema.validate (s : Schema) : Except Failure Schema :=
  match s.defect? with
  | none => .ok s
  | some defect => .error (.config defect.message)

/-- The schema of a snapshot's text. -/
def Schema.ofSnapshot (text : String) : Except Failure Schema := do
  let s ← (Json.readDocument (Json.readRecord Schema.shape) text).mapError .json
  s.validate

end SchemaScript
