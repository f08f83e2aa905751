import SchemaScript.Catalog.Source
import SchemaScript.Database.Client

/-!
# Database.Reader: the schema of a database

The catalog is read by one query for the domains, one for the tables and one for the columns of each table, one for the
procedures and one for the parameters of each procedure. The first query that fails ends the reading.
-/

namespace SchemaScript

open Catalog (Query DomainRecord ColumnRecord ParameterRecord ProcedureRow)

/-- Report some events. -/
def Action.noteAll {σ : Type} (entries : List Entry) : Action σ Unit := entries.forM fun e => Action.note e.level e.text

/-- The failure of a query of the catalog. -/
def catalogFailure (fault : ClientFault) : Failure := .source ("catalog query failed: " ++ fault.message)

namespace Client

variable {τ : Type} (c : Client τ)

/-- Ask the catalog. -/
def ask (q : Query) : Action τ (List q.Row) := (c.query q).toAction catalogFailure

/-- The domains of the catalog. -/
def domains : Action τ (List Domain) := do
  let records : List DomainRecord ← c.ask .domains
  Action.note .debug ("Loaded " ++ toString records.length ++ " domains")
  let rows := records.map (·.toRow)
  Action.noteAll (rows.flatMap (·.field.notes))
  return rows.map (·.toDomain)

/-- The columns of a table. -/
def columns (table : String) : Action τ (List Column) := do
  let records : List ColumnRecord ← c.ask (.columns table)
  Action.note .debug ("Table " ++ table ++ ": " ++ toString records.length ++ " columns")
  let rows := records.map (·.toRow)
  Action.noteAll (rows.flatMap fun r => Catalog.typeNotes r.fieldSource r.field)
  return rows.map (·.toColumn)

/-- The tables of some padded names, each with its columns. -/
def tablesNamed : List String → Action τ (List Table)
  | [] => return []
  | padded :: rest => do
    let name := Text.trimmed padded
    let columns ← c.columns name
    return ⟨name, columns⟩ :: (← tablesNamed rest)

/-- The tables of the catalog. -/
def tables : Action τ (List Table) := do
  let names : List String ← c.ask .tables
  c.tablesNamed names

/-- The procedures of some rows, each with its parameters. -/
def proceduresOf : List ProcedureRow → Action τ (List Procedure)
  | [] => return []
  | row :: rest => do
    let records : List ParameterRecord ← c.ask (.parameters (Text.trimmed row.name))
    let rows := records.map (·.toRow)
    Action.noteAll (rows.flatMap (·.notes))
    return row.toProcedure rows :: (← proceduresOf rest)

/-- The procedures of the catalog. -/
def procedures : Action τ (List Procedure) := do
  let rows : List ProcedureRow ← c.ask .procedures
  c.proceduresOf rows

/-- The catalog as a metadata source. -/
def source : Source τ := ⟨c.domains, c.tables, c.procedures⟩

end Client

/-- Connect to the database whose schema is to be read. -/
def Connector.openReader {τ : Type} (k : Connector τ) (c : Connection) : Action (World τ) Unit := do
  k.connect c
  Action.note .info ("Connected to Firebird source: " ++ c.target)

end SchemaScript
