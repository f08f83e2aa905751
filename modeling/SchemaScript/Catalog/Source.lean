import SchemaScript.Action
import SchemaScript.Schema.Basic

/-!
# Catalog.Source: where a schema is read from

A source gives the domains, the tables and the procedures of a database. A schema is loaded in this order, and the first
failure ends the loading.
-/

namespace SchemaScript

/-- The parts of a schema as a peer of type `τ` gives them. -/
structure Source (τ : Type) where
  domains : Action τ (List Domain)
  tables : Action τ (List Table)
  procedures : Action τ (List Procedure)

namespace Source

/-- Load the whole schema: domains, then tables, then procedures. -/
def loadSchema {τ : Type} (s : Source τ) : Action τ Schema := do
  let domains ← s.domains
  let tables ← s.tables
  let procedures ← s.procedures
  return ⟨domains, tables, procedures⟩

/-- The source that holds a schema already. -/
def ofSchema {τ : Type} (s : Schema) : Source τ := ⟨pure s.domains, pure s.tables, pure s.procedures⟩

end Source

end SchemaScript
