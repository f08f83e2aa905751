import SchemaScript.Proofs.Catalog.Direction
import SchemaScript.Proofs.Schema.Validate

/-!
# Rows that describe a schema

The rows of a catalog describe a schema (`Catalog.Rows.schema`). Names are trimmed and types are written out, and neither makes a
text blank that was not (`legible_trimmed`, `Field.legible_sql`). So the schema can be scripted exactly if the names and the field
sources in the rows are legible and every table has a column; parameters of no direction do not matter.
-/

namespace SchemaScript

open Text (Legible)

/-! ## The rows of a catalog -/

namespace Catalog

/-- The type of a field is never blank. -/
theorem Field.legible_sql (f : Field) : Legible f.sql := by
  unfold sql
  split
  case h_8 =>
    unfold exactType
    split
    · exact (Legible.append_right ⟨'N', by decide, by decide⟩ _).append_right _
    · exact (Legible.append_right ⟨'D', by decide, by decide⟩ _).append_right _
    · exact ⟨'B', by decide, by decide⟩
  case h_7 => exact (Legible.append_right ⟨'C', by decide, by decide⟩ _).append_right _
  case h_11 => exact (Legible.append_right ⟨'V', by decide, by decide⟩ _).append_right _
  case h_1 => exact ⟨'V', by decide, by decide⟩
  case h_2 => exact ⟨'S', by decide, by decide⟩
  case h_3 => exact ⟨'I', by decide, by decide⟩
  case h_4 => exact ⟨'F', by decide, by decide⟩
  case h_5 => exact ⟨'D', by decide, by decide⟩
  case h_6 => exact ⟨'T', by decide, by decide⟩
  case h_9 => exact ⟨'D', by decide, by decide⟩
  case h_10 => exact ⟨'T', by decide, by decide⟩
  case h_12 => exact ⟨'B', by decide, by decide⟩

/-- A field source of the system is legible. -/
theorem legible_of_isSystemField {source : String} (h : isSystemField source = true) : Legible source := by
  obtain ⟨rest, hrest⟩ := List.isPrefixOf_iff_prefix.mp h
  have hmem : 'R' ∈ Text.trim source.toList := hrest ▸ List.mem_append_left rest (by decide)
  exact ⟨'R', Text.mem_of_mem_trim hmem, by decide⟩

/-- The type of a column or a parameter is legible exactly if its field source is. -/
theorem legible_typeOf {source : String} {field : Field} : Legible (typeOf source field) ↔ Legible source := by
  rw [typeOf]
  split
  · rename_i hsystem
    exact iff_of_true field.legible_sql (legible_of_isSystemField hsystem)
  · exact Text.legible_trimmed

/-- A text of the catalog that counts is legible and trimmed. -/
theorem legible_of_unpadded? {text? : Option String} {text : String} (h : unpadded? text? = some text) :
    Legible text ∧ Text.trimmed text = text := by
  obtain ⟨padded, -, hpadded⟩ := Option.bind_eq_some_iff.mp h
  rw [Text.nonEmpty?] at hpadded
  split at hpadded
  · nomatch hpadded
  · rename_i hne
    obtain rfl := Option.some.inj hpadded
    refine ⟨?_, Text.trimmed_trimmed padded⟩
    rw [Text.legible_trimmed, Text.legible_iff, Ne, Text.visible_eq_nil_iff, ← Text.trim_eq_nil_iff]
    exact fun hnil => hne (by rw [Text.trimmed, hnil, String.ofList_nil])

/-- The parameters of both directions are those of the rows with one of their codes. -/
theorem mem_select_append_iff {rows : List ParameterRow} {p : Parameter} :
    p ∈ ParameterRow.select .input rows ++ ParameterRow.select .output rows ↔
      ∃ row ∈ rows, (row.directionCode = 0 ∨ row.directionCode = 1) ∧ row.toParameter = p := by
  rw [List.mem_append, ParameterRow.select_eq_map_filter Direction.ofCode?_eq_input_iff,
    ParameterRow.select_eq_map_filter Direction.ofCode?_eq_output_iff]
  simp only [List.mem_map, List.mem_filter, decide_eq_true_eq, and_assoc]
  simp only [or_and_right, and_or_left, exists_or]

/-! ## The objects that rows describe -/

/-- The domain of a row has no defect exactly if the name in the row is legible. -/
theorem DomainRow.defect?_toDomain {row : DomainRow} : row.toDomain.defect? = none ↔ Legible row.name := by
  rw [Domain.defect?_eq_none_iff]
  exact ⟨fun h => Text.legible_trimmed.mp h.1, fun h => ⟨Text.legible_trimmed.mpr h, row.field.legible_sql⟩⟩

/-- The table of a name and of column rows has no defect exactly if the name is legible, there is a row, and the names and field
sources in the rows are legible. -/
theorem ColumnRow.defect?_table {name : String} {columns : List ColumnRow} :
    (Table.mk (Text.trimmed name) (columns.map toColumn)).defect? = none ↔
      Legible name ∧ columns ≠ [] ∧ ∀ c ∈ columns, Legible c.name ∧ Legible c.fieldSource := by
  rw [Table.defect?_eq_none_iff, Text.legible_trimmed]
  simp only [ne_eq, List.map_eq_nil_iff, List.forall_mem_map, toColumn, Text.legible_trimmed, legible_typeOf]

/-- The procedure of a row has no defect exactly if its name is legible and the parameter rows of either direction have legible
names and field sources. -/
theorem ProcedureRow.defect?_toProcedure {row : ProcedureRow} {parameters : List ParameterRow} :
    (row.toProcedure parameters).defect? = none ↔
      Legible row.name ∧ ∀ p ∈ parameters, p.directionCode = 0 ∨ p.directionCode = 1 → Legible p.name ∧ Legible p.fieldSource := by
  rw [Procedure.defect?_eq_none_iff]
  refine and_congr Text.legible_trimmed ⟨fun h p hp hcode => ?_, fun h q hq => ?_⟩
  · obtain ⟨hname, htype⟩ := h p.toParameter (mem_select_append_iff.mpr ⟨p, hp, hcode, rfl⟩)
    exact ⟨Text.legible_trimmed.mp hname, legible_typeOf.mp htype⟩
  · obtain ⟨p, hp, hcode, rfl⟩ := mem_select_append_iff.mp hq
    obtain ⟨hname, hsource⟩ := h p hp hcode
    exact ⟨Text.legible_trimmed.mpr hname, legible_typeOf.mpr hsource⟩

/-- The rows of a catalog: of its domains, of the columns of each table behind the name of the table, and of the parameters of each
procedure behind the row of the procedure. -/
structure Rows where
  domains : List DomainRow
  tables : List (String × List ColumnRow)
  procedures : List (ProcedureRow × List ParameterRow)

namespace Rows

/-- The schema that some rows describe. -/
def schema (r : Rows) : Schema where
  domains := r.domains.map DomainRow.toDomain
  tables := r.tables.map fun (name, columns) => ⟨Text.trimmed name, columns.map ColumnRow.toColumn⟩
  procedures := r.procedures.map fun (row, parameters) => row.toProcedure parameters

/-- Rows of a schema that can be scripted. -/
structure Sane (r : Rows) : Prop where
  domains : ∀ d ∈ r.domains, Legible d.name
  tables : ∀ name columns, (name, columns) ∈ r.tables →
    Legible name ∧ columns ≠ [] ∧ ∀ c ∈ columns, Legible c.name ∧ Legible c.fieldSource
  procedures : ∀ row parameters, (row, parameters) ∈ r.procedures →
    Legible row.name ∧ ∀ p ∈ parameters, p.directionCode = 0 ∨ p.directionCode = 1 → Legible p.name ∧ Legible p.fieldSource

/-- A default or a check of the schema that some rows describe. -/
def HasClause (r : Rows) (text : String) : Prop :=
  (∃ d ∈ r.schema.domains, d.default? = some text ∨ d.check? = some text) ∨
  ∃ t ∈ r.schema.tables, ∃ c ∈ t.columns, c.default? = some text

/-- The schema that some rows describe is accepted exactly if the rows are sane. The type of a field is never blank, and a default or
a check that the schema has is neither blank nor padded. -/
theorem validate_schema_iff (r : Rows) :
    (r.schema.validate = .ok r.schema ↔ r.Sane) ∧ (∀ f : Field, Legible f.sql) ∧
    ∀ text, r.HasClause text → Legible text ∧ Text.trimmed text = text := by
  refine ⟨?_, Field.legible_sql, fun text h => ?_⟩
  · rw [Schema.validate_eq_ok_iff, Schema.defect?_eq_none_iff]
    simp only [schema, List.forall_mem_map, Prod.forall, DomainRow.defect?_toDomain, ColumnRow.defect?_table,
      ProcedureRow.defect?_toProcedure]
    exact ⟨fun ⟨hdomains, htables, hprocedures⟩ => ⟨hdomains, htables, hprocedures⟩, fun h => ⟨h.domains, h.tables, h.procedures⟩⟩
  · rcases h with ⟨d, hd, hclause⟩ | ⟨t, ht, c, hc, hdefault⟩
    · obtain ⟨row, -, rfl⟩ := List.mem_map.mp hd
      rcases hclause with hdefault | hcheck
      · exact legible_of_unpadded? hdefault
      · exact legible_of_unpadded? hcheck
    · obtain ⟨⟨name, columns⟩, -, rfl⟩ := List.mem_map.mp ht
      obtain ⟨row, -, rfl⟩ := List.mem_map.mp hc
      exact legible_of_unpadded? hdefault

/-- Rows with padded and blank texts: a domain, a column of an unknown type, and a parameter that is neither read nor written. -/
def paddedRows : Rows where
  domains := [⟨" D ", ⟨7, 2, 0, none⟩, some 1, some "  ", some " CHECK (VALUE > 0) "⟩]
  tables := [("T  ", [⟨"C ", " RDB$1", ⟨99, 0, 0, none⟩, none, none⟩])]
  procedures := [(⟨"P", ""⟩, [⟨"", 2, " ", ⟨0, 0, 0, none⟩⟩])]

/-- Their schema is accepted, so they are sane; its check is not padded. -/
theorem paddedRows_sane : paddedRows.schema.validate = .ok paddedRows.schema ∧ paddedRows.Sane ∧
    paddedRows.HasClause "CHECK (VALUE > 0)" ∧ Text.trimmed "CHECK (VALUE > 0)" = "CHECK (VALUE > 0)" := by
  have hvalid : paddedRows.schema.validate = .ok paddedRows.schema := Action.eq_ok_of_toOption (by decide +kernel)
  have hclause : paddedRows.HasClause "CHECK (VALUE > 0)" := .inl ⟨_, List.mem_singleton_self _, .inr (by decide +kernel)⟩
  obtain ⟨hsane, -, htrimmed⟩ := paddedRows.validate_schema_iff
  exact ⟨hvalid, hsane.mp hvalid, hclause, (htrimmed _ hclause).2⟩

end Rows

end Catalog

end SchemaScript
