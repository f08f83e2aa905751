import SchemaScript.Catalog.Row
import SchemaScript.Ddl.Render
import SchemaScript.Proofs.Text.Trim

/-!
# Padding in a catalog

The catalog may put blanks around the texts of a row (`Text.Padded`). They are trimmed off wherever such a text is read, also before a
field source is told apart as one of the system (`isSystemField_eq_of_padded`) and before a default or a check counts as absent
(`unpadded?_eq_of_padded`). So a padded row describes the same object as the row without padding, with the same script. The body of a
procedure is kept as it is; blanks behind it reach neither its script nor the choice of its terminator
(`Ddl.procedure_append_blank`).
-/

namespace SchemaScript

/-- A text with blanks around it. -/
def Text.Padded (text padded : String) : Prop :=
  ∃ before behind : String, allBlank before = true ∧ allBlank behind = true ∧ padded = before ++ text ++ behind

namespace Text

variable {text padded : String}

/-- Padding is trimmed off, on characters. -/
theorem trim_eq_of_padded (h : Padded text padded) : trim padded.toList = trim text.toList := by
  obtain ⟨before, behind, hbefore, hbehind, rfl⟩ := h
  rw [String.toList_append, String.toList_append, trim_append_blank _ (List.all_eq_true.mp hbehind),
    trim_blank_append (List.all_eq_true.mp hbefore)]

/-- Padding is trimmed off. -/
theorem trimmed_eq_of_padded (h : Padded text padded) : trimmed padded = trimmed text := by
  rw [trimmed, trim_eq_of_padded h, trimmed]

end Text

/-! ## Blanks behind a body -/

namespace Ddl

variable {blanks : String}

/-- Blanks behind a body do not tell whether it still needs its terminator. -/
theorem missingTerminator?_append_blank (h : Text.allBlank blanks = true) (body : String) :
    missingTerminator? (body ++ blanks) = missingTerminator? body := by
  rw [missingTerminator?, String.toList_append, Text.trimEnd_append_blank _ (List.all_eq_true.mp h), missingTerminator?]

/-- Blanks behind a body do not show in the script of the procedure. -/
theorem procedure_append_blank (h : Text.allBlank blanks = true) (p : Procedure) :
    procedure { p with body := p.body ++ blanks } = procedure p := by
  have htrimmed : Text.trimmedEnd (p.body ++ blanks) = Text.trimmedEnd p.body := by
    rw [Text.trimmedEnd, String.toList_append, Text.trimEnd_append_blank _ (List.all_eq_true.mp h), Text.trimmedEnd]
  rw [procedure, procedure]
  dsimp only
  rw [htrimmed, missingTerminator?_append_blank h]

end Ddl

/-! ## Padded rows -/

namespace Catalog

/-- A row of the domains with blanks around its texts. -/
structure DomainRow.Padded (row padded : DomainRow) : Prop where
  name : Text.Padded row.name padded.name
  field : padded.field = row.field
  nullFlag? : padded.nullFlag? = row.nullFlag?
  default? : Option.Rel Text.Padded row.default? padded.default?
  check? : Option.Rel Text.Padded row.check? padded.check?

/-- A row of the columns with blanks around its texts. -/
structure ColumnRow.Padded (row padded : ColumnRow) : Prop where
  name : Text.Padded row.name padded.name
  fieldSource : Text.Padded row.fieldSource padded.fieldSource
  field : padded.field = row.field
  nullFlag? : padded.nullFlag? = row.nullFlag?
  default? : Option.Rel Text.Padded row.default? padded.default?

/-- A row of the parameters with blanks around its texts. -/
structure ParameterRow.Padded (row padded : ParameterRow) : Prop where
  name : Text.Padded row.name padded.name
  directionCode : padded.directionCode = row.directionCode
  fieldSource : Text.Padded row.fieldSource padded.fieldSource
  field : padded.field = row.field

/-- A row of the procedures with blanks around its name. -/
structure ProcedureRow.Padded (row padded : ProcedureRow) : Prop where
  name : Text.Padded row.name padded.name
  body : padded.body = row.body

/-- Padding is cut off an optional text before it counts as absent. -/
theorem unpadded?_eq_of_padded {text? padded? : Option String} (h : Option.Rel Text.Padded text? padded?) :
    unpadded? padded? = unpadded? text? := by
  cases h with
  | none => rfl
  | some h => rw [unpadded?, Option.bind_some, Text.trimmed_eq_of_padded h, unpadded?, Option.bind_some]

section FieldSource

variable {source padded : String}

/-- Padding does not tell whether a field source belongs to the system. -/
theorem isSystemField_eq_of_padded (h : Text.Padded source padded) : isSystemField padded = isSystemField source := by
  rw [isSystemField, Text.trim_eq_of_padded h, isSystemField]

/-- Padding of a field source makes no other type. -/
theorem typeOf_eq_of_padded (h : Text.Padded source padded) (field : Field) : typeOf padded field = typeOf source field := by
  rw [typeOf, isSystemField_eq_of_padded h, Text.trimmed_eq_of_padded h, typeOf]

end FieldSource

/-! ## The objects that they describe -/

/-- A padded row describes the domain of the row. -/
theorem DomainRow.Padded.toDomain_eq {row padded : DomainRow} (h : row.Padded padded) : padded.toDomain = row.toDomain := by
  rw [toDomain, toDomain, Text.trimmed_eq_of_padded h.name, h.field, h.nullFlag?, unpadded?_eq_of_padded h.default?,
    unpadded?_eq_of_padded h.check?]

/-- A padded row describes the column of the row. -/
theorem ColumnRow.Padded.toColumn_eq {row padded : ColumnRow} (h : row.Padded padded) : padded.toColumn = row.toColumn := by
  rw [toColumn, toColumn, Text.trimmed_eq_of_padded h.name, h.field, typeOf_eq_of_padded h.fieldSource, h.nullFlag?,
    unpadded?_eq_of_padded h.default?]

namespace ParameterRow

/-- A padded row has the direction of the row. -/
theorem Padded.direction?_eq {row padded : ParameterRow} (h : row.Padded padded) : padded.direction? = row.direction? := by
  rw [direction?, h.directionCode, direction?]

/-- A padded row describes the parameter of the row. -/
theorem Padded.toParameter_eq {row padded : ParameterRow} (h : row.Padded padded) : padded.toParameter = row.toParameter := by
  rw [toParameter, toParameter, Text.trimmed_eq_of_padded h.name, h.field, typeOf_eq_of_padded h.fieldSource]

/-- The parameters of a direction are the same, row by row. -/
theorem select_eq_of_padded {rows padded : List ParameterRow} (h : List.Forall₂ Padded rows padded) (d : Direction) :
    select d padded = select d rows := by
  induction h with
  | nil => rfl
  | @cons row row' rows rows' hrow _ ih =>
    rw [select, select] at ih ⊢
    rw [List.filter_cons, List.filter_cons, hrow.direction?_eq]
    split
    · rw [List.map_cons, List.map_cons, hrow.toParameter_eq, ih]
    · exact ih

end ParameterRow

/-- A padded row and padded rows of its parameters describe the procedure of the rows. -/
theorem ProcedureRow.Padded.toProcedure_eq {row padded : ProcedureRow} (h : row.Padded padded) {rows rows' : List ParameterRow}
    (hrows : List.Forall₂ ParameterRow.Padded rows rows') : padded.toProcedure rows' = row.toProcedure rows := by
  rw [toProcedure, toProcedure, Text.trimmed_eq_of_padded h.name, h.body, ParameterRow.select_eq_of_padded hrows,
    ParameterRow.select_eq_of_padded hrows]

/-- Padded rows describe the same domain, column, parameter with its direction and procedure as the rows without padding, and these
have the same script. Blanks behind the body of a procedure leave its script as it is, and its terminator is put there or left out
alike. -/
theorem padding_leaves_script :
    (∀ row padded : DomainRow, row.Padded padded →
      padded.toDomain = row.toDomain ∧ Ddl.domain padded.toDomain = Ddl.domain row.toDomain) ∧
    (∀ row padded : ColumnRow, row.Padded padded →
      padded.toColumn = row.toColumn ∧ Ddl.column padded.toColumn = Ddl.column row.toColumn) ∧
    (∀ row padded : ParameterRow, row.Padded padded →
      padded.direction? = row.direction? ∧ padded.toParameter = row.toParameter) ∧
    (∀ (row padded : ProcedureRow) (rows rows' : List ParameterRow), row.Padded padded →
      List.Forall₂ ParameterRow.Padded rows rows' →
      padded.toProcedure rows' = row.toProcedure rows ∧
      Ddl.procedure (padded.toProcedure rows') = Ddl.procedure (row.toProcedure rows)) ∧
    ∀ (p : Procedure) (blanks : String), Text.allBlank blanks = true →
      Ddl.procedure { p with body := p.body ++ blanks } = Ddl.procedure p ∧
      Ddl.missingTerminator? (p.body ++ blanks) = Ddl.missingTerminator? p.body := by
  refine ⟨fun row padded h => ?_, fun row padded h => ?_, fun row padded h => ?_, fun row padded rows rows' h hrows => ?_,
    fun p blanks h => ?_⟩
  · exact ⟨h.toDomain_eq, congrArg Ddl.domain h.toDomain_eq⟩
  · exact ⟨h.toColumn_eq, congrArg Ddl.column h.toColumn_eq⟩
  · exact ⟨h.direction?_eq, h.toParameter_eq⟩
  · exact ⟨h.toProcedure_eq hrows, congrArg Ddl.procedure (h.toProcedure_eq hrows)⟩
  · exact ⟨Ddl.procedure_append_blank h p, Ddl.missingTerminator?_append_blank h p.body⟩

/-- A domain, a column of a system field and a procedure with a parameter of a domain, padded by blanks of several kinds. -/
theorem padding_leaves_charRows :
    let domain : DomainRow := ⟨"D", ⟨7, 2, 0, none⟩, none, some "DEFAULT 1", some "CHECK (VALUE > 0)"⟩
    let domain' : DomainRow := ⟨"D ", ⟨7, 2, 0, none⟩, none, some "DEFAULT 1\r\n", some "  CHECK (VALUE > 0)"⟩
    let column : ColumnRow := ⟨"C", "RDB$1", ⟨14, 40, 0, none⟩, some 1, none⟩
    let column' : ColumnRow := ⟨"C  ", "\tRDB$1", ⟨14, 40, 0, none⟩, some 1, none⟩
    let parameter : ParameterRow := ⟨"A", 1, "D", ⟨0, 0, 0, none⟩⟩
    let parameter' : ParameterRow := ⟨"\u00a0A", 1, "D\u3000", ⟨0, 0, 0, none⟩⟩
    let row : ProcedureRow := ⟨"P", "BEGIN END^"⟩
    let row' : ProcedureRow := ⟨" P ", "BEGIN END^"⟩
    (domain.Padded domain' ∧ Ddl.domain domain'.toDomain = Ddl.domain domain.toDomain) ∧
    (column.Padded column' ∧ Ddl.column column'.toColumn = Ddl.column column.toColumn) ∧
    (parameter.Padded parameter' ∧ parameter'.toParameter = parameter.toParameter) ∧
    (row.Padded row' ∧ row'.toProcedure [parameter'] = row.toProcedure [parameter]) ∧
    Text.allBlank " \n" = true ∧ Ddl.missingTerminator? (row.body ++ " \n") = Ddl.missingTerminator? row.body := by
  intro domain domain' column column' parameter parameter' row row'
  have hdomain : domain.Padded domain' :=
    ⟨⟨"", " ", rfl, rfl, rfl⟩, rfl, rfl, .some ⟨"", "\r\n", rfl, rfl, rfl⟩, .some ⟨"  ", "", rfl, rfl, rfl⟩⟩
  have hcolumn : column.Padded column' := ⟨⟨"", "  ", rfl, rfl, rfl⟩, ⟨"\t", "", rfl, rfl, rfl⟩, rfl, rfl, .none⟩
  have hparameter : parameter.Padded parameter' :=
    ⟨⟨"\u00a0", "", rfl, rfl, rfl⟩, rfl, ⟨"", "\u3000", rfl, rfl, rfl⟩, rfl⟩
  have hrow : row.Padded row' := ⟨⟨" ", " ", rfl, rfl, rfl⟩, rfl⟩
  have hblanks : Text.allBlank " \n" = true := rfl
  obtain ⟨hdomains, hcolumns, hparameters, hprocedures, hbodies⟩ := padding_leaves_script
  exact ⟨⟨hdomain, (hdomains _ _ hdomain).2⟩, ⟨hcolumn, (hcolumns _ _ hcolumn).2⟩, ⟨hparameter, (hparameters _ _ hparameter).2⟩,
    ⟨hrow, (hprocedures _ _ _ _ hrow (.cons hparameter .nil)).1⟩, hblanks, (hbodies (row.toProcedure []) _ hblanks).2⟩

end Catalog

end SchemaScript
