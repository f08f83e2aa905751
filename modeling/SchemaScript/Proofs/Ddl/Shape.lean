import SchemaScript.Ddl.Render
import SchemaScript.Proofs.Script.Run

/-!
# The lines of a generated script

A generated script is a list of texts with a line break behind each (`toList_schema`): the banners, the statements of the
domains and tables, and for each procedure its two directives with the text between them. None of these texts ends with a CR,
so the lines of the script are the lines of the texts (`lines_schema`).
-/

namespace SchemaScript.Ddl

open Text Script

/-- The text of a procedure from `CREATE` to the end of its body. -/
def procedureText (p : Procedure) : String :=
  "CREATE PROCEDURE " ++ p.name ++ parameterList " " p.inputs ++ parameterList "\nRETURNS " p.outputs ++ "\nAS\n" ++
    trimmedEnd p.body

/-- The text of a procedure between its two directives. -/
def undirected (p : Procedure) : String := procedureText p ++ "\n" ++ (missingTerminator? p.body).getD ""

/-- The texts of a procedure that end with a line break each. -/
def procedureBlocks (p : Procedure) : List String :=
  [setCaret, procedureText p, (missingTerminator? p.body).getD "", setSemicolon]

/-- The texts of a script that end with a line break each. -/
def blocks (s : Schema) : List String :=
  [scriptBanner, domainsBanner] ++ s.domains.map domain ++ ["", tablesBanner] ++ s.tables.map table ++
    ["", proceduresBanner] ++ s.procedures.flatMap fun p => procedureBlocks p ++ [""]

/-- The lines of a procedure's script between its two directives. -/
def innerLines (p : Procedure) : List (List Char) := (lines (procedure p).toList).tail.dropLast

/-- A procedure's script is its text between the two directives. -/
theorem procedure_eq (p : Procedure) :
    procedure p = setCaret ++ "\n" ++ undirected p ++ "\n" ++ setSemicolon ++ "\n" := by
  have h : "\nCREATE PROCEDURE " = "\n" ++ "CREATE PROCEDURE " := by decide
  unfold procedure undirected procedureText
  rw [h]
  simp only [String.append_assoc]

theorem toList_unlines (texts : List String) : (unlines texts).toList = Script.endLines (texts.map String.toList) := by
  simp [unlines, Script.endLines, List.flatMap_map]

/-- A procedure's script is its blocks, each with a line break behind it. -/
theorem procedure_eq_unlines (p : Procedure) : procedure p = unlines (procedureBlocks p) := by
  rw [procedure_eq, undirected, procedureBlocks]
  simp only [unlines_cons, unlines_nil, String.append_assoc, String.append_empty]

/-- The scripts of procedures are their blocks, with an empty line behind each procedure. -/
theorem unlines_map_procedure (ps : List Procedure) :
    unlines (ps.map procedure) = unlines (ps.flatMap fun p => procedureBlocks p ++ [""]) := by
  induction ps with
  | nil => rfl
  | cons p ps ih =>
    rw [List.map_cons, List.flatMap_cons, unlines_cons, unlines_append, unlines_append, ih, procedure_eq_unlines,
      unlines_cons, unlines_nil, String.empty_append, String.append_empty]

/-- A script is its blocks, each with a line break behind it. -/
theorem schema_eq_unlines (s : Schema) : schema s = unlines (blocks s) := by
  rw [schema, domainsSection, tablesSection, proceduresSection, unlines_map_procedure, blocks]
  simp only [unlines_append, unlines_cons, unlines_nil, String.append_assoc, String.append_empty, String.empty_append]

/-! ## How the texts start and end -/

/-- A domain's statement ends with a semicolon. -/
theorem getLast?_domain (d : Domain) : (domain d).toList.getLast? = some ';' := by
  unfold domain
  rw [String.toList_append, List.getLast?_append]
  rfl

theorem getLast?_table (t : Table) : (table t).toList.getLast? = some ';' := by
  unfold table
  rw [String.toList_append, List.getLast?_append]
  rfl

/-- A domain's statement starts with a letter. -/
theorem exists_domain (d : Domain) : ∃ rest, (domain d).toList = 'C' :: rest := by
  unfold domain
  simp only [String.append_assoc, String.toList_append]
  exact ⟨_, rfl⟩

theorem exists_table (t : Table) : ∃ rest, (table t).toList = 'C' :: rest := by
  unfold table
  simp only [String.append_assoc, String.toList_append]
  exact ⟨_, rfl⟩

theorem exists_procedureText (p : Procedure) : ∃ rest, (procedureText p).toList = 'C' :: rest := by
  unfold procedureText
  simp only [String.append_assoc, String.toList_append]
  exact ⟨_, rfl⟩

/-- The text of a procedure is trimmed at its end, or ends with the LF in front of a blank body. -/
theorem getLast?_procedureText_ne_cr (p : Procedure) : (procedureText p).toList.getLast? ≠ some '\r' := by
  unfold procedureText
  rw [String.toList_append, trimmedEnd, String.toList_ofList, List.getLast?_append, getLast?_trimEnd]
  cases h : lastVisible? p.body.toList with
  | none =>
    have hlf : "\nAS\n".toList.getLast? = some '\n' := by decide
    rw [Option.none_or, String.toList_append, List.getLast?_append, hlf, Option.some_or]
    decide
  | some c =>
    rw [Option.some_or]
    intro e
    rw [Option.some.inj e] at h
    exact absurd (isBlank_of_lastVisible h) (by decide)

/-- The text of a procedure ends with the last visible character of its body, if there is one. -/
theorem getLast?_procedureText {p : Procedure} {c : Char} (h : lastVisible? p.body.toList = some c) :
    (procedureText p).toList.getLast? = some c := by
  unfold procedureText
  rw [String.toList_append, trimmedEnd, String.toList_ofList, List.getLast?_append, getLast?_trimEnd, h, Option.some_or]

/-- The last visible character of a procedure's text is that of its body, or the end of `AS`. -/
theorem lastVisible?_procedureText (p : Procedure) :
    lastVisible? (procedureText p).toList = (lastVisible? p.body.toList).or (some 'S') := by
  unfold procedureText
  rw [String.toList_append, trimmedEnd, String.toList_ofList, lastVisible?_append, lastVisible?, visible_trimEnd,
    ← lastVisible?, String.toList_append, lastVisible?_append]
  rfl

/-- The terminator that a body needs is a caret or none. -/
theorem missingTerminator_cases (p : Procedure) :
    (missingTerminator? p.body = none ∧ lastVisible? p.body.toList = some '^') ∨
      (missingTerminator? p.body = some "^" ∧ lastVisible? p.body.toList ≠ some '^') := by
  unfold missingTerminator?
  rw [getLast?_trimEnd]
  split
  · rename_i h
    exact .inl ⟨rfl, h⟩
  · rename_i h
    exact .inr ⟨rfl, h⟩

/-- The terminator that a body may miss is no CR. -/
theorem getLast?_missingTerminator_ne_cr (p : Procedure) :
    ((missingTerminator? p.body).getD "").toList.getLast? ≠ some '\r' := by
  rcases missingTerminator_cases p with ⟨h, -⟩ | ⟨h, -⟩
  · rw [h]
    decide
  · rw [h]
    decide

/-! ## Lines -/

/-- No block of a procedure ends with a CR. -/
theorem getLast?_ne_cr_of_mem_procedureBlocks {p : Procedure} {text : String} (h : text ∈ procedureBlocks p) :
    text.toList.getLast? ≠ some '\r' := by
  simp only [procedureBlocks, List.mem_cons, List.not_mem_nil, or_false] at h
  rcases h with rfl | rfl | rfl | rfl
  · decide
  · exact getLast?_procedureText_ne_cr p
  · exact getLast?_missingTerminator_ne_cr p
  · decide

/-- No block of a script ends with a CR. -/
theorem getLast?_ne_cr_of_mem_blocks {s : Schema} {text : String} (h : text ∈ blocks s) :
    text.toList.getLast? ≠ some '\r' := by
  simp only [blocks, List.mem_append, List.mem_map, List.mem_flatMap, or_assoc] at h
  rcases h with h | ⟨d, -, rfl⟩ | h | ⟨t, -, rfl⟩ | h | ⟨p, -, h | h⟩
  · revert text
    decide
  · rw [getLast?_domain]
    decide
  · revert text
    decide
  · rw [getLast?_table]
    decide
  · revert text
    decide
  · exact getLast?_ne_cr_of_mem_procedureBlocks h
  · rw [List.mem_singleton.1 h]
    decide

/-- The lines of a script are those of its texts. -/
theorem lines_schema (s : Schema) : lines (schema s).toList = (blocks s).flatMap fun text => pieces text.toList := by
  rw [schema_eq_unlines, toList_unlines, lines_endLines, List.flatMap_map]
  · simp [blocks]
  · intro text h
    obtain ⟨text, hmem, rfl⟩ := List.mem_map.1 h
    exact getLast?_ne_cr_of_mem_blocks hmem

theorem pieces_setCaret : pieces setCaret.toList = [setCaret.toList] := by
  decide

theorem pieces_setSemicolon : pieces setSemicolon.toList = [setSemicolon.toList] := by
  decide

/-- The lines of a procedure: its directives around the lines of its text and the terminator, if one is missing. -/
theorem lines_procedure_pieces (p : Procedure) :
    lines (procedure p).toList = setCaret.toList ::
      (pieces (procedureText p).toList ++ pieces ((missingTerminator? p.body).getD "").toList) ++
        [setSemicolon.toList] := by
  rw [procedure_eq_unlines, toList_unlines, lines_endLines]
  · simp [procedureBlocks, pieces_setCaret, pieces_setSemicolon]
  · simp [procedureBlocks]
  · intro text h
    obtain ⟨text, hmem, rfl⟩ := List.mem_map.1 h
    exact getLast?_ne_cr_of_mem_procedureBlocks hmem

/-- The lines between the directives are those of the procedure's text and the terminator, if one is missing. -/
theorem innerLines_eq (p : Procedure) :
    innerLines p = pieces (procedureText p).toList ++ pieces ((missingTerminator? p.body).getD "").toList := by
  rw [innerLines, lines_procedure_pieces, List.cons_append, List.tail_cons, List.dropLast_concat]

/-- The lines of a procedure: its directives around the lines between them. -/
theorem lines_procedure (p : Procedure) :
    lines (procedure p).toList = setCaret.toList :: (innerLines p ++ [setSemicolon.toList]) := by
  rw [lines_procedure_pieces, innerLines_eq, List.cons_append]

end SchemaScript.Ddl
