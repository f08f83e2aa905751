import SchemaScript.Proofs.Ddl.Replay

/-!
# Procedures with lines that look like directives

The splitter takes every line that starts with `SET TERM` for a directive, in the body of a procedure as well. A procedure
without a caret of its own is split into one statement, and nothing is discarded, but the statement holds only the lines that
are no directives: it is the whole procedure exactly if there is none (`split_procedure`). An assignment to a column whose name
starts with `TERM` is lost (`split_procedure_loses_line`).
-/

namespace SchemaScript.Ddl

open Text Script

/-- No text of a procedure holds a caret. -/
structure Caretless (p : Procedure) : Prop where
  name : '^' ∉ p.name.toList
  parameters : ∀ q ∈ p.inputs ++ p.outputs, '^' ∉ q.name.toList ∧ '^' ∉ q.type.toList
  body : '^' ∉ p.body.toList

/-! ## No caret anywhere -/

/-- A caret is visible, so it stands among the visible characters of a text that holds it. -/
theorem caret_mem_visible_iff {cs : List Char} : '^' ∈ visible cs ↔ '^' ∈ cs := by
  simp [visible, show isBlank '^' = false by decide]

/-- A character of a joined text stands in one of the parts or in the separator. -/
theorem not_mem_intercalate {c : Char} {separator : List Char} {parts : List (List Char)} (hs : c ∉ separator)
    (h : ∀ part ∈ parts, c ∉ part) : c ∉ separator.intercalate parts := by
  induction parts with
  | nil => simp
  | cons part parts ih =>
    rw [List.forall_mem_cons] at h
    cases parts with
    | nil =>
      rw [List.intercalate_singleton]
      exact h.1
    | cons next parts =>
      rw [List.intercalate_cons_cons, List.mem_append, List.mem_append, not_or, not_or]
      exact ⟨⟨h.1, hs⟩, ih h.2⟩

/-- A parameter list holds a caret only if its opening or a parameter does. -/
theorem caret_not_mem_parameterList {opening : String} {ps : List Parameter} (ho : '^' ∉ opening.toList)
    (h : ∀ q ∈ ps, '^' ∉ q.name.toList ∧ '^' ∉ q.type.toList) : '^' ∉ (parameterList opening ps).toList := by
  have hopen : '^' ∉ "(\n".toList := by decide
  have hclose : '^' ∉ "\n)".toList := by decide
  have htab : '^' ∉ "\t".toList := by decide
  have hspace : '^' ∉ " ".toList := by decide
  have hcomma : '^' ∉ ",\n".toList := by decide
  have hparts : ∀ part ∈ (ps.map fun q => "\t" ++ q.name ++ " " ++ q.type).map String.toList, '^' ∉ part := by
    intro part hpart
    simp only [List.mem_map] at hpart
    obtain ⟨_, ⟨q, hq, rfl⟩, rfl⟩ := hpart
    simp only [String.toList_append, List.mem_append, not_or]
    exact ⟨⟨⟨htab, (h q hq).1⟩, hspace⟩, (h q hq).2⟩
  unfold parameterList
  split
  · simp
  · rw [String.toList_append, String.toList_append, String.toList_append, String.toList_intercalate]
    simp only [List.mem_append, not_or]
    exact ⟨⟨⟨ho, hopen⟩, not_mem_intercalate hcomma hparts⟩, hclose⟩

/-- The text of a procedure without a caret holds none. -/
theorem Caretless.procedureText {p : Procedure} (h : Caretless p) : '^' ∉ (procedureText p).toList := by
  have hbody : '^' ∉ (trimmedEnd p.body).toList := by
    rw [trimmedEnd, String.toList_ofList, ← caret_mem_visible_iff, visible_trimEnd, caret_mem_visible_iff]
    exact h.body
  have hin : '^' ∉ (parameterList " " p.inputs).toList :=
    caret_not_mem_parameterList (by decide) fun q hq => h.parameters q (List.mem_append_left _ hq)
  have hout : '^' ∉ (parameterList "\nRETURNS " p.outputs).toList :=
    caret_not_mem_parameterList (by decide) fun q hq => h.parameters q (List.mem_append_right _ hq)
  have hcreate : '^' ∉ "CREATE PROCEDURE ".toList := by decide
  have has : '^' ∉ "\nAS\n".toList := by decide
  unfold Ddl.procedureText
  simp only [String.toList_append, List.mem_append, not_or]
  exact ⟨⟨⟨⟨⟨hcreate, h.name⟩, hin⟩, hout⟩, has⟩, hbody⟩

/-- The pieces of a text without a caret hold none. -/
theorem caret_not_mem_pieces {cs piece : List Char} (h : '^' ∉ cs) (hp : piece ∈ pieces cs) : '^' ∉ piece := by
  intro hc
  have hmem : '^' ∈ visible (unifyBreaks cs) :=
    caret_mem_visible_iff.2 (mem_unifyBreaks_of_mem_pieces (by decide) hp hc)
  rw [visible_unifyBreaks, caret_mem_visible_iff] at hmem
  exact h hmem

/-! ## The kept lines -/

/-- The body of a procedure without a caret misses its terminator. -/
theorem Caretless.missingTerminator {p : Procedure} (h : Caretless p) : missingTerminator? p.body = some "^" := by
  rcases missingTerminator_cases p with ⟨-, hbody⟩ | ⟨hsome, -⟩
  · exact absurd (mem_of_lastVisible hbody) h.body
  · exact hsome

/-- The body of a procedure without a caret is ended by a line of its own. -/
theorem Caretless.innerLines_eq {p : Procedure} (h : Caretless p) :
    innerLines p = pieces (Ddl.procedureText p).toList ++ [['^']] := by
  rw [Ddl.innerLines_eq, h.missingTerminator]
  rfl

/-- The first line of a procedure is no directive, so something is always kept. -/
theorem startsVisible_keptLines (p : Procedure) :
    StartsVisible (Script.endLines (keptLines (pieces (Ddl.procedureText p).toList))) := by
  obtain ⟨rest, hrest⟩ := exists_procedureText p
  obtain ⟨piece, ls, hpieces⟩ := List.exists_cons_of_ne_nil (pieces_ne_nil rest)
  have hfirst : isDirectiveLine ('C' :: piece) = false := isDirectiveLine_cons_eq_false (by decide) (by decide) piece
  rw [hrest, pieces_cons (by decide) (by decide), hpieces, List.modifyHead_cons, keptLines_cons, hfirst]
  exact ⟨'C', _, rfl, by decide⟩

/-- Between the directives of a procedure without a caret the splitter gathers the lines that are no directives. -/
theorem Caretless.run {p : Procedure} (h : Caretless p) :
    SplitState.initial.run (lines (procedure p).toList) =
      ([⟨String.ofList (trim (Script.endLines (keptLines (pieces (Ddl.procedureText p).toList))))⟩], .initial) := by
  have hcaret : ∀ piece ∈ pieces (Ddl.procedureText p).toList, '^' ∉ piece :=
    fun piece hpiece => caret_not_mem_pieces h.procedureText hpiece
  have hopen : ∀ piece ∈ pieces (Ddl.procedureText p).toList, lastVisible? piece ≠ some '^' :=
    fun piece hpiece hlast => hcaret piece hpiece (mem_of_lastVisible hlast)
  have hkeep : ∀ piece ∈ pieces (Ddl.procedureText p).toList, isDirectiveLine piece = true →
      Terminator.caret.after (trim piece) = .caret := by
    intro piece hpiece _
    apply Terminator.after_of_not_mem
    rw [← caret_mem_visible_iff, visible_trim, caret_mem_visible_iff]
    exact hcaret piece hpiece
  have hclose : SplitState.run ⟨.caret, []⟩ (pieces (Ddl.procedureText p).toList ++ [['^']]) =
      ((bodyStatement? ([] ++ Script.endLines (keptLines (pieces (Ddl.procedureText p).toList)) ++ [])).toList,
        ⟨.caret, []⟩) :=
    SplitState.run_close ⟨.caret, []⟩ _ [] [] (by simp [lastVisible?]) hopen hkeep (by decide) allBlank_nil rfl
  have hstatement : bodyStatement? (Script.endLines (keptLines (pieces (Ddl.procedureText p).toList))) =
      some ⟨String.ofList (trim (Script.endLines (keptLines (pieces (Ddl.procedureText p).toList))))⟩ := by
    rw [bodyStatement?, List.isEmpty_eq_false_iff.2 (trim_ne_nil (startsVisible_keptLines p))]
    rfl
  rw [List.nil_append, List.append_nil, hstatement] at hclose
  rw [lines_procedure, h.innerLines_eq, SplitState.run_cons, SplitState.initial, step_setCaret,
    SplitState.run_append, hclose, SplitState.run_cons, step_setSemicolon]
  rfl

/-- The whole procedure as a statement. -/
theorem Caretless.bare_undirected {p : Procedure} (h : Caretless p) :
    bare (undirected p) = String.ofList (trim (Script.endLines (pieces (Ddl.procedureText p).toList))) := by
  have htext : (undirected p).toList = ((Ddl.procedureText p).toList ++ ['\n']) ++ ['^'] ++ [] := by
    simp [undirected, h.missingTerminator]
  rw [bare_eq (by decide) allBlank_nil htext, endLines_pieces,
    unifyBreaks_append (.inl (getLast?_procedureText_ne_cr p))]
  rfl

/-- The kept lines of a procedure as a statement. -/
theorem Caretless.bare_keptLines {p : Procedure} (h : Caretless p) :
    bare (String.ofList (Script.endLines (keptLines (innerLines p)))) =
      String.ofList (trim (Script.endLines (keptLines (pieces (Ddl.procedureText p).toList)))) := by
  have hcr : '\r' ∉ Script.endLines (keptLines (pieces (Ddl.procedureText p).toList)) := by
    intro hmem
    obtain ⟨piece, hpiece, hc⟩ := List.mem_flatMap.1 hmem
    rcases List.mem_append.1 hc with hc | hc
    · exact cr_not_mem_pieces (List.mem_filter.1 hpiece).1 hc
    · exact absurd hc (by decide)
  have htext : (String.ofList (Script.endLines (keptLines (innerLines p)))).toList =
      Script.endLines (keptLines (pieces (Ddl.procedureText p).toList)) ++ ['^'] ++ ['\n'] := by
    rw [String.toList_ofList, h.innerLines_eq, keptLines_append, Script.endLines_append]
    simp [keptLines, show isDirectiveLine ['^'] = false by decide]
  rw [bare_eq (by decide) allBlank_lf htext, unifyBreaks_of_not_mem hcr]

/-- A procedure without a caret of its own is split into one statement with nothing discarded. The statement holds the lines
between the directives that are no directives themselves; it is the whole procedure exactly if all of them are none. -/
theorem split_procedure (p : Procedure) (h : Caretless p) :
    split (procedure p) = ⟨[⟨bare (String.ofList (Script.endLines (keptLines (innerLines p))))⟩], none⟩ ∧
    (split (procedure p) = ⟨[⟨bare (undirected p)⟩], none⟩ ↔ ∀ line ∈ innerLines p, isDirectiveLine line = false) := by
  have hsplit : split (procedure p) = ⟨[⟨bare (String.ofList (Script.endLines (keptLines (innerLines p))))⟩], none⟩ := by
    rw [split_eq_of_run h.run, h.bare_keptLines]
    rfl
  refine ⟨hsplit, ?_⟩
  have hinner : (∀ line ∈ innerLines p, isDirectiveLine line = false) ↔
      ∀ line ∈ pieces (Ddl.procedureText p).toList, isDirectiveLine line = false := by
    rw [h.innerLines_eq, List.forall_mem_append]
    simp [show isDirectiveLine ['^'] = false by decide]
  rw [hsplit, h.bare_keptLines, h.bare_undirected, hinner]
  constructor
  · intro e
    simp only [Split.mk.injEq, List.cons.injEq, Statement.mk.injEq, String.ofList_inj, and_true] at e
    rw [← visible_keptLines_iff, ← visible_trim, e, visible_trim]
  · intro hplain
    rw [keptLines_eq_self hplain]

/-- A procedure whose body assigns to a column `TERM_ID` on a line of its own. -/
def termAssignment : Procedure := ⟨"P", "BEGIN\n  UPDATE T\n  SET TERM_ID = 1\n  WHERE ID = 2;\nEND", [], []⟩

/-- The procedure holds no caret, but its assignment is taken for a directive: the statement goes without it. -/
theorem split_procedure_loses_line : Caretless termAssignment ∧
    split (procedure termAssignment) ≠ ⟨[⟨bare (undirected termAssignment)⟩], none⟩ ∧
    split (procedure termAssignment) =
      ⟨[⟨"CREATE PROCEDURE P\nAS\nBEGIN\n  UPDATE T\n  WHERE ID = 2;\nEND"⟩], none⟩ := by
  have hsplit : split (procedure termAssignment) =
      ⟨[⟨"CREATE PROCEDURE P\nAS\nBEGIN\n  UPDATE T\n  WHERE ID = 2;\nEND"⟩], none⟩ := by
    decide +kernel
  refine ⟨⟨by simp [termAssignment], by simp [termAssignment], by simp [termAssignment]⟩, ?_, hsplit⟩
  rw [hsplit]
  decide +kernel

/-- A procedure with parameters and a body of several lines, some of which start with SET. -/
def plainProcedure : Procedure :=
  ⟨"P", "BEGIN\r\n  UPDATE T\r\n  SET  TERM_ID = 1;\r\nEND \n", [⟨"A", "INTEGER"⟩], [⟨"B", "CHAR(2)"⟩]⟩

/-- All lines of the procedure reach its statement. -/
theorem split_plainProcedure : Caretless plainProcedure ∧
    split (procedure plainProcedure) = ⟨[⟨bare (undirected plainProcedure)⟩], none⟩ := by
  have h : Caretless plainProcedure := ⟨by simp [plainProcedure], by simp [plainProcedure], by simp [plainProcedure]⟩
  exact ⟨h, (split_procedure plainProcedure h).2.2 (by decide +kernel)⟩

end SchemaScript.Ddl
