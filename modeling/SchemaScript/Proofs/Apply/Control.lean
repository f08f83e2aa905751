import SchemaScript.Apply.Rehearsal
import SchemaScript.Proofs.Apply.Protocol
import SchemaScript.Proofs.Text.Trim
import SchemaScript.Script.Split

/-!
# COMMIT and ROLLBACK behind comments

The transaction of a run is the tool's: a statement that is `COMMIT` or `ROLLBACK`, blanks aside, is skipped. Comments are not
set aside. The splitter leaves comment lines with the statement that follows them, and a `COMMIT` with a comment is passed to the
executor (`events_commentedCommit`). Every other one is kept from it: of the statements that are nothing but a comment and one of
the two words, exactly those with a comment are executed (`control_executed_iff_commented`).
-/

namespace SchemaScript

open Text

/-! ## Comments -/

/-- Where a reader of SQL stands: in the text, in a comment up to the end of its line, or in a comment up to its closing mark. -/
inductive Script.Zone
  | text
  | lineComment
  | blockComment

/-- What is left of SQL behind a zone without its comments: a comment between marks counts as a blank, and a comment up to the
end of its line as nothing. Nothing is left if the closing mark is missing. -/
def Script.uncommented? : Zone → List Char → Option (List Char)
  | .blockComment, [] => none
  | _, [] => some []
  | .text, '-' :: '-' :: cs => uncommented? .lineComment cs
  | .text, '/' :: '*' :: cs => (uncommented? .blockComment cs).map (' ' :: ·)
  | .text, c :: cs => (uncommented? .text cs).map (c :: ·)
  | .lineComment, c :: cs =>
    if c = '\n' ∨ c = '\r' then (uncommented? .text cs).map (c :: ·) else uncommented? .lineComment cs
  | .blockComment, '*' :: '/' :: cs => uncommented? .text cs
  | .blockComment, _ :: cs => uncommented? .blockComment cs

namespace Statement

/-- The statement without its comments. -/
def uncommented? (s : Statement) : Option Statement :=
  (Script.uncommented? .text s.text.toList).map fun cs => ⟨String.ofList cs⟩

/-- Whether there is nothing in a statement but blanks, comments and one of the words `COMMIT` and `ROLLBACK`. -/
def isControl (s : Statement) : Bool := s.uncommented?.any isTransactionControl

/-- Whether a statement has a comment: it is another one without its comments. -/
def IsCommented (s : Statement) : Prop := s.uncommented? ≠ some s

instance (s : Statement) : Decidable s.IsCommented := inferInstanceAs (Decidable (s.uncommented? ≠ some s))

end Statement

/-- A text without the characters that start a comment has none. -/
theorem Script.uncommented?_eq_self {cs : List Char} (hdash : '-' ∉ cs) (hslash : '/' ∉ cs) :
    uncommented? .text cs = some cs := by
  induction cs with
  | nil => rfl
  | cons c cs ih =>
    rw [List.mem_cons, not_or] at hdash hslash
    rw [uncommented?, ih hdash.2 hslash.2, Option.map_some]
    · exact fun _ h _ => hdash.1 h.symm
    · exact fun _ h _ => hslash.1 h.symm

namespace Statement

/-- A comment shows in a statement by one of the two characters that start one. -/
theorem mem_of_isCommented {s : Statement} (h : s.IsCommented) : '-' ∈ s.text.toList ∨ '/' ∈ s.text.toList := by
  by_contra hnone
  obtain ⟨hdash, hslash⟩ := not_or.mp hnone
  refine h ?_
  rw [uncommented?, Script.uncommented?_eq_self hdash hslash, Option.map_some, String.ofList_toList]

/-- A bare `COMMIT` or `ROLLBACK` holds nothing visible but its letters. -/
theorem not_mem_of_isTransactionControl {s : Statement} (h : s.isTransactionControl = true) {c : Char}
    (hc : Text.isBlank c = false) (hcommit : c.toLower ∉ "COMMIT".toList.map Char.toLower)
    (hrollback : c.toLower ∉ "ROLLBACK".toList.map Char.toLower) : c ∉ s.text.toList := by
  intro hmem
  have htrim : c ∈ trim s.text.toList := by
    have hvisible : c ∈ visible (trim s.text.toList) := by
      rw [visible_trim]
      exact List.mem_filter.mpr ⟨hmem, by simp [hc]⟩
    exact (List.mem_filter.mp hvisible).1
  have hlower : c.toLower ∈ (trim s.text.toList).map Char.toLower := List.mem_map_of_mem htrim
  rw [isTransactionControl, equalsKeyword, equalsKeyword, sameLetters, sameLetters, Bool.or_eq_true, beq_iff_eq, beq_iff_eq,
    trimmed, String.toList_ofList] at h
  rcases h with h | h
  · exact hcommit (h ▸ hlower)
  · exact hrollback (h ▸ hlower)

/-- A statement with a comment is executed: it is neither blank nor a bare `COMMIT` or `ROLLBACK`. -/
theorem isExecutable_of_isCommented {s : Statement} (h : s.IsCommented) : s.isExecutable = true := by
  obtain ⟨c, hmem, hblank, hcommit, hrollback⟩ : ∃ c ∈ s.text.toList, Text.isBlank c = false ∧
      c.toLower ∉ "COMMIT".toList.map Char.toLower ∧ c.toLower ∉ "ROLLBACK".toList.map Char.toLower := by
    rcases mem_of_isCommented h with hmem | hmem
    · exact ⟨'-', hmem, by decide, by decide, by decide⟩
    · exact ⟨'/', hmem, by decide, by decide, by decide⟩
  rw [isExecutable, Bool.and_eq_true, Bool.not_eq_true', Bool.not_eq_true', isBlank, allBlank]
  constructor
  · rw [List.all_eq_false]
    exact ⟨c, hmem, by simp [hblank]⟩
  · rw [Bool.eq_false_iff]
    exact fun hcontrol => not_mem_of_isTransactionControl hcontrol hblank hcommit hrollback hmem

/-- Without a comment, a statement that is nothing but one of the two words is skipped. -/
theorem isExecutable_iff_isCommented {s : Statement} (h : s.isControl = true) : s.isExecutable = true ↔ s.IsCommented := by
  refine ⟨fun hexec hplain => ?_, isExecutable_of_isCommented⟩
  rw [isControl, hplain, Option.any_some] at h
  rw [isExecutable, h] at hexec
  simp at hexec

end Statement

namespace Executor

variable {τ η : Type} (e : Executor τ η)

/-- What is executed of statements that all run are their executable ones. -/
theorem mem_of_mem_executed {ss : List Statement} {event : Event} {sql : String} (he : event ∈ executed ss)
    (hsql : event.call = .execute sql) : ⟨sql⟩ ∈ ss ∧ (⟨sql⟩ : Statement).isExecutable = true := by
  obtain ⟨s, hs, rfl⟩ := List.mem_map.mp he
  cases hsql
  exact List.mem_filter.mp hs

/-- What a course executes are executable statements. -/
theorem Course.mem_of_mem_events {ss : List Statement} {c : Course} (hc : c.Possible ss) {event : Event} {sql : String}
    (he : event ∈ c.events ss) (hsql : event.call = .execute sql) : ⟨sql⟩ ∈ ss ∧ (⟨sql⟩ : Statement).isExecutable = true := by
  cases c with
  | refused f =>
    rw [List.mem_singleton.mp he] at hsql
    cases hsql
  | committed =>
    simp only [events, List.mem_cons, List.mem_append, List.not_mem_nil, or_false] at he
    rcases he with rfl | he | rfl
    · cases hsql
    · exact mem_of_mem_executed he hsql
    · cases hsql
  | uncommitted f rollback? =>
    simp only [events, List.mem_cons, List.mem_append, List.not_mem_nil, or_false] at he
    rcases he with rfl | he | rfl | rfl
    · cases hsql
    · exact mem_of_mem_executed he hsql
    · cases hsql
    · cases hsql
  | stopped stop =>
    simp only [events, Stop.events, List.mem_cons, List.mem_append, List.not_mem_nil, or_false] at he
    rcases he with rfl | he | rfl | rfl
    · cases hsql
    · obtain ⟨hbefore, hexec⟩ := mem_of_mem_executed he hsql
      exact ⟨hc.1.subset (List.mem_append_left _ hbefore), hexec⟩
    · cases hsql
      exact ⟨hc.1.subset (by simp), hc.2⟩
    · cases hsql

/-- A course that commits executed every executable statement. -/
theorem Course.mem_events_committed {ss : List Statement} {s : Statement} (hs : s ∈ ss) (hexec : s.isExecutable = true) :
    ⟨.execute s.text, none⟩ ∈ Course.committed.events ss := by
  have hmem : (⟨.execute s.text, none⟩ : Event) ∈ executed ss := List.mem_map.mpr ⟨s, List.mem_filter.mpr ⟨hs, hexec⟩, rfl⟩
  exact List.mem_cons_of_mem _ (List.mem_append_left _ hmem)

/-- Whatever an executor does with a script: a text that it is given to execute is a statement of the script, and if there is
nothing in it but a comment and one of the words `COMMIT` and `ROLLBACK`, then there is a comment. When the run succeeds, all
statements with such a word and a comment were executed, and no others with such a word. -/
theorem control_executed_iff_commented (script : String) (s : τ) :
    (∀ event ∈ e.events (Script.split script).statements s, ∀ sql, event.call = .execute sql →
      ⟨sql⟩ ∈ (Script.split script).statements ∧ ((⟨sql⟩ : Statement).isControl = true → (⟨sql⟩ : Statement).IsCommented)) ∧
    ((∃ report, (Action.start (e.apply (Script.split script).statements) s).1 = .ok report) →
      ∀ st ∈ (Script.split script).statements, st.isControl = true →
        (⟨.execute st.text, none⟩ ∈ e.events (Script.split script).statements s ↔ st.IsCommented)) := by
  have hexecuted : ∀ event ∈ e.events (Script.split script).statements s, ∀ sql, event.call = .execute sql →
      ⟨sql⟩ ∈ (Script.split script).statements ∧ ((⟨sql⟩ : Statement).isControl = true → (⟨sql⟩ : Statement).IsCommented) := by
    intro event he sql hsql
    obtain ⟨c, hc, hevents, -⟩ := e.start_takes (Script.split script).statements s
    obtain ⟨hmem, hexec⟩ := Course.mem_of_mem_events hc (hevents ▸ he) hsql
    exact ⟨hmem, fun hcontrol => (Statement.isExecutable_iff_isCommented hcontrol).mp hexec⟩
  refine ⟨hexecuted, fun hok st hst hcontrol => ⟨fun he => (hexecuted _ he st.text rfl).2 hcontrol, fun hcommented => ?_⟩⟩
  obtain ⟨c, -, hevents, hresult⟩ := e.start_takes (Script.split script).statements s
  obtain ⟨report, hreport⟩ := hok
  rw [hresult] at hreport
  cases c with
  | committed =>
    rw [hevents]
    exact Course.mem_events_committed hst (Statement.isExecutable_of_isCommented hcommented)
  | _ => nomatch hreport

/-- A script that commits behind a comment of one line. -/
def commentedCommit : String := "-- all done\nCOMMIT;\n"

/-- The comment stays with the word, and so the executor is given nothing but a comment and `COMMIT` to execute. -/
theorem events_commentedCommit :
    (Script.split commentedCommit).statements = [⟨"-- all done\nCOMMIT"⟩] ∧
    (⟨"-- all done\nCOMMIT"⟩ : Statement).isControl = true ∧
    (Rehearsal.executor.events (Script.split commentedCommit).statements (.start .quiet)).map Event.call =
      [.begin, .execute "-- all done\nCOMMIT", .commit] ∧
    ¬∀ event ∈ Rehearsal.executor.events (Script.split commentedCommit).statements (.start .quiet),
      ∀ sql, event.call = .execute sql → (⟨sql⟩ : Statement).isControl = false := by
  have hcalls : (Rehearsal.executor.events (Script.split commentedCommit).statements (.start .quiet)).map Event.call =
      [.begin, .execute "-- all done\nCOMMIT", .commit] := by
    decide +kernel
  have hcontrol : (⟨"-- all done\nCOMMIT"⟩ : Statement).isControl = true := by decide +kernel
  refine ⟨by decide +kernel, hcontrol, hcalls, fun h => ?_⟩
  have hmem : Call.execute "-- all done\nCOMMIT" ∈
      (Rehearsal.executor.events (Script.split commentedCommit).statements (.start .quiet)).map Event.call := by
    simp [hcalls]
  obtain ⟨event, hevent, hsql⟩ := List.mem_map.mp hmem
  exact absurd hcontrol (by simp [h event hevent _ hsql])

/-- A script with the two words, one bare and one behind a comment. -/
def mixedControl : String := "Commit ;\n/* undo */ Rollback;\n"

/-- The bare word is kept from the executor, and the one behind a comment is executed. -/
theorem events_mixedControl :
    (⟨.execute "Commit", none⟩ : Event) ∉ Rehearsal.executor.events (Script.split mixedControl).statements (.start .quiet) ∧
    ⟨.execute "/* undo */ Rollback", none⟩ ∈
      Rehearsal.executor.events (Script.split mixedControl).statements (.start .quiet) := by
  have hstatements : (Script.split mixedControl).statements = [⟨"Commit"⟩, ⟨"/* undo */ Rollback"⟩] := by decide +kernel
  have hok : ∃ report,
      (Action.start (Rehearsal.executor.apply (Script.split mixedControl).statements) (.start .quiet)).1 = .ok report :=
    ⟨⟨1, 1⟩, Action.eq_ok_of_toOption (by decide +kernel)⟩
  have h := (Rehearsal.executor.control_executed_iff_commented mixedControl (.start .quiet)).2 hok
  constructor
  · have hbare := h ⟨"Commit"⟩ (by simp [hstatements]) (by decide +kernel)
    rw [hbare]
    decide +kernel
  · have hcommented := h ⟨"/* undo */ Rollback"⟩ (by simp [hstatements]) (by decide +kernel)
    rw [hcommented]
    decide +kernel

end Executor

end SchemaScript
