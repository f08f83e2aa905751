import Mathlib.Data.List.DropRight
import SchemaScript.Proofs.Script.Run

/-!
# What is left at the end of a script

Behind a line that is no directive the gathered text never ends with the terminator in effect (`isOpen_step`), so a statement
that is complete is not left pending by any line but a directive. A directive looks at the gathered text no more: the text is left
with a terminator at its end exactly if the directives behind the last gathered line switch to that terminator (`SwitchesLate`).
The text is then discarded, although one more blank line would complete it; in all other cases blank lines behind the script change
nothing (`discards_complete_iff`).
-/

namespace SchemaScript.Script

open Text

/-! ## Blanks behind the lines of a text -/

/-- One more character between LFs belongs to the last piece. -/
theorem exists_splitOn_concat {c : Char} (hc : c ≠ '\n') (cs : List Char) :
    ∃ init last, cs.splitOn '\n' = init ++ [last] ∧ (cs ++ [c]).splitOn '\n' = init ++ [last ++ [c]] := by
  induction cs with
  | nil => exact ⟨[], [], rfl, List.splitOn_eq_singleton (by simpa using hc.symm)⟩
  | cons d cs ih =>
    obtain ⟨init, last, hcs, hconcat⟩ := ih
    rw [List.cons_append, List.splitOn_cons_eq_if_modifyHead, List.splitOn_cons_eq_if_modifyHead, hcs, hconcat]
    split
    · exact ⟨[] :: init, last, rfl, rfl⟩
    · cases init with
      | nil => exact ⟨[], d :: last, rfl, rfl⟩
      | cons first init => exact ⟨(d :: first) :: init, last, rfl, rfl⟩

/-- One more character that is no break belongs to the last piece. -/
theorem exists_pieces_concat {c : Char} (hr : c ≠ '\r') (hn : c ≠ '\n') (cs : List Char) :
    ∃ init last, pieces cs = init ++ [last] ∧ pieces (cs ++ [c]) = init ++ [last ++ [c]] := by
  have hc : unifyBreaks (cs ++ [c]) = unifyBreaks cs ++ [c] := by
    rw [unifyBreaks_append (.inr (by simpa using hn)), unifyBreaks_cons_of_ne hr]
    rfl
  rw [pieces_eq_splitOn, pieces_eq_splitOn, hc]
  exact exists_splitOn_concat hn (unifyBreaks cs)

/-- A CR behind a text starts no line. -/
theorem lines_append_cr (cs : List Char) : lines (cs ++ ['\r']) = pieces cs :=
  lines_append_finalBreak (.inr (.inl rfl)) (.inr (by simp))

/-- A CR LF behind a text starts no line. -/
theorem lines_append_crlf (cs : List Char) : lines (cs ++ ['\r', '\n']) = pieces cs :=
  lines_append_finalBreak (.inl rfl) (.inr (by simp))

/-- What a blank behind a text does to its lines: nothing, or it stands in a new line, or behind the last one. -/
theorem lines_concat_blank (cs : List Char) {c : Char} (hc : isBlank c = true) :
    lines (cs ++ [c]) = lines cs ∨ (∃ b, AllBlank b ∧ lines (cs ++ [c]) = lines cs ++ [b]) ∨
      ∃ init last, lines cs = init ++ [last] ∧ lines (cs ++ [c]) = init ++ [last ++ [c]] := by
  have hpieces : pieces cs = lines cs ∨ ∃ b, AllBlank b ∧ pieces cs = lines cs ++ [b] :=
    (pieces_eq_lines cs).imp_right fun h => ⟨[], allBlank_nil, h⟩
  by_cases hr : c = '\r'
  · rw [hr, lines_append_cr]
    exact hpieces.imp_right .inl
  by_cases hn : c = '\n'
  · by_cases hcr : cs.getLast? = some '\r'
    · obtain ⟨init, rfl⟩ := List.getLast?_eq_some_iff.mp hcr
      rw [hn, List.append_assoc, List.singleton_append, lines_append_crlf, lines_append_cr]
      exact .inl rfl
    · rw [hn, lines_append_lf hcr]
      exact hpieces.imp_right .inl
  · have hlines : lines (cs ++ [c]) = pieces (cs ++ [c]) := lines_eq_pieces (by simpa using hr) (by simpa using hn)
    obtain ⟨init, last, hcs, hconcat⟩ := exists_pieces_concat hr hn cs
    rw [hlines, hconcat]
    rcases pieces_eq_lines cs with h | h
    · exact .inr (.inr ⟨init, last, h.symm.trans hcs, rfl⟩)
    · obtain ⟨hinit, hlast⟩ := List.append_inj' (h.symm.trans hcs) rfl
      obtain rfl : [] = last := List.singleton_inj.mp hlast
      refine .inr (.inl ⟨[c], ?_, by rw [hinit]; rfl⟩)
      intro d hd
      rwa [List.mem_singleton.mp hd]

/-- Two LFs behind a text start at least one line. -/
theorem lines_append_lf_lf (cs : List Char) :
    ∃ blanks, blanks ≠ [] ∧ (∀ b ∈ blanks, AllBlank b) ∧ lines (cs ++ ['\n', '\n']) = lines cs ++ blanks := by
  have hlines : lines (cs ++ ['\n', '\n']) = pieces (cs ++ ['\n']) := by
    rw [← List.singleton_append, ← List.append_assoc]
    exact lines_append_lf (by simp)
  rw [hlines]
  by_cases hcr : cs.getLast? = some '\r'
  · obtain ⟨init, rfl⟩ := List.getLast?_eq_some_iff.mp hcr
    refine ⟨[[]], by simp, by simp [allBlank_nil], ?_⟩
    rw [List.append_assoc, List.singleton_append, lines_append_cr]
    exact pieces_append_break (.inl rfl) (.inr (by simp)) (.inl (by simp))
  · rw [pieces_append_lf hcr]
    rcases pieces_eq_lines cs with h | h
    · exact ⟨[[]], by simp, by simp [allBlank_nil], by rw [h]; rfl⟩
    · exact ⟨[[], []], by simp, by simp [allBlank_nil], by rw [h, List.append_assoc]; rfl⟩

namespace SplitState

/-! ## Open states -/

/-- Whether the gathered text does not end, blanks aside, with the terminator in effect. -/
def IsOpen (s : SplitState) : Prop := lastVisible? s.pending ≠ some s.terminator.symbol

instance (s : SplitState) : Decidable s.IsOpen :=
  inferInstanceAs (Decidable (lastVisible? s.pending ≠ some s.terminator.symbol))

theorem isOpen_initial : initial.IsOpen := by
  simp [IsOpen, initial, lastVisible?]

/-- A state with nothing gathered is open. -/
theorem isOpen_of_pending_eq_nil {s : SplitState} (h : s.pending = []) : s.IsOpen := by
  simp [IsOpen, h, lastVisible?]

/-- Behind a line that is no directive the state is open: text that ended with the terminator was taken away. -/
theorem isOpen_step (s : SplitState) {line : List Char} (h : isDirectiveLine line = false) : (s.step line).1.IsOpen := by
  by_cases hc : lastVisible? (s.pending ++ line) = some s.terminator.symbol
  · obtain ⟨body, b, hbody, hb⟩ := exists_of_lastVisible hc
    rw [s.step_close h hb hbody]
    exact isOpen_of_pending_eq_nil rfl
  · rw [s.step_open h hc]
    rwa [IsOpen, gather, lastVisible?_append_blank _ allBlank_lf]

/-- A run with one more line is the run and then a step. -/
theorem run_concat (s : SplitState) (ls : List (List Char)) (line : List Char) :
    s.run (ls ++ [line]) = ((s.run ls).1 ++ ((s.run ls).2.step line).2.toList, ((s.run ls).2.step line).1) := by
  rw [run_append, run_cons, run_nil, List.append_nil]

/-- The last line read is no directive, or nothing was read: the state is open. -/
theorem isOpen_run {ls : List (List Char)} (h : ∀ line, ls.getLast? = some line → isDirectiveLine line = false) :
    (initial.run ls).2.IsOpen := by
  rcases List.eq_nil_or_concat ls with rfl | ⟨init, line, rfl⟩
  · exact isOpen_initial
  · rw [List.concat_eq_append] at h ⊢
    rw [run_concat]
    exact isOpen_step _ (h line List.getLast?_concat)

/-- The gathered text of a state that is not open is discarded with the terminator at its end, and only such text is. -/
theorem exists_rest?_iff (s : SplitState) :
    (∃ text, s.rest? = some text ∧ text.toList.getLast? = some s.terminator.symbol) ↔ ¬s.IsOpen := by
  rw [IsOpen, not_not, rest?]
  constructor
  · rintro ⟨text, htext, hlast⟩
    split at htext
    · cases htext
    · obtain rfl := Option.some.inj htext
      rw [String.toList_ofList] at hlast
      have hvisible := lastVisible?_of_getLast? hlast s.terminator.isBlank_symbol
      rwa [lastVisible?, visible_trim] at hvisible
  · intro hlast
    obtain ⟨body, b, hbody, hb⟩ := exists_of_lastVisible hlast
    have htrim : trim s.pending = trimStart body ++ [s.terminator.symbol] := by
      rw [hbody, trim_concat body s.terminator.isBlank_symbol hb]
    rw [htrim]
    exact ⟨_, if_neg (by simp), by simp⟩

/-! ## Directives -/

end SplitState

/-- The terminator behind some directives. -/
def Terminator.afterAll (t : Terminator) (directives : List (List Char)) : Terminator :=
  directives.foldl (fun t line => t.after (trim line)) t

namespace SplitState

/-- Directives change at most the terminator. -/
theorem run_directives (s : SplitState) {ds : List (List Char)} (h : ∀ line ∈ ds, isDirectiveLine line = true) :
    s.run ds = ([], { s with terminator := s.terminator.afterAll ds }) := by
  induction ds generalizing s with
  | nil => rfl
  | cons line ds ih =>
    rw [run_cons, s.step_directive (h line List.mem_cons_self), ih _ fun l hl => h l (List.mem_cons_of_mem _ hl)]
    rfl

end SplitState

/-- Whether lines end with directives that switch the terminator, and to the one that the text gathered before them ends with,
blanks aside. -/
def SwitchesLate (ls : List (List Char)) : Prop :=
  ∃ before directives, ls = before ++ directives ∧ (∀ line ∈ directives, isDirectiveLine line = true) ∧
    (SplitState.initial.run before).2.terminator.afterAll directives ≠ (SplitState.initial.run before).2.terminator ∧
    lastVisible? (SplitState.initial.run before).2.pending =
      some ((SplitState.initial.run before).2.terminator.afterAll directives).symbol

/-- The text gathered at the end ends with the terminator in effect exactly if directives at the end switched to it. -/
theorem isOpen_run_iff (ls : List (List Char)) : (SplitState.initial.run ls).2.IsOpen ↔ ¬SwitchesLate ls := by
  rw [← not_iff_not, not_not]
  constructor
  · intro hopen
    -- the directives at the very end are cut off: what was read before them is open
    have hcut : ls.rdropWhile isDirectiveLine ++ ls.rtakeWhile isDirectiveLine = ls := List.rdropWhile_append_rtakeWhile
    have hdirectives : ∀ line ∈ ls.rtakeWhile isDirectiveLine, isDirectiveLine line = true :=
      fun line hline => List.mem_rtakeWhile_imp hline
    have hbefore : (SplitState.initial.run (ls.rdropWhile isDirectiveLine)).2.IsOpen := by
      refine SplitState.isOpen_run fun line hline => ?_
      obtain ⟨hne, rfl⟩ := List.mem_getLast?_eq_getLast hline
      simpa using List.rdropWhile_last_not isDirectiveLine ls hne
    generalize ls.rdropWhile isDirectiveLine = before at hcut hbefore
    generalize ls.rtakeWhile isDirectiveLine = directives at hcut hdirectives
    subst hcut
    rw [SplitState.run_append, SplitState.run_directives _ hdirectives, SplitState.IsOpen, not_not] at hopen
    refine ⟨before, directives, rfl, hdirectives, fun hsame => hbefore ?_, hopen⟩
    rw [hopen, hsame]
  · rintro ⟨before, directives, rfl, hdirectives, -, hlast⟩
    rw [SplitState.run_append, SplitState.run_directives _ hdirectives]
    exact not_not.mpr hlast

/-! ## Blanks behind a script -/

namespace SplitState

/-- The discarded text is the same for texts that differ in blanks at their end. -/
theorem rest?_append_blank (s : SplitState) {b : List Char} (hb : AllBlank b) :
    rest? { s with pending := s.pending ++ b } = s.rest? := by
  have htrim : trim (s.pending ++ b) = trim s.pending := trim_append_blank s.pending hb
  rw [rest?, rest?, htrim]

/-- A blank line is no directive. -/
theorem isDirectiveLine_blank {b : List Char} (hb : AllBlank b) : isDirectiveLine b = false := by
  rw [Bool.eq_false_iff]
  exact fun h => visible_ne_nil_of_isDirectiveLine h (visible_eq_nil_iff.mpr hb)

/-- A blank line behind open text changes nothing but the blanks at its end. -/
theorem step_blank {s : SplitState} (hs : s.IsOpen) {b : List Char} (hb : AllBlank b) :
    (s.step b).2 = none ∧ (s.step b).1.rest? = s.rest? ∧ (s.step b).1.IsOpen := by
  have hdirective := isDirectiveLine_blank hb
  have hstep : s.step b = (s.gather b, none) := by
    refine s.step_open hdirective ?_
    rwa [lastVisible?_append_blank _ hb]
  refine ⟨by rw [hstep], ?_, isOpen_step s hdirective⟩
  rw [hstep, gather, List.append_assoc]
  exact s.rest?_append_blank (hb.append allBlank_lf)

/-- Blank lines behind open text change nothing but the blanks at its end. -/
theorem run_blank {s : SplitState} (hs : s.IsOpen) {bs : List (List Char)} (hbs : ∀ b ∈ bs, AllBlank b) :
    (s.run bs).1 = [] ∧ (s.run bs).2.rest? = s.rest? ∧ (s.run bs).2.IsOpen := by
  induction bs generalizing s with
  | nil => exact ⟨rfl, rfl, hs⟩
  | cons b bs ih =>
    obtain ⟨hnone, hrest, hopen⟩ := step_blank hs (hbs b List.mem_cons_self)
    obtain ⟨hrun, hrunrest, hrunopen⟩ := ih hopen fun b hb => hbs b (List.mem_cons_of_mem _ hb)
    rw [run_cons, hnone, hrun]
    exact ⟨rfl, hrunrest.trans hrest, hrunopen⟩

/-- Behind text that is not open a blank line takes the text away, and no blank line brings any back. -/
theorem rest?_run_blank {s : SplitState} (hs : ¬s.IsOpen) {bs : List (List Char)} (hne : bs ≠ [])
    (hbs : ∀ b ∈ bs, AllBlank b) : (s.run bs).2.rest? = none := by
  obtain ⟨b, rest, rfl⟩ := List.exists_cons_of_ne_nil hne
  have hb := hbs b List.mem_cons_self
  have hlast : lastVisible? (s.pending ++ b) = some s.terminator.symbol := by
    rw [lastVisible?_append_blank _ hb]
    exact not_not.mp hs
  obtain ⟨body, b', hbody, hb'⟩ := exists_of_lastVisible hlast
  rw [run_cons, s.step_close (isDirectiveLine_blank hb) hb' hbody]
  have hopen : IsOpen ⟨s.terminator, []⟩ := isOpen_of_pending_eq_nil rfl
  exact (run_blank hopen fun b hb => hbs b (List.mem_cons_of_mem _ hb)).2.1

/-- A blank behind a line changes nothing but the blanks at the end of the gathered text. -/
theorem step_padded (s : SplitState) (line : List Char) {c : Char} (hc : isBlank c = true) :
    (s.step (line ++ [c])).2 = (s.step line).2 ∧ (s.step (line ++ [c])).1.rest? = (s.step line).1.rest? ∧
      ((s.step line).1.IsOpen → (s.step (line ++ [c])).1.IsOpen) := by
  have hpad : AllBlank [c] := by simpa [AllBlank] using hc
  have htrim : trim (line ++ [c]) = trim line := trim_append_blank line hpad
  cases hd : isDirectiveLine line with
  | true =>
    have hd' : isDirectiveLine (line ++ [c]) = true := by rwa [isDirectiveLine, htrim]
    rw [s.step_directive hd, s.step_directive hd', htrim]
    exact ⟨rfl, rfl, id⟩
  | false =>
    have hd' : isDirectiveLine (line ++ [c]) = false := by rwa [isDirectiveLine, htrim]
    refine and_assoc.mp ⟨?_, fun _ => isOpen_step s hd'⟩
    by_cases hlast : lastVisible? (s.pending ++ line) = some s.terminator.symbol
    · obtain ⟨body, b, hbody, hb⟩ := exists_of_lastVisible hlast
      have hbody' : s.pending ++ (line ++ [c]) = body ++ [s.terminator.symbol] ++ (b ++ [c]) := by
        rw [← List.append_assoc, hbody, List.append_assoc]
      rw [s.step_close hd hb hbody, s.step_close hd' (hb.append hpad) hbody']
      exact ⟨rfl, rfl⟩
    · have hlast' : lastVisible? (s.pending ++ (line ++ [c])) ≠ some s.terminator.symbol := by
        rwa [← List.append_assoc, lastVisible?_append_blank _ hpad]
      rw [s.step_open hd hlast, s.step_open hd' hlast']
      refine ⟨rfl, ?_⟩
      have hgather := (s.gather line).rest?_append_blank hpad
      have hgather' := rest?_append_blank { s with pending := s.pending ++ line } (hpad.append allBlank_lf)
      rw [← rest?_append_blank { s with pending := s.pending ++ line } allBlank_lf] at hgather'
      simpa [gather] using hgather'

end SplitState

/-- The statements of some lines and the text behind the last of them. -/
def splitLines (ls : List (List Char)) : Split :=
  ⟨(SplitState.initial.run ls).1, (SplitState.initial.run ls).2.rest?⟩

/-- A script is split line by line. -/
theorem split_eq_splitLines (script : String) : split script = splitLines (lines script.toList) := rfl

/-- Blank lines behind lines change nothing exactly if these leave the gathered text open. -/
theorem splitLines_append_blank_iff (ls : List (List Char)) {bs : List (List Char)} (hne : bs ≠ [])
    (hbs : ∀ b ∈ bs, AllBlank b) : splitLines (ls ++ bs) = splitLines ls ↔ (SplitState.initial.run ls).2.IsOpen := by
  rw [splitLines, SplitState.run_append]
  constructor
  · intro h
    by_contra hopen
    -- the text that is discarded without the blank lines is not there behind them
    obtain ⟨text, htext, -⟩ := (SplitState.exists_rest?_iff _).mpr hopen
    have hrest : ((SplitState.initial.run ls).2.run bs).2.rest? = (SplitState.initial.run ls).2.rest? :=
      congrArg Split.discarded? h
    rw [SplitState.rest?_run_blank hopen hne hbs, htext] at hrest
    nomatch hrest
  · intro hopen
    obtain ⟨hstatements, hrest, -⟩ := SplitState.run_blank hopen hbs
    rw [hstatements, hrest, List.append_nil]
    rfl

/-- A blank behind the last line changes nothing. -/
theorem splitLines_padded (init : List (List Char)) (last : List Char) {c : Char} (hc : isBlank c = true) :
    splitLines (init ++ [last ++ [c]]) = splitLines (init ++ [last]) ∧
      ((SplitState.initial.run (init ++ [last])).2.IsOpen → (SplitState.initial.run (init ++ [last ++ [c]])).2.IsOpen) := by
  obtain ⟨hstatement, hrest, hopen⟩ := (SplitState.initial.run init).2.step_padded last hc
  rw [splitLines, splitLines, SplitState.run_concat, SplitState.run_concat, hstatement, hrest]
  exact ⟨rfl, hopen⟩

/-- Blanks behind a script whose text is open at the end change nothing. -/
theorem splitLines_lines_append_blank {cs b : List Char} (hopen : (SplitState.initial.run (lines cs)).2.IsOpen)
    (hb : AllBlank b) :
    splitLines (lines (cs ++ b)) = splitLines (lines cs) ∧ (SplitState.initial.run (lines (cs ++ b))).2.IsOpen := by
  induction b using List.reverseRecOn with
  | nil => rw [List.append_nil]; exact ⟨rfl, hopen⟩
  | append_singleton b c ih =>
    have hc : isBlank c = true := hb c (by simp)
    obtain ⟨hsplit, hopen⟩ := ih fun d hd => hb d (List.mem_append_left _ hd)
    rw [← hsplit, ← List.append_assoc]
    rcases lines_concat_blank (cs ++ b) hc with h | ⟨line, hline, h⟩ | ⟨init, last, hlast, h⟩
    · rw [h]
      exact ⟨rfl, hopen⟩
    · have hlines : ∀ l ∈ [line], AllBlank l := by simpa using hline
      rw [h]
      refine ⟨(splitLines_append_blank_iff _ (List.cons_ne_nil _ _) hlines).mpr hopen, ?_⟩
      rw [SplitState.run_append]
      exact (SplitState.run_blank hopen hlines).2.2
    · rw [hlast] at hopen
      rw [h, hlast]
      obtain ⟨hpadded, hpaddedopen⟩ := splitLines_padded init last hc
      exact ⟨hpadded, hpaddedopen hopen⟩

/-- The discarded text of some lines ends with the terminator in effect behind them exactly if directives at their end switch to it.
Blank lines behind the lines change the statements or the discarded text in this case and in no other, and so do blanks behind a
script, which is split line by line. -/
theorem discards_complete_iff (ls : List (List Char)) (script : String) :
    ((∃ text, (splitLines ls).discarded? = some text ∧
      text.toList.getLast? = some (SplitState.initial.run ls).2.terminator.symbol) ↔ SwitchesLate ls) ∧
    (∀ blanks, blanks ≠ [] → (∀ b ∈ blanks, AllBlank b) → (splitLines (ls ++ blanks) = splitLines ls ↔ ¬SwitchesLate ls)) ∧
    split script = splitLines (lines script.toList) ∧
    ((∀ b : String, AllBlank b.toList → split (script ++ b) = split script) ↔ ¬SwitchesLate (lines script.toList)) := by
  refine ⟨?_, fun blanks hne hblanks => ?_, rfl, ?_⟩
  · rw [← not_not (a := SwitchesLate ls), ← isOpen_run_iff]
    exact SplitState.exists_rest?_iff _
  · rw [← isOpen_run_iff]
    exact splitLines_append_blank_iff ls hne hblanks
  · rw [← isOpen_run_iff]
    constructor
    · intro h
      obtain ⟨blanks, hne, hblanks, hlines⟩ := lines_append_lf_lf script.toList
      refine (splitLines_append_blank_iff _ hne hblanks).mp ?_
      have hlf : AllBlank "\n\n".toList := by simp [AllBlank, isBlank]
      have hsplit := h "\n\n" hlf
      rw [split_eq_splitLines, split_eq_splitLines, String.toList_append] at hsplit
      rw [← hlines]
      exact hsplit
    · intro hopen b hb
      rw [split_eq_splitLines, split_eq_splitLines, String.toList_append]
      exact (splitLines_lines_append_blank hopen hb).1

/-- A script that ends a statement with a semicolon while the caret is in effect. -/
def forgottenCaret : String := "SET TERM ^ ;\nUPDATE T SET A = 1;\nSET TERM ; ^\n"

/-- The statement is discarded with the terminator in effect behind it, and with one more line break it is none of the discarded
text. -/
theorem split_forgottenCaret :
    split forgottenCaret = ⟨[], some "UPDATE T SET A = 1;"⟩ ∧
    (SplitState.initial.run (lines forgottenCaret.toList)).2.terminator = .semicolon ∧
    split (forgottenCaret ++ "\n") = ⟨[⟨"UPDATE T SET A = 1"⟩], none⟩ ∧
    ¬∀ text, (split forgottenCaret).discarded? = some text →
      text.toList.getLast? ≠ some (SplitState.initial.run (lines forgottenCaret.toList)).2.terminator.symbol := by
  have hsplit : split forgottenCaret = ⟨[], some "UPDATE T SET A = 1;"⟩ := by decide +kernel
  have hterminator : (SplitState.initial.run (lines forgottenCaret.toList)).2.terminator = .semicolon := by decide +kernel
  refine ⟨hsplit, hterminator, by decide +kernel, fun h => ?_⟩
  exact h "UPDATE T SET A = 1;" (by rw [hsplit]) (by rw [hterminator]; decide +kernel)

/-- A directive that switches to another terminator than the one behind the text leaves it open: a blank line changes nothing. -/
theorem splitLines_switchedSelect :
    let ls := ["SELECT 1".toList, "SET TERM ^ ;".toList]
    [[' ']] ≠ ([] : List (List Char)) ∧ (∀ b ∈ [[' ']], AllBlank b) ∧ splitLines (ls ++ [[' ']]) = splitLines ls := by
  intro ls
  have hblank : ∀ b ∈ [[' ']], AllBlank b := by simp [AllBlank, isBlank]
  have hopen : ¬SwitchesLate ls := (isOpen_run_iff ls).mp (by decide +kernel)
  exact ⟨by simp, hblank, ((discards_complete_iff ls "").2.1 [[' ']] (by simp) hblank).mpr hopen⟩

end SchemaScript.Script
