import SchemaScript.Proofs.Ddl.Replay
import SchemaScript.Proofs.Script.Breaks
import SchemaScript.Proofs.Text.Letters

/-!
# Scripts put one behind the other

A script that ends with a line break keeps its statements whatever is put behind it, and if it leaves the semicolon in effect and
nothing but blanks pending, then the other script is split behind it as on its own (`split_append`). The lines are those of both scripts,
but an empty line at the seam may be lost (`exists_lines_append`); it makes no difference, because blanks in front of the gathered text
never do (`SplitState.run_indented`).

So texts that are joined with their terminators, some of them with the semicolon and some with the caret between two directives, are
split into the same texts again (`split_joined`).
-/

namespace SchemaScript.Script

open Text

/-! ## The lines of two texts -/

/-- Whether a text ends with a line break. -/
def EndsWithBreak (cs : List Char) : Prop := cs.getLast? = some '\r' ∨ cs.getLast? = some '\n'

/-- Behind a text that ends with a break stand the lines of what follows it; an empty first line may be lost. -/
theorem exists_lines_append {p : List Char} (hp : EndsWithBreak p) (s : List Char) :
    ∃ ls, lines (p ++ s) = lines p ++ ls ∧ (lines s = ls ∨ lines s = [] :: ls) := by
  obtain ⟨br, hbr, hapart, hcut⟩ := (dropFinalBreak_spec p).resolve_left fun h => hp.elim h.1.1 h.1.2
  have happend : p ++ s = dropFinalBreak p ++ (br ++ s) := by rw [← List.append_assoc, ← hcut]
  by_cases hs : s = []
  · exact ⟨[], by rw [hs, List.append_nil, List.append_nil], .inr (by rw [hs]; rfl)⟩
  by_cases hseam : Apart br s
  · exact ⟨lines s, by rw [happend, lines_append_break hbr hapart hseam hs]; rfl, .inl rfl⟩
  · -- the texts meet inside a CR LF, which is one break and not two
    obtain ⟨hcr, hlf⟩ := not_or.mp hseam
    obtain ⟨rest, rfl⟩ := List.head?_eq_some_iff.mp (not_not.mp hlf)
    have hlines : lines ('\n' :: rest) = [] :: if rest.isEmpty then [] else lines rest :=
      lines_break_append (.inr (.inr rfl)) (.inl (by simp))
    obtain rfl : br = ['\r'] := by
      rcases hbr with rfl | rfl | rfl
      · exact absurd hcr (by simp)
      · rfl
      · exact absurd hcr (by simp)
    have hcrlf : IsLineBreak ['\r', '\n'] := .inl rfl
    have hfront : Apart (dropFinalBreak p) ['\r', '\n'] := .inr (by simp)
    refine ⟨_, ?_, .inr hlines⟩
    cases rest with
    | nil => rw [happend]; exact (lines_append_finalBreak hcrlf hfront).trans (List.append_nil _).symm
    | cons c rest => rw [happend]; exact lines_append_break hcrlf hfront (.inl (by simp)) (by simp)

/-! ## Blanks in front of the gathered text -/

namespace SplitState

variable {s s' : SplitState}

/-- Whether a state differs from another one at most in blanks in front of the gathered text. -/
def Indented (s s' : SplitState) : Prop := ∃ b, AllBlank b ∧ s' = { s with pending := b ++ s.pending }

/-- A line completes the same statement in both states, and behind it they differ in blanks at most. -/
theorem Indented.step (h : s.Indented s') (line : List Char) :
    (s'.step line).2 = (s.step line).2 ∧ (s.step line).1.Indented (s'.step line).1 := by
  obtain ⟨b, hb, rfl⟩ := h
  cases hd : isDirectiveLine line with
  | true =>
    rw [step_directive _ hd, step_directive _ hd]
    exact ⟨rfl, b, hb, rfl⟩
  | false =>
    by_cases hlast : lastVisible? (s.pending ++ line) = some s.terminator.symbol
    · obtain ⟨body, b', hbody, hb'⟩ := exists_of_lastVisible hlast
      have hbody' : b ++ s.pending ++ line = (b ++ body) ++ [s.terminator.symbol] ++ b' := by
        simp only [List.append_assoc] at hbody ⊢
        rw [hbody]
      have hstatement : bodyStatement? (b ++ body) = bodyStatement? body := by
        rw [bodyStatement?, bodyStatement?, trim_blank_append hb]
      rw [step_close _ hd hb' hbody, step_close _ hd hb' hbody', hstatement]
      exact ⟨rfl, [], allBlank_nil, rfl⟩
    · have hlast' : lastVisible? (b ++ s.pending ++ line) ≠ some s.terminator.symbol := by
        rwa [List.append_assoc, lastVisible?_append, lastVisible?_eq_none_iff.mpr hb, Option.or_none]
      rw [step_open _ hd hlast, step_open _ hd hlast']
      exact ⟨rfl, b, hb, by simp [gather]⟩

/-- Blanks in front of the gathered text change no statement of the lines that follow. -/
theorem Indented.run (h : s.Indented s') (ls : List (List Char)) :
    (s'.run ls).1 = (s.run ls).1 ∧ (s.run ls).2.Indented (s'.run ls).2 := by
  induction ls generalizing s s' with
  | nil => exact ⟨rfl, h⟩
  | cons line ls ih =>
    obtain ⟨hstatement, hstep⟩ := h.step line
    obtain ⟨hstatements, hrun⟩ := ih hstep
    rw [run_cons, run_cons, hstatement, hstatements]
    exact ⟨rfl, hrun⟩

/-- Blanks in front of the gathered text do not show in the discarded text. -/
theorem Indented.rest? (h : s.Indented s') : s'.rest? = s.rest? := by
  obtain ⟨b, hb, rfl⟩ := h
  rw [SplitState.rest?, SplitState.rest?, trim_blank_append hb]

end SplitState

/-- Behind lines that leave the semicolon in effect and nothing but blanks pending, other lines are split as on their own. -/
theorem splitLines_append {p : List (List Char)} (hterminator : (SplitState.initial.run p).2.terminator = .semicolon)
    (hpending : AllBlank (SplitState.initial.run p).2.pending) (ls : List (List Char)) :
    splitLines (p ++ ls) = ⟨(splitLines p).statements ++ (splitLines ls).statements, (splitLines ls).discarded?⟩ := by
  have hindented : SplitState.initial.Indented (SplitState.initial.run p).2 := by
    refine ⟨_, hpending, ?_⟩
    change _ = SplitState.mk .semicolon (_ ++ [])
    rw [List.append_nil, ← hterminator]
  obtain ⟨hstatements, hrest⟩ := hindented.run ls
  rw [splitLines, SplitState.run_append, hstatements, hrest.rest?]
  rfl

/-- An empty line in front of others changes nothing. -/
theorem splitLines_empty_cons (ls : List (List Char)) : splitLines ([] :: ls) = splitLines ls := by
  have hempty : SplitState.initial.run [[]] = ([], ⟨.semicolon, ['\n']⟩) := rfl
  exact splitLines_append (p := [[]]) (by rw [hempty]) (by rw [hempty]; exact allBlank_lf) ls

/-- Behind a script that ends with a line break and leaves the semicolon in effect and nothing but blanks pending, another script is
split as on its own. -/
theorem split_append_of_blank {p : String} (hp : EndsWithBreak p.toList)
    (hterminator : (SplitState.initial.run (lines p.toList)).2.terminator = .semicolon)
    (hpending : AllBlank (SplitState.initial.run (lines p.toList)).2.pending) (s : String) :
    split (p ++ s) = ⟨(split p).statements ++ (split s).statements, (split s).discarded?⟩ := by
  obtain ⟨ls, hlines, hseam⟩ := exists_lines_append hp s.toList
  have hs : split s = splitLines ls := by
    rw [split_eq_splitLines]
    rcases hseam with h | h
    · rw [h]
    · rw [h, splitLines_empty_cons]
  rw [split_eq_splitLines, String.toList_append, hlines, splitLines_append hterminator hpending, hs, split_eq_splitLines]

/-- A script that is empty or ends with a line break keeps its statements when another script is put behind it. If it leaves the
semicolon in effect and nothing but blanks pending, then the statements of the other script follow and what that one discards is
discarded. -/
theorem split_append (p s : String) (hp : p = "" ∨ EndsWithBreak p.toList) :
    (split p).statements <+: (split (p ++ s)).statements ∧
    ((SplitState.initial.run (lines p.toList)).2.terminator = .semicolon →
      AllBlank (SplitState.initial.run (lines p.toList)).2.pending →
      split (p ++ s) = ⟨(split p).statements ++ (split s).statements, (split s).discarded?⟩) := by
  rcases hp with rfl | hp
  · have hempty : split "" = ⟨[], none⟩ := rfl
    rw [String.empty_append, hempty]
    exact ⟨List.nil_prefix, fun _ _ => by rw [List.nil_append]⟩
  · refine ⟨?_, fun hterminator hpending => split_append_of_blank hp hterminator hpending s⟩
    obtain ⟨ls, hlines, -⟩ := exists_lines_append hp s.toList
    rw [split_eq_splitLines, split_eq_splitLines, String.toList_append, hlines, splitLines, splitLines, SplitState.run_append]
    exact List.prefix_append _ _

/-- A script that ends with a CR between two directives, put in front of one that starts with an LF. -/
theorem split_append_inside_crlf :
    let p := "SET TERM ^ ;\nA;^\nSET TERM ; ^\r"
    let s := "\nB;\nC"
    EndsWithBreak p.toList ∧ (SplitState.initial.run (lines p.toList)).2.terminator = .semicolon ∧
      AllBlank (SplitState.initial.run (lines p.toList)).2.pending ∧ (split p).statements <+: (split (p ++ s)).statements ∧
      split (p ++ s) = ⟨[⟨"A;"⟩, ⟨"B"⟩], some "C"⟩ := by
  intro p s
  have hbreak : EndsWithBreak p.toList := .inl (by simp [p])
  have hstate : (SplitState.initial.run (lines p.toList)).2 = .initial := by decide +kernel
  have hterminator : (SplitState.initial.run (lines p.toList)).2.terminator = .semicolon := by rw [hstate]; rfl
  have hpending : AllBlank (SplitState.initial.run (lines p.toList)).2.pending := by rw [hstate]; exact allBlank_nil
  obtain ⟨hfront, happend⟩ := split_append p s (.inr hbreak)
  refine ⟨hbreak, hterminator, hpending, hfront, (happend hterminator hpending).trans ?_⟩
  decide +kernel

/-! ## Directives told by their words -/

/-- Whether a line starts, blanks aside, with the words `SET TERM` in any letter case. -/
def StartsWithSetTerm (line : List Char) : Prop := ∃ head, head <+: trim line ∧ sameLetters head "SET TERM".toList = true

/-- A directive is told by its words. -/
theorem isDirectiveLine_iff {line : List Char} : isDirectiveLine line = true ↔ StartsWithSetTerm line := startsWithLetters_iff

/-- A terminator behind a line makes no directive of it. -/
theorem isDirectiveLine_concat {line : List Char} {d : Char} (hlast : line.getLast? = some d) (hd : isBlank d = false)
    (t : Terminator) (h : isDirectiveLine line = false) : isDirectiveLine (line ++ [t.symbol]) = false := by
  obtain ⟨body, rfl⟩ := List.getLast?_eq_some_iff.mp hlast
  have htrim : trim (body ++ [d]) = trimStart body ++ [d] := by
    simpa using trim_concat body hd allBlank_nil
  have htrim' : trim (body ++ [d] ++ [t.symbol]) = trim (body ++ [d]) ++ [t.symbol] := by
    rw [htrim, ← trimStart_concat body hd []]
    simpa using trim_concat (body ++ [d]) t.isBlank_symbol allBlank_nil
  rw [Bool.eq_false_iff, Ne, isDirectiveLine_iff] at h ⊢
  rintro ⟨head, hfront, hsame⟩
  rw [htrim'] at hfront
  rcases List.prefix_concat_iff.mp hfront with rfl | hfront
  · -- the words do not end with a terminator
    rw [sameLetters, beq_iff_eq, List.map_append] at hsame
    have := congrArg List.getLast? hsame
    rw [List.map_singleton, List.getLast?_concat] at this
    cases t <;> exact absurd this (by decide)
  · exact h ⟨head, hfront, hsame⟩

/-! ## Texts joined with their terminators -/

/-- A text and the terminator that it is joined with. -/
structure Part where
  text : String
  terminator : Terminator

/-- The script of a text: its terminator is put behind it, and the caret between two directives. -/
def Part.script (p : Part) : String :=
  match p.terminator with
  | .semicolon => p.text ++ ";\n"
  | .caret => Ddl.setCaret ++ "\n" ++ p.text ++ "^\n" ++ Ddl.setSemicolon ++ "\n"

/-- The scripts of some texts, one behind the other. -/
def joined (parts : List Part) : String := String.join (parts.map Part.script)

/-- What a text may hold, if it is to be found again among others: it is not empty and trimmed, its lines end with LF, none of them is
taken for a directive, and none but the last ends with the terminator. -/
structure Part.Separable (p : Part) : Prop where
  ne_empty : p.text ≠ ""
  trimmed_eq : trimmed p.text = p.text
  no_cr : '\r' ∉ p.text.toList
  plain : ∀ line ∈ lines p.text.toList, ¬StartsWithSetTerm line
  unended : ∀ line ∈ (lines p.text.toList).dropLast, (trimEnd line).getLast? ≠ some p.terminator.symbol

namespace Part.Separable

variable {p : Part}

theorem trim_text (h : p.Separable) : trim p.text.toList = p.text.toList := by
  have := congrArg String.toList h.trimmed_eq
  rwa [trimmed, String.toList_ofList] at this

/-- A trimmed text that is not empty ends with a visible character. -/
theorem exists_getLast? (h : p.Separable) : ∃ d, p.text.toList.getLast? = some d ∧ isBlank d = false := by
  have hlast : p.text.toList.getLast? = lastVisible? p.text.toList := by
    rw [← getLast?_trim, h.trim_text]
  cases hv : lastVisible? p.text.toList with
  | none =>
    rw [hv, List.getLast?_eq_none_iff] at hlast
    exact absurd (String.toList_eq_nil_iff.mp hlast) h.ne_empty
  | some d => exact ⟨d, by rw [hlast, hv], isBlank_of_lastVisible hv⟩

/-- The terminator behind the text belongs to its last line, which ends with a visible character. -/
theorem exists_lines (h : p.Separable) : ∃ init last d, lines p.text.toList = init ++ [last] ∧
    pieces (p.text.toList ++ [p.terminator.symbol]) = init ++ [last ++ [p.terminator.symbol]] ∧
    last.getLast? = some d ∧ isBlank d = false := by
  obtain ⟨d, hd, hvisible⟩ := h.exists_getLast?
  have hr : d ≠ '\r' := by rintro rfl; exact absurd hvisible (by decide)
  have hn : d ≠ '\n' := by rintro rfl; exact absurd hvisible (by decide)
  obtain ⟨init, last, hpieces, hconcat⟩ :=
    exists_pieces_concat p.terminator.symbol_ne_cr p.terminator.symbol_ne_lf p.text.toList
  have hlines : lines p.text.toList = init ++ [last] := by
    rw [← hpieces]
    exact lines_eq_pieces (by simp [hd, hr]) (by simp [hd, hn])
  refine ⟨init, last, d, hlines, hconcat, ?_, hvisible⟩
  obtain ⟨front, hfront⟩ := List.getLast?_eq_some_iff.mp hd
  obtain ⟨ls, body, hbody, -⟩ := pieces_concat front hr hn
  rw [hfront, hbody] at hpieces
  rw [← List.singleton_inj.mp (List.append_inj' hpieces rfl).2, List.getLast?_concat]

/-- The text is its own statement. -/
theorem bodyStatement?_text (h : p.Separable) : bodyStatement? p.text.toList = some ⟨p.text⟩ := by
  rw [bodyStatement?, h.trim_text, if_neg (by simpa using h.ne_empty), String.ofList_toList]

/-- The lines of the text with its terminator give the text as a statement. -/
theorem run_text (h : p.Separable) : SplitState.run ⟨p.terminator, []⟩ (pieces (p.text.toList ++ [p.terminator.symbol])) =
    ([⟨p.text⟩], ⟨p.terminator, []⟩) := by
  obtain ⟨init, last, d, hlines, hpieces, hlast, hvisible⟩ := h.exists_lines
  have hplain : ∀ line ∈ init ++ [last], isDirectiveLine line = false := by
    intro line hline
    rw [Bool.eq_false_iff, Ne, isDirectiveLine_iff]
    exact h.plain line (by rwa [hlines])
  have hdirective : ∀ piece ∈ init ++ [last ++ [p.terminator.symbol]], isDirectiveLine piece = false := by
    intro piece hpiece
    rcases List.mem_append.mp hpiece with hpiece | hpiece
    · exact hplain piece (List.mem_append_left _ hpiece)
    · rw [List.mem_singleton.mp hpiece]
      exact isDirectiveLine_concat hlast hvisible p.terminator (hplain last (by simp))
  have hunended : ∀ line ∈ init, lastVisible? line ≠ some p.terminator.symbol := by
    intro line hline
    rw [← getLast?_trimEnd]
    exact h.unended line (by rwa [hlines, List.dropLast_concat])
  have hclosed : (p.text.toList ++ [p.terminator.symbol]).getLast? = some p.terminator.symbol := List.getLast?_concat
  have hrun := SplitState.run_pieces ⟨p.terminator, []⟩ hclosed (by simp [lastVisible?])
    (by rwa [hpieces, List.dropLast_concat]) (by rwa [hpieces])
  rw [hrun, List.dropLast_concat, List.nil_append, unifyBreaks_of_not_mem h.no_cr, h.bodyStatement?_text]
  rfl

/-- The script of a text gives the text, and leaves the state of the start. -/
theorem run_script (h : p.Separable) : SplitState.initial.run (lines p.script.toList) = ([⟨p.text⟩], .initial) := by
  have hrun := h.run_text
  have hcr : (p.text.toList ++ [p.terminator.symbol]).getLast? ≠ some '\r' := by
    simpa using p.terminator.symbol_ne_cr
  rcases p with ⟨text, _ | _⟩
  · have hscript : (script ⟨text, .semicolon⟩).toList = text.toList ++ [Terminator.semicolon.symbol] ++ ['\n'] := by
      simp [script, Terminator.symbol]
    rw [hscript, lines_append_lf hcr]
    exact hrun
  · have hscript : (script ⟨text, .caret⟩).toList =
        endLines [Ddl.setCaret.toList, text.toList ++ [Terminator.caret.symbol], Ddl.setSemicolon.toList] := by
      simp [script, Terminator.symbol]
    have hends : ∀ t ∈ [Ddl.setCaret.toList, text.toList ++ [Terminator.caret.symbol], Ddl.setSemicolon.toList],
        t.getLast? ≠ some '\r' := by
      simp only [List.forall_mem_cons]
      exact ⟨by decide, hcr, by decide, by simp⟩
    rw [hscript, lines_endLines (by simp) hends]
    simp only [List.flatMap_cons, List.flatMap_nil, Ddl.pieces_setCaret, Ddl.pieces_setSemicolon, List.append_nil]
    rw [List.singleton_append, SplitState.run_cons, SplitState.initial, Ddl.step_setCaret, SplitState.run_append, hrun,
      SplitState.run_cons, Ddl.step_setSemicolon]
    rfl

end Part.Separable

theorem Part.endsWithBreak_script (p : Part) : EndsWithBreak p.script.toList := by
  rcases p with ⟨text, _ | _⟩
  · exact .inr (by simp [script])
  · exact .inr (by rw [script, String.toList_append]; exact List.getLast?_concat)

/-- Texts joined with their terminators are split into the same texts, in order, and nothing is discarded. -/
theorem split_joined (parts : List Part) (h : ∀ p ∈ parts, p.Separable) :
    split (joined parts) = ⟨parts.map fun p => ⟨p.text⟩, none⟩ := by
  induction parts with
  | nil => rfl
  | cons p parts ih =>
    have hrun := (h p List.mem_cons_self).run_script
    have hjoined : joined (p :: parts) = p.script ++ joined parts := by simp [joined]
    have happend := split_append_of_blank p.endsWithBreak_script (by rw [hrun]; rfl) (by rw [hrun]; exact allBlank_nil)
      (joined parts)
    rw [hjoined, happend, split_eq_of_run hrun, ih fun q hq => h q (List.mem_cons_of_mem _ hq)]
    rfl

/-- Texts with both terminators, blank lines, and lines that start with SET. -/
def mixedParts : List Part :=
  [⟨"BEGIN\n  UPDATE T\n  SET  TERM = 1;\n\nEND;", .caret⟩, ⟨"COMMENT ON TABLE T IS 'A^\n  set  term ^' ;", .semicolon⟩,
    ⟨"X^^", .caret⟩, ⟨"Y", .semicolon⟩]

/-- The texts are found again. -/
theorem split_mixedParts : (∀ p ∈ mixedParts, p.Separable) ∧
    split (joined mixedParts) =
      ⟨[⟨"BEGIN\n  UPDATE T\n  SET  TERM = 1;\n\nEND;"⟩, ⟨"COMMENT ON TABLE T IS 'A^\n  set  term ^' ;"⟩, ⟨"X^^"⟩, ⟨"Y"⟩],
        none⟩ := by
  have hplain : ∀ p ∈ mixedParts, ∀ line ∈ lines p.text.toList, isDirectiveLine line = false := by decide +kernel
  have hseparable : ∀ p ∈ mixedParts, p.Separable := by
    intro p hp
    have hne : ∀ p ∈ mixedParts, p.text ≠ "" := by decide +kernel
    have htrimmed : ∀ p ∈ mixedParts, trimmed p.text = p.text := by decide +kernel
    have hcr : ∀ p ∈ mixedParts, '\r' ∉ p.text.toList := by decide +kernel
    have hunended : ∀ p ∈ mixedParts, ∀ line ∈ (lines p.text.toList).dropLast,
        (trimEnd line).getLast? ≠ some p.terminator.symbol := by decide +kernel
    exact ⟨hne p hp, htrimmed p hp, hcr p hp,
      fun line hline h => absurd (isDirectiveLine_iff.mpr h) (by simp [hplain p hp line hline]), hunended p hp⟩
  refine ⟨hseparable, (split_joined mixedParts hseparable).trans ?_⟩
  simp only [mixedParts, List.map_cons, List.map_nil]

end SchemaScript.Script
