import SchemaScript.Proofs.Script.Remainder

/-!
# Line breaks do not matter

CR LF, LF and a lone CR end a line alike: a text is split as the same text with an LF for each of them, and no CR reaches a statement
or the discarded text (`split_ignores_breaks`). The lines of a text are those of one reading from left to right, in which a break ends
the line and another line starts behind it unless the text ends there (`scan_eq`), and they are what cutting the text at each CR LF
and then the parts at each CR and LF gives (`flatMap_splitCrLf`).

A break divides the lines of a text, too, as it divides its pieces, unless it ends the text (`lines_append_break`); the two breaks
of a text like LF CR are told apart by this.
-/

namespace SchemaScript.Script

open Text

/-- What stands in front of a text does not matter for where it meets the next one. -/
theorem Apart.append_left {b c : List Char} (h : Apart b c) (hb : b ≠ []) (a : List Char) : Apart (a ++ b) c :=
  h.imp_left fun hlast => by rwa [List.getLast?_append_of_ne_nil a hb]

/-- What stands behind the start of a text does not matter for where it meets the one before. -/
theorem Apart.mono_right {a b c : List Char} (h : Apart a b) (hc : c <+: b) : Apart a c := by
  refine h.imp_right fun hhead e => hhead ?_
  obtain ⟨rest, rfl⟩ := hc
  rw [List.head?_append, e, Option.some_or]

/-! ## Texts with unified breaks -/

/-- A text with an LF for each CR LF. -/
def replaceCrLf : List Char → List Char
  | [] => []
  | '\r' :: '\n' :: cs => '\n' :: replaceCrLf cs
  | c :: cs => c :: replaceCrLf cs

/-- A text with an LF for each CR. -/
def replaceCr (cs : List Char) : List Char := cs.map fun c => if c = '\r' then '\n' else c

/-- Replacing each CR LF and then each CR that is left unifies the breaks of a text. -/
theorem replaceCr_replaceCrLf (cs : List Char) : replaceCr (replaceCrLf cs) = unifyBreaks cs := by
  fun_induction replaceCrLf cs with
  | case1 => rfl
  | case2 cs ih => rw [unifyBreaks, ← ih]; rfl
  | case3 c cs h ih =>
    by_cases hc : c = '\r'
    · subst hc
      have hhead : cs.head? ≠ some '\n' := fun e => by cases cs <;> simp_all
      rw [unifyBreaks_cr hhead, ← ih]
      rfl
    · rw [unifyBreaks_cons_of_ne hc, ← ih, replaceCr, List.map_cons, if_neg hc]
      rfl

/-- Dropping the final break leaves a front of the text. -/
theorem dropFinalBreak_isPrefix (cs : List Char) : dropFinalBreak cs <+: cs := by
  rcases dropFinalBreak_spec cs with ⟨-, h⟩ | ⟨br, -, -, h⟩
  · exact ⟨[], by rw [h, List.append_nil]⟩
  · exact ⟨br, h.symm⟩

/-- A text and the text with unified breaks have the same lines. -/
theorem lines_unifyBreaks (cs : List Char) : lines (unifyBreaks cs) = lines cs := by
  have hpieces : ∀ ds, pieces (unifyBreaks ds) = pieces ds := fun ds => by
    rw [pieces_eq_splitOn, unifyBreaks_of_not_mem (cr_not_mem_unifyBreaks ds), ← pieces_eq_splitOn]
  have hcr : ∀ ds, (unifyBreaks ds).getLast? ≠ some '\r' := fun ds e =>
    cr_not_mem_unifyBreaks ds (List.mem_of_getLast? e)
  rcases dropFinalBreak_spec cs with ⟨⟨hr, hn⟩, -⟩ | ⟨br, hbr, hapart, hcs⟩
  · have hlf : (unifyBreaks cs).getLast? ≠ some '\n' := by
      rcases List.eq_nil_or_concat cs with rfl | ⟨init, c, rfl⟩
      · simp [unifyBreaks]
      · rw [List.concat_eq_append] at hr hn ⊢
        rw [List.getLast?_concat, Ne, Option.some.injEq] at hr hn
        rw [unifyBreaks_append (.inr (by simpa using hn)), unifyBreaks_cons_of_ne hr]
        simpa [unifyBreaks] using hn
    rw [lines_eq_pieces (hcr cs) hlf, lines_eq_pieces hr hn, hpieces]
  · conv => lhs; rw [hcs, unifyBreaks_append hapart, hbr.unifyBreaks]
    rw [lines_append_lf (hcr _), hpieces, lines]

/-! ## Texts put together at a break -/

/-- Only the start of a reversed text counts for the break that is dropped. -/
theorem dropBreakReversed_append {x y : List Char} (hx : x ≠ []) (h : x ≠ ['\n'] ∨ y.head? ≠ some '\r') :
    dropBreakReversed (x ++ y) = dropBreakReversed x ++ y := by
  fun_cases dropBreakReversed x with
  | case1 rest => rfl
  | case2 rest hrest =>
    rw [List.cons_append, dropBreakReversed]
    intro t e
    cases rest with
    | nil => exact h.elim (fun hne => hne rfl) fun hne => hne (by simp_all)
    | cons c rest => exact hrest rest (by simp_all)
  | case3 rest => rfl
  | case4 =>
    obtain ⟨c, rest, rfl⟩ := List.exists_cons_of_ne_nil hx
    rw [List.cons_append, dropBreakReversed] <;> simp_all

/-- The break that ends two texts ends the second one, if they do not meet inside it. -/
theorem dropFinalBreak_append {a b : List Char} (hb : b ≠ []) (h : Apart a b) :
    dropFinalBreak (a ++ b) = a ++ dropFinalBreak b := by
  have h : b.reverse ≠ ['\n'] ∨ a.reverse.head? ≠ some '\r' := by
    rw [List.head?_reverse]
    refine h.symm.imp_left fun hhead e => hhead ?_
    rw [← List.reverse_reverse b, e]
    rfl
  rw [dropFinalBreak, dropFinalBreak, List.reverse_append, dropBreakReversed_append (by simpa using hb) h,
    List.reverse_append, List.reverse_reverse]

/-- A break apart from its neighbours divides the lines of a text, unless it ends the text. -/
theorem lines_append_break {a br b : List Char} (hbr : IsLineBreak br) (ha : Apart a br) (hb : Apart br b) (hne : b ≠ []) :
    lines (a ++ (br ++ b)) = pieces a ++ lines b := by
  rw [lines, ← List.append_assoc, dropFinalBreak_append hne (hb.append_left hbr.ne_nil a), List.append_assoc,
    pieces_append_break hbr ha (hb.mono_right (dropFinalBreak_isPrefix b)), lines]

/-- A character that is no break belongs to the first line. -/
theorem lines_cons {c : Char} (hr : c ≠ '\r') (hn : c ≠ '\n') (cs : List Char) :
    lines (c :: cs) = (lines cs).modifyHead (c :: ·) := by
  have hdrop : dropFinalBreak (c :: cs) = c :: dropFinalBreak cs := by
    cases cs with
    | nil => rw [dropFinalBreak, List.reverse_singleton, dropBreakReversed] <;> simp_all [dropFinalBreak, dropBreakReversed]
    | cons d cs => exact dropFinalBreak_append (a := [c]) (by simp) (.inl (by simpa using hr))
  rw [lines, hdrop, pieces_cons hr hn, lines]

/-- A break in front of a text ends an empty line, and another line starts behind it if there is a text. -/
theorem lines_break_append {br cs : List Char} (hbr : IsLineBreak br) (h : Apart br cs) :
    lines (br ++ cs) = [] :: if cs.isEmpty then [] else lines cs := by
  have hnil : Apart [] br := .inl (by simp)
  cases cs with
  | nil => rw [List.append_nil]; exact lines_append_finalBreak hbr hnil
  | cons c cs => exact lines_append_break hbr hnil h (by simp)

/-! ## Reading from left to right -/

/-- The lines of a text read from left to right, of which `line` was read before. A break ends the line; another one starts behind it
unless the text ends there. -/
def scan (line : List Char) : List Char → List (List Char)
  | [] => [line]
  | '\r' :: '\n' :: cs => line :: if cs.isEmpty then [] else scan [] cs
  | '\r' :: cs => line :: if cs.isEmpty then [] else scan [] cs
  | '\n' :: cs => line :: if cs.isEmpty then [] else scan [] cs
  | c :: cs => scan (line ++ [c]) cs

/-- Reading a text from left to right gives its lines, the first of them behind what was read before. -/
theorem scan_eq (line cs : List Char) : scan line cs = (lines cs).modifyHead (line ++ ·) := by
  -- a break in front of the text: what was read before is a line
  have hbreak : ∀ {line br cs : List Char}, IsLineBreak br → Apart br cs → scan [] cs = (lines cs).modifyHead ([] ++ ·) →
      (line :: if cs.isEmpty then [] else scan [] cs) = (lines (br ++ cs)).modifyHead (line ++ ·) := by
    intro line br cs hbr hapart ih
    have hnothing : (lines cs).modifyHead ([] ++ ·) = lines cs := by cases lines cs <;> rfl
    rw [lines_break_append hbr hapart, List.modifyHead_cons, List.append_nil, ih, hnothing]
  fun_induction scan line cs with
  | case1 line => simp [lines, dropFinalBreak, dropBreakReversed, pieces]
  | case2 line cs ih => exact hbreak (.inl rfl) (.inl (by simp)) ih
  | case3 line cs h ih => exact hbreak (.inr (.inl rfl)) (.inr fun e => by cases cs <;> simp_all) ih
  | case4 line cs ih => exact hbreak (.inr (.inr rfl)) (.inl (by simp)) ih
  | case5 line c cs _ hr hn ih =>
    rw [ih, lines_cons hr hn, List.modifyHead_modifyHead]
    congr 1
    funext rest
    simp

example : scan [] "a\n\rb\r\r\nc\r".toList = ["a".toList, [], "b".toList, [], "c".toList] := by decide

/-! ## Cutting at CR LF first -/

/-- The parts of a text between its CR LFs. -/
def splitCrLf : List Char → List (List Char)
  | [] => [[]]
  | '\r' :: '\n' :: cs => [] :: splitCrLf cs
  | c :: cs => (splitCrLf cs).modifyHead (c :: ·)

/-- Whether a character ends a line. -/
def isBreak (c : Char) : Bool := c = '\r' || c = '\n'

theorem splitCrLf_ne_nil (cs : List Char) : splitCrLf cs ≠ [] := by
  fun_induction splitCrLf cs <;> simp_all

/-- Cutting the parts between the CR LFs at each CR and LF gives the pieces of a text. -/
theorem flatMap_splitCrLf (cs : List Char) : (splitCrLf cs).flatMap (List.splitOnP isBreak) = pieces cs := by
  fun_induction splitCrLf cs with
  | case1 => rfl
  | case2 cs ih => rw [List.flatMap_cons, ih, pieces]; rfl
  | case3 c cs h ih =>
    obtain ⟨part, parts, hparts⟩ := List.exists_cons_of_ne_nil (splitCrLf_ne_nil cs)
    rw [hparts, List.flatMap_cons] at ih
    rw [hparts, List.modifyHead_cons, List.flatMap_cons, List.splitOnP_cons_eq_if_modifyHead]
    cases hc : isBreak c with
    | true =>
      rw [if_pos rfl, List.cons_append, ih]
      simp only [isBreak, Bool.or_eq_true, decide_eq_true_eq] at hc
      rcases hc with rfl | rfl
      · rw [pieces_cr fun e => by cases cs <;> simp_all]
      · rw [pieces]
    | false =>
      simp only [isBreak, Bool.or_eq_false_iff, decide_eq_false_iff_not] at hc
      obtain ⟨piece, rest, hpiece⟩ := List.exists_cons_of_ne_nil (List.splitOnP_ne_nil isBreak part)
      rw [hpiece, List.cons_append] at ih
      rw [if_neg Bool.false_ne_true, hpiece, List.modifyHead_cons, pieces_cons hc.1 hc.2, ← ih, List.modifyHead_cons,
        List.cons_append]

/-! ## No CR is left -/

/-- The statement of a text adds no character to it. -/
theorem not_mem_bodyStatement? {body : List Char} {c : Char} (h : c ∉ body) : ∀ st ∈ bodyStatement? body, c ∉ st.text.toList := by
  intro st hst
  rw [bodyStatement?] at hst
  split at hst
  · cases hst
  · obtain rfl := Option.some.inj hst
    rw [String.toList_ofList]
    exact fun hc => h (mem_of_mem_trim hc)

namespace SplitState

/-- A line adds no character to the gathered text or to a statement but its own ones and an LF. -/
theorem step_not_mem {s : SplitState} {line : List Char} {c : Char} (hc : c ≠ '\n') (hs : c ∉ s.pending) (hl : c ∉ line) :
    (∀ st ∈ (s.step line).2, c ∉ st.text.toList) ∧ c ∉ (s.step line).1.pending := by
  have hgathered : c ∉ s.pending ++ line := by
    rw [List.mem_append, not_or]
    exact ⟨hs, hl⟩
  cases hd : isDirectiveLine line with
  | true =>
    rw [s.step_directive hd]
    exact ⟨nofun, hs⟩
  | false =>
    by_cases hlast : lastVisible? (s.pending ++ line) = some s.terminator.symbol
    · obtain ⟨body, b, hbody, hb⟩ := exists_of_lastVisible hlast
      rw [s.step_close hd hb hbody]
      refine ⟨not_mem_bodyStatement? fun hmem => hgathered ?_, List.not_mem_nil⟩
      rw [hbody]
      exact List.mem_append_left _ (List.mem_append_left _ hmem)
    · rw [s.step_open hd hlast]
      refine ⟨nofun, ?_⟩
      rw [gather, List.mem_append, not_or]
      exact ⟨hgathered, by simpa using hc⟩

/-- Lines add no character to the gathered text or to a statement but their own ones and LFs. -/
theorem run_not_mem {s : SplitState} {ls : List (List Char)} {c : Char} (hc : c ≠ '\n') (hs : c ∉ s.pending)
    (hls : ∀ line ∈ ls, c ∉ line) : (∀ st ∈ (s.run ls).1, c ∉ st.text.toList) ∧ c ∉ (s.run ls).2.pending := by
  induction ls generalizing s with
  | nil => exact ⟨nofun, hs⟩
  | cons line ls ih =>
    obtain ⟨hstatement, hpending⟩ := step_not_mem hc hs (hls line List.mem_cons_self)
    obtain ⟨hstatements, hlast⟩ := ih hpending fun l hl => hls l (List.mem_cons_of_mem _ hl)
    rw [run_cons]
    refine ⟨fun st hst => ?_, hlast⟩
    rcases List.mem_append.mp hst with hst | hst
    · exact hstatement st (Option.mem_toList.mp hst)
    · exact hstatements st hst

end SplitState

/-- A script is split as the script with an LF for each of its line breaks, and neither a statement nor the discarded text holds a
CR. Its lines are those of reading it from left to right, where CR LF, CR and LF end a line, and those of cutting it at each CR LF and
then at each CR and LF, without the break at its end. -/
theorem split_ignores_breaks (script : String) :
    split (String.ofList (replaceCr (replaceCrLf script.toList))) = split script ∧
    (∀ st ∈ (split script).statements, '\r' ∉ st.text.toList) ∧
    (∀ rest, (split script).discarded? = some rest → '\r' ∉ rest.toList) ∧
    lines script.toList = scan [] script.toList ∧
    lines script.toList = (splitCrLf (dropFinalBreak script.toList)).flatMap (List.splitOnP isBreak) := by
  have hlines : ∀ line ∈ lines script.toList, '\r' ∉ line := fun line hline => cr_not_mem_pieces hline
  obtain ⟨hstatements, hpending⟩ : (∀ st ∈ (SplitState.initial.run (lines script.toList)).1, '\r' ∉ st.text.toList) ∧ _ :=
    SplitState.run_not_mem (by decide) List.not_mem_nil hlines
  refine ⟨?_, hstatements, fun rest hrest => ?_, ?_, (flatMap_splitCrLf _).symm⟩
  · rw [split_eq_splitLines, String.toList_ofList, replaceCr_replaceCrLf, lines_unifyBreaks, split_eq_splitLines]
  · rw [split_eq_splitLines, splitLines, SplitState.rest?_eq, Option.map_eq_some_iff] at hrest
    obtain ⟨st, hst, rfl⟩ := hrest
    exact not_mem_bodyStatement? hpending st hst
  · rw [scan_eq]
    cases lines script.toList <;> rfl

end SchemaScript.Script
