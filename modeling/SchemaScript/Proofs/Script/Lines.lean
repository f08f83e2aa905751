import SchemaScript.Proofs.Text.Trim
import SchemaScript.Script.Line

/-!
# The lines of a text

A text is cut at its breaks after every CR LF and every lone CR is read as LF (`pieces_eq_splitOn`), so that putting the pieces
back together with an LF behind each gives the text with its breaks unified (`endLines_pieces`). A break that does not join with its
neighbours to a CR LF divides the pieces of a text (`pieces_append_break`), and the one that ends a text starts no line
(`lines_append_finalBreak`). So texts joined by LF keep their own lines (`lines_endLines`), as long as none ends with a CR that the
LF behind it would complete.
-/

namespace SchemaScript.Script

open Text

/-- A text with each of its line breaks, CR LF, CR or LF, as one LF. -/
def unifyBreaks : List Char → List Char
  | [] => []
  | '\r' :: '\n' :: cs => '\n' :: unifyBreaks cs
  | '\r' :: cs => '\n' :: unifyBreaks cs
  | c :: cs => c :: unifyBreaks cs

/-- Whether a text is one line break. -/
def IsLineBreak (cs : List Char) : Prop := cs = ['\r', '\n'] ∨ cs = ['\r'] ∨ cs = ['\n']

/-- Whether two texts do not meet inside a CR LF. -/
def Apart (a b : List Char) : Prop := a.getLast? ≠ some '\r' ∨ b.head? ≠ some '\n'

theorem IsLineBreak.ne_nil {br : List Char} (h : IsLineBreak br) : br ≠ [] := by
  rcases h with rfl | rfl | rfl <;> simp

/-- A longer text behind the same start meets the one before as it did. -/
theorem Apart.append_right {a b : List Char} (h : Apart a b) (hb : b ≠ []) (c : List Char) : Apart a (b ++ c) :=
  h.imp_right fun hhead => by rwa [List.head?_append_of_ne_nil b hb]

/-- Texts one after the other, each with an LF behind it. -/
def endLines (texts : List (List Char)) : List Char := texts.flatMap (· ++ ['\n'])

@[simp] theorem endLines_nil : endLines [] = [] := rfl

@[simp] theorem endLines_cons (text : List Char) (texts : List (List Char)) :
    endLines (text :: texts) = text ++ '\n' :: endLines texts := by
  simp [endLines]

@[simp] theorem endLines_append (a b : List (List Char)) : endLines (a ++ b) = endLines a ++ endLines b :=
  List.flatMap_append

/-- Putting the pieces between LFs back together. -/
theorem endLines_splitOn (cs : List Char) : endLines (cs.splitOn '\n') = cs ++ ['\n'] := by
  induction cs with
  | nil => rfl
  | cons c cs ih =>
    obtain ⟨piece, rest, hs⟩ := List.exists_cons_of_ne_nil (List.splitOn_ne_nil '\n' cs)
    rw [hs, endLines_cons] at ih
    rw [List.splitOn_cons_eq_if_modifyHead, hs]
    split
    · rename_i hc
      rw [endLines_cons, endLines_cons, ih, beq_iff_eq.1 hc]
      rfl
    · rw [List.modifyHead_cons, endLines_cons, List.cons_append, ih, List.cons_append]

/-! ## Unified breaks -/

theorem unifyBreaks_cons_of_ne {c : Char} (h : c ≠ '\r') (cs : List Char) :
    unifyBreaks (c :: cs) = c :: unifyBreaks cs := by
  rw [unifyBreaks] <;> simp_all

/-- A CR that no LF follows is read as LF. -/
theorem unifyBreaks_cr {cs : List Char} (h : cs.head? ≠ some '\n') :
    unifyBreaks ('\r' :: cs) = '\n' :: unifyBreaks cs := by
  rw [unifyBreaks]
  rintro t rfl
  exact h rfl

/-- No CR is left. -/
theorem cr_not_mem_unifyBreaks (cs : List Char) : '\r' ∉ unifyBreaks cs := by
  fun_induction unifyBreaks cs with
  | case1 => simp
  | case2 cs ih => simpa using ih
  | case3 cs _ ih => simpa using ih
  | case4 c cs _ hc ih =>
    rw [List.mem_cons, not_or]
    exact ⟨fun e => hc e.symm, ih⟩

/-- A text without a CR has no break to unify. -/
theorem unifyBreaks_of_not_mem {cs : List Char} (h : '\r' ∉ cs) : unifyBreaks cs = cs := by
  induction cs with
  | nil => rfl
  | cons c cs ih =>
    rw [List.mem_cons, not_or] at h
    rw [unifyBreaks_cons_of_ne (Ne.symm h.1), ih h.2]

/-- A text cut anywhere but inside a CR LF. -/
theorem unifyBreaks_append {a b : List Char} (h : Apart a b) : unifyBreaks (a ++ b) = unifyBreaks a ++ unifyBreaks b := by
  fun_induction unifyBreaks a with
  | case1 => rfl
  | case2 a ih =>
    have h' : Apart a b := h.imp_left (mt fun e => by simp [List.getLast?_cons, e])
    rw [List.cons_append, List.cons_append, unifyBreaks, ih h', List.cons_append]
  | case3 a ha ih =>
    have h' : Apart a b := h.imp_left (mt fun e => by simp [List.getLast?_cons, e])
    have hhead : (a ++ b).head? ≠ some '\n' := by
      cases a with
      | nil => exact h.resolve_left (by simp)
      | cons d a => exact fun e => ha a (by simpa using e)
    rw [List.cons_append, unifyBreaks_cr hhead, ih h', List.cons_append]
  | case4 c a _ hc ih =>
    have h' : Apart a b := h.imp_left (mt fun e => by simp [List.getLast?_cons, e])
    rw [List.cons_append, unifyBreaks_cons_of_ne hc, ih h', List.cons_append]

/-- A break is read as one LF. -/
theorem IsLineBreak.unifyBreaks {br : List Char} (h : IsLineBreak br) : unifyBreaks br = ['\n'] := by
  rcases h with rfl | rfl | rfl <;> rfl

/-- Breaks are blank: the visible characters stay. -/
theorem visible_unifyBreaks (cs : List Char) : visible (unifyBreaks cs) = visible cs := by
  fun_induction unifyBreaks cs with
  | case1 => rfl
  | case2 cs ih => simpa [visible, isBlank] using ih
  | case3 cs _ ih => simpa [visible, isBlank] using ih
  | case4 c cs _ _ ih =>
    rw [← List.singleton_append, visible_append, ih, ← visible_append]
    rfl

/-! ## Pieces -/

/-- A CR that no LF follows starts a new piece. -/
theorem pieces_cr {cs : List Char} (h : cs.head? ≠ some '\n') : pieces ('\r' :: cs) = [] :: pieces cs := by
  rw [pieces]
  rintro t rfl
  exact h rfl

theorem pieces_ne_nil (cs : List Char) : pieces cs ≠ [] := by
  fun_cases pieces cs <;> simp

/-- A character that is no break belongs to the first piece. -/
theorem pieces_cons {c : Char} (hr : c ≠ '\r') (hn : c ≠ '\n') (cs : List Char) :
    pieces (c :: cs) = (pieces cs).modifyHead (c :: ·) := by
  obtain ⟨piece, rest, hs⟩ := List.exists_cons_of_ne_nil (pieces_ne_nil cs)
  rw [pieces, hs, List.modifyHead_cons] <;> simp_all

/-- The pieces of a text are those between the LFs of the text with unified breaks. -/
theorem pieces_eq_splitOn (cs : List Char) : pieces cs = (unifyBreaks cs).splitOn '\n' := by
  fun_induction unifyBreaks cs with
  | case1 => rfl
  | case2 cs ih =>
    rw [pieces, ih, List.splitOn_cons_eq_if_modifyHead]
    rfl
  | case3 cs h ih =>
    rw [pieces_cr (fun e => by cases cs <;> simp_all), ih, List.splitOn_cons_eq_if_modifyHead]
    rfl
  | case4 c cs _ hc ih =>
    rw [List.splitOn_cons_eq_if_modifyHead]
    by_cases hn : c = '\n'
    · subst hn
      rw [pieces, ih]
      rfl
    · rw [pieces_cons hc hn, ih, if_neg (by simpa using hn)]

/-- Putting the pieces of a text back together unifies its breaks. -/
theorem endLines_pieces (cs : List Char) : endLines (pieces cs) = unifyBreaks cs ++ ['\n'] := by
  rw [pieces_eq_splitOn, endLines_splitOn]

/-- The characters of the pieces are characters of the text with unified breaks. -/
theorem mem_unifyBreaks_of_mem_pieces {cs piece : List Char} {c : Char} (hn : c ≠ '\n') (h : piece ∈ pieces cs)
    (hc : c ∈ piece) : c ∈ unifyBreaks cs := by
  have hmem : c ∈ endLines (pieces cs) := List.mem_flatMap.2 ⟨piece, h, List.mem_append_left _ hc⟩
  rw [endLines_pieces, List.mem_append, List.mem_singleton] at hmem
  exact hmem.resolve_right hn

/-- No piece holds a CR. -/
theorem cr_not_mem_pieces {cs piece : List Char} (h : piece ∈ pieces cs) : '\r' ∉ piece :=
  fun hc => cr_not_mem_unifyBreaks cs (mem_unifyBreaks_of_mem_pieces (by decide) h hc)

/-- A break apart from its neighbours divides the pieces of a text. -/
theorem pieces_append_break {a br b : List Char} (hbr : IsLineBreak br) (ha : Apart a br) (hb : Apart br b) :
    pieces (a ++ (br ++ b)) = pieces a ++ pieces b := by
  rw [pieces_eq_splitOn, unifyBreaks_append (ha.append_right hbr.ne_nil b), unifyBreaks_append hb, hbr.unifyBreaks,
    List.singleton_append, List.splitOn_append_cons_self, ← pieces_eq_splitOn, ← pieces_eq_splitOn]

/-- Texts joined by LF keep their own pieces. -/
theorem pieces_append_lf {a : List Char} (h : a.getLast? ≠ some '\r') (b : List Char) :
    pieces (a ++ '\n' :: b) = pieces a ++ pieces b :=
  pieces_append_break (.inr (.inr rfl)) (.inl h) (.inl (by simp))

/-- The last piece of a text holds the text's last character, unless that is a break. -/
theorem pieces_concat (cs : List Char) {c : Char} (hr : c ≠ '\r') (hn : c ≠ '\n') :
    ∃ ls body, pieces (cs ++ [c]) = ls ++ [body ++ [c]] ∧ endLines ls ++ body = unifyBreaks cs := by
  obtain ⟨ls, last, hp⟩ := (List.eq_nil_or_concat (pieces (cs ++ [c]))).resolve_left (pieces_ne_nil _)
  rw [List.concat_eq_append] at hp
  have hc : unifyBreaks [c] = [c] := unifyBreaks_cons_of_ne hr []
  have htext : endLines ls ++ last = unifyBreaks cs ++ [c] := by
    have h := endLines_pieces (cs ++ [c])
    rw [hp, endLines_append, endLines_cons, endLines_nil, unifyBreaks_append (.inr (by simpa using hn)), hc,
      ← List.singleton_append, List.append_nil, ← List.append_assoc] at h
    exact List.append_cancel_right h
  rcases List.eq_nil_or_concat last with rfl | ⟨body, d, rfl⟩
  · have h := congrArg List.getLast? htext
    rw [List.append_nil, List.getLast?_concat] at h
    rcases List.eq_nil_or_concat ls with rfl | ⟨init, text, rfl⟩
    · simp at h
    · simp [endLines, hn.symm] at h
  · rw [List.concat_eq_append, ← List.append_assoc] at htext
    obtain ⟨hbody, hd⟩ := List.append_inj' htext rfl
    rw [List.concat_eq_append] at hp
    exact ⟨ls, body, by rw [hp, List.singleton_inj.1 hd], hbody⟩

/-- Texts ended by LF keep their own pieces, and so does the text behind them. -/
theorem pieces_endLines_append {texts : List (List Char)} (h : ∀ text ∈ texts, text.getLast? ≠ some '\r')
    (rest : List Char) : pieces (endLines texts ++ rest) = texts.flatMap pieces ++ pieces rest := by
  induction texts with
  | nil => rfl
  | cons text texts ih =>
    rw [endLines_cons, List.append_assoc, List.cons_append, pieces_append_lf (h text List.mem_cons_self),
      ih fun t ht => h t (List.mem_cons_of_mem _ ht), List.flatMap_cons, List.append_assoc]

/-! ## Lines -/

/-- A text ends with no break, or with the break that is dropped for its lines. -/
theorem dropFinalBreak_spec (cs : List Char) :
    (cs.getLast? ≠ some '\r' ∧ cs.getLast? ≠ some '\n') ∧ dropFinalBreak cs = cs ∨
      ∃ br, IsLineBreak br ∧ Apart (dropFinalBreak cs) br ∧ cs = dropFinalBreak cs ++ br := by
  rw [dropFinalBreak, ← List.head?_reverse]
  generalize hr : cs.reverse = r
  have hcs : cs = r.reverse := by rw [← hr, List.reverse_reverse]
  fun_cases dropBreakReversed r with
  | case1 rest => exact .inr ⟨['\r', '\n'], .inl rfl, .inr (by simp), by simp [hcs]⟩
  | case2 rest h =>
    refine .inr ⟨['\n'], .inr (.inr rfl), .inl fun e => ?_, by simp [hcs]⟩
    rw [List.getLast?_reverse] at e
    cases rest with
    | nil => nomatch e
    | cons c rest => exact h rest (by simpa using e)
  | case3 rest => exact .inr ⟨['\r'], .inr (.inl rfl), .inr (by simp), by simp [hcs]⟩
  | case4 =>
    refine .inl ⟨?_, hcs.symm⟩
    cases r with
    | nil => simp
    | cons c rest => simp_all

/-- The lines of a text are its pieces, without the empty one behind a final break. -/
theorem pieces_eq_lines (cs : List Char) : pieces cs = lines cs ∨ pieces cs = lines cs ++ [[]] := by
  rcases dropFinalBreak_spec cs with ⟨-, h⟩ | ⟨br, hbr, hapart, hcut⟩
  · exact .inl (by rw [lines, h])
  · have hpieces : pieces (dropFinalBreak cs ++ (br ++ [])) = lines cs ++ [[]] :=
      pieces_append_break hbr hapart (.inr (by simp))
    exact .inr (by rwa [List.append_nil, ← hcut] at hpieces)

theorem lines_ne_nil (cs : List Char) : lines cs ≠ [] := pieces_ne_nil _

/-- The lines of a text hold its visible characters. -/
theorem visible_endLines_lines (cs : List Char) : visible (endLines (lines cs)) = visible cs := by
  have hcs : visible (endLines (pieces cs)) = visible cs := by
    rw [endLines_pieces, visible_append, visible_unifyBreaks, visible_eq_nil_iff.2 allBlank_lf,
      List.append_nil]
  rcases pieces_eq_lines cs with h | h
  · rw [← h, hcs]
  · rw [h, endLines_append, visible_append] at hcs
    have hempty : visible (endLines [[]]) = [] := visible_eq_nil_iff.2 allBlank_lf
    rw [← hcs, hempty, List.append_nil]

/-- If neither the text nor any of its lines but the last ends with a character, then none of its pieces does. -/
theorem lastVisible?_ne_of_lines {cs : List Char} {c : Char} (hcs : lastVisible? cs ≠ some c)
    (h : ∀ line ∈ (lines cs).dropLast, lastVisible? line ≠ some c) :
    ∀ piece ∈ pieces cs, lastVisible? piece ≠ some c := by
  obtain ⟨init, last, hlines⟩ := (List.eq_nil_or_concat (lines cs)).resolve_left (lines_ne_nil cs)
  rw [List.concat_eq_append] at hlines
  rw [hlines, List.dropLast_concat] at h
  have hlast : lastVisible? last ≠ some c := by
    intro e
    apply hcs
    have hv : lastVisible? cs = lastVisible? (endLines (lines cs)) := by
      rw [lastVisible?, lastVisible?, visible_endLines_lines]
    rw [hv, hlines, endLines_append, endLines_cons, endLines_nil, ← List.append_assoc,
      lastVisible?_append_blank _ allBlank_lf, lastVisible?_append, e, Option.some_or]
  have hall : ∀ line ∈ lines cs ++ [[]], lastVisible? line ≠ some c := by
    intro line hl
    rw [hlines, List.mem_append, List.mem_append, List.mem_singleton, List.mem_singleton] at hl
    rcases hl with (hl | rfl) | rfl
    · exact h line hl
    · exact hlast
    · simp [lastVisible?]
  intro piece hp
  rcases pieces_eq_lines cs with e | e
  · exact hall piece (List.mem_append_left _ (e ▸ hp))
  · exact hall piece (e ▸ hp)

/-- The break at the end is dropped for the lines of a text. -/
theorem dropFinalBreak_append_break {a br : List Char} (hbr : IsLineBreak br) (h : Apart a br) : dropFinalBreak (a ++ br) = a := by
  rw [dropFinalBreak, List.reverse_append]
  rcases hbr with rfl | rfl | rfl
  · change (dropBreakReversed ('\n' :: '\r' :: a.reverse)).reverse = a
    rw [dropBreakReversed, List.reverse_reverse]
  · change (dropBreakReversed ('\r' :: a.reverse)).reverse = a
    rw [dropBreakReversed, List.reverse_reverse]
  · change (dropBreakReversed ('\n' :: a.reverse)).reverse = a
    rw [dropBreakReversed, List.reverse_reverse]
    intro t e
    rw [Apart, ← List.head?_reverse, e] at h
    simp at h

/-- A break that ends a text starts no line. -/
theorem lines_append_finalBreak {a br : List Char} (hbr : IsLineBreak br) (h : Apart a br) : lines (a ++ br) = pieces a := by
  rw [lines, dropFinalBreak_append_break hbr h]

/-- A final LF that no CR precedes starts no line. -/
theorem lines_append_lf {cs : List Char} (h : cs.getLast? ≠ some '\r') : lines (cs ++ ['\n']) = pieces cs :=
  lines_append_finalBreak (.inr (.inr rfl)) (.inl h)

/-- The lines of a text that does not end with a break are its pieces. -/
theorem lines_eq_pieces {cs : List Char} (hr : cs.getLast? ≠ some '\r') (hn : cs.getLast? ≠ some '\n') :
    lines cs = pieces cs := by
  rcases dropFinalBreak_spec cs with ⟨-, h⟩ | ⟨br, hbr, -, hcut⟩
  · rw [lines, h]
  · rw [hcut] at hr hn
    rcases hbr with rfl | rfl | rfl
    · exact absurd (by simp) hn
    · exact absurd List.getLast?_concat hr
    · exact absurd List.getLast?_concat hn

/-- What stands in front of the last LF ends with a CR only if the last of the texts does. -/
theorem getLast?_endLines_append {texts : List (List Char)} {last : List Char} (h : last.getLast? ≠ some '\r') :
    (endLines texts ++ last).getLast? ≠ some '\r' := by
  cases hl : last.getLast? with
  | some c => rwa [List.getLast?_append, hl, Option.some_or, ← hl]
  | none =>
    rw [List.getLast?_eq_none_iff.1 hl, List.append_nil]
    rcases List.eq_nil_or_concat texts with rfl | ⟨init, text, rfl⟩
    · simp
    · simp [endLines]

/-- Texts ended by LF keep their own lines. -/
theorem lines_endLines {texts : List (List Char)} (hne : texts ≠ []) (h : ∀ text ∈ texts, text.getLast? ≠ some '\r') :
    lines (endLines texts) = texts.flatMap pieces := by
  obtain ⟨init, last, rfl⟩ := (List.eq_nil_or_concat texts).resolve_left hne
  rw [List.concat_eq_append] at h ⊢
  have hlast : (endLines init ++ last).getLast? ≠ some '\r' := getLast?_endLines_append (h last (by simp))
  rw [endLines_append, endLines_cons, endLines_nil, ← List.singleton_append, List.append_nil, ← List.append_assoc,
    lines_append_lf hlast, pieces_endLines_append (fun t ht => h t (List.mem_append_left _ ht)), List.flatMap_append,
    List.flatMap_singleton]

end SchemaScript.Script
