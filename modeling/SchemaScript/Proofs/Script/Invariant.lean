import SchemaScript.Proofs.Script.Remainder

/-!
# What the splitter knows between two lines

The end test looks at the gathered text without the blanks at its end, and the search for the last terminator at the text without its
outer blanks. When the test succeeds, the search finds the terminator as the very last character, and what stands before it is the
statement and blanks (`SplitState.step_completes`). What a line does depends on its kind alone, in every state
(`SplitState.reads_step`). So the gathered text is always made of the lines since the last one that completed a group (`pending_behind`),
and the next line keeps this as a line of its kind does (`behind_keeps`).
-/

namespace SchemaScript.Script

open Text

/-- A line completes a group if it is no directive and the end test succeeds behind it. -/
def SplitState.Completes (s : SplitState) (line : List Char) : Prop :=
  isDirectiveLine line = false ∧ (s.gather line).isComplete = true

/-- The splitter behind some lines. -/
def behind (ls : List (List Char)) : SplitState := (SplitState.initial.run ls).2

/-- Lines in two parts: the first part ends with a line that completes a group, if it is not empty, and no line of the second part
completes one. -/
structure CutBehindGroup (ls closed since : List (List Char)) : Prop where
  eq_append : ls = closed ++ since
  closes : closed = [] ∨ ∃ before line, closed = before ++ [line] ∧ (behind before).Completes line
  open_since : ∀ before line, before ++ [line] <+: since → ¬(behind (closed ++ before)).Completes line

/-- What comes of a complete text: its last character is the last terminator of the text, and the statement is what stands before it,
blanks aside; there is none if nothing else stands there. -/
structure CutAtEnd (t : Terminator) (text : List Char) (statement? : Option Statement) : Prop where
  found : t.symbol ∈ text
  last : text = beforeLast t.symbol text ++ [t.symbol]
  statement : ∀ statement, statement? = some statement → statement.text ≠ "" ∧ trimmed statement.text = statement.text ∧
    ∃ blanks, AllBlank blanks ∧ text = statement.text.toList ++ blanks ++ [t.symbol]
  none_iff : statement? = none ↔ text = [t.symbol]

/-- What a line does to the splitter `s` by its kind, if it leaves `s'` and gives a statement or none. -/
structure SplitState.Reads (s : SplitState) (line : List Char) (s' : SplitState) (statement? : Option Statement) : Prop where
  /-- A directive gives no statement and leaves the gathered text alone. -/
  directive : isDirectiveLine line = true → statement? = none ∧ s'.pending = s.pending
  /-- Only a directive changes the terminator. -/
  terminator : isDirectiveLine line = false → s'.terminator = s.terminator
  /-- Behind a line that is no directive the gathered text does not end with the terminator, blanks aside. -/
  not_ended : isDirectiveLine line = false → (trimEnd s'.pending).getLast? ≠ some s'.terminator.symbol
  /-- When the end test succeeds, the gathered text is taken away and cut at its end. -/
  complete : s.Completes line → s'.pending = [] ∧ CutAtEnd s.terminator (trim (s.gather line).pending) statement?
  /-- When it does not, there is no statement. -/
  incomplete : ¬s.Completes line → statement? = none

/-! ## One line -/

/-- Text before a terminator, without blanks in front, and its statement. -/
theorem cutAtEnd_bodyStatement? (t : Terminator) (body : List Char) :
    CutAtEnd t (trimStart body ++ [t.symbol]) (bodyStatement? body) where
  found := List.mem_append_right _ List.mem_cons_self
  last := by rw [beforeLast_concat]
  statement := by
    intro statement h
    rw [bodyStatement?] at h
    split at h
    · cases h
    · rename_i hne
      obtain rfl := Option.some.inj h
      obtain ⟨blanks, hblanks, hbody⟩ := exists_trimEnd (trimStart body)
      have htrimmed : String.ofList (trim body) = trimmed (String.ofList body) := by rw [trimmed, String.toList_ofList]
      refine ⟨fun hempty => hne ?_, by rw [htrimmed, trimmed_trimmed], blanks, hblanks, ?_⟩
      · have hlist := congrArg String.toList hempty
        rw [String.toList_ofList] at hlist
        rw [hlist]
        rfl
      · rw [String.toList_ofList, trim, ← hbody]
  none_iff := by
    have hnil : trim body = [] ↔ trimStart body = [] := trim_eq_nil_iff.trans trimStart_eq_nil_iff.symm
    rw [bodyStatement?, List.append_eq_singleton_iff]
    simp [hnil]

namespace SplitState

variable (s : SplitState) {line : List Char}

/-- A line that completes a group takes the gathered text away and cuts it at its end. -/
theorem step_completes (h : s.Completes line) : (s.step line).1.pending = [] ∧
    CutAtEnd s.terminator (trim (s.gather line).pending) (s.step line).2 := by
  obtain ⟨hdirective, hcomplete⟩ := h
  obtain ⟨body, b, hbody, hb⟩ := exists_of_lastVisible ((s.isComplete_gather_iff line).mp hcomplete)
  have htext : trim (s.gather line).pending = trimStart body ++ [s.terminator.symbol] := by
    rw [gather, hbody, List.append_assoc, trim_concat body s.terminator.isBlank_symbol (hb.append allBlank_lf)]
  rw [s.step_close hdirective hb hbody, htext]
  exact ⟨rfl, cutAtEnd_bodyStatement? s.terminator body⟩

/-- Any other line that is no directive is gathered. -/
theorem step_of_not_completes (hdirective : isDirectiveLine line = false) (h : ¬s.Completes line) :
    s.step line = (s.gather line, none) :=
  s.step_open hdirective fun hlast => h ⟨hdirective, (s.isComplete_gather_iff line).mpr hlast⟩

/-- Every line does what a line of its kind does, from every state. -/
theorem reads_step (line : List Char) : s.Reads line (s.step line).1 (s.step line).2 where
  directive h := by
    rw [s.step_directive h]
    exact ⟨rfl, rfl⟩
  terminator hdirective := by
    by_cases h : s.Completes line
    · obtain ⟨body, b, hbody, hb⟩ := exists_of_lastVisible ((s.isComplete_gather_iff line).mp h.2)
      rw [s.step_close hdirective hb hbody]
    · rw [s.step_of_not_completes hdirective h]
      rfl
  not_ended h := by
    rw [getLast?_trimEnd]
    exact isOpen_step s h
  complete := s.step_completes
  incomplete h := by
    cases hdirective : isDirectiveLine line with
    | true => rw [s.step_directive hdirective]
    | false => rw [s.step_of_not_completes hdirective h]

end SplitState

/-! ## Several lines -/

/-- Behind one more line the splitter is a step further. -/
theorem behind_concat (ls : List (List Char)) (line : List Char) : behind (ls ++ [line]) = ((behind ls).step line).1 := by
  rw [behind, SplitState.run_concat]
  rfl

section

variable {ls closed since : List (List Char)} {line : List Char}

/-- A line that completes a group closes all lines. -/
theorem CutBehindGroup.completed (h : (behind ls).Completes line) : CutBehindGroup (ls ++ [line]) (ls ++ [line]) [] where
  eq_append := (List.append_nil _).symm
  closes := .inr ⟨ls, line, rfl, h⟩
  open_since before line hprefix := absurd (List.prefix_nil.mp hprefix) (by simp)

/-- Any other line is one more line since the last group. -/
theorem CutBehindGroup.concat (hcut : CutBehindGroup ls closed since) (h : ¬(behind ls).Completes line) :
    CutBehindGroup (ls ++ [line]) closed (since ++ [line]) where
  eq_append := by rw [hcut.eq_append, List.append_assoc]
  closes := hcut.closes
  open_since before line' hprefix := by
    rcases List.prefix_concat_iff.mp hprefix with heq | hprefix
    · obtain ⟨rfl, hline⟩ := List.append_inj' heq rfl
      obtain rfl := List.singleton_inj.mp hline
      rwa [← hcut.eq_append]
    · exact hcut.open_since before line' hprefix

end

/-- The gathered text is made of the lines since the last group, directives left out. -/
theorem pending_behind (ls : List (List Char)) :
    ∃ closed since, CutBehindGroup ls closed since ∧ (behind ls).pending = endLines (keptLines since) := by
  induction ls using List.reverseRecOn with
  | nil => exact ⟨[], [], ⟨rfl, .inl rfl, fun before line h => absurd (List.prefix_nil.mp h) (by simp)⟩, rfl⟩
  | append_singleton ls line ih =>
    obtain ⟨closed, since, hcut, hpending⟩ := ih
    by_cases h : (behind ls).Completes line
    · refine ⟨_, _, .completed h, ?_⟩
      rw [behind_concat, ((behind ls).step_completes h).1]
      rfl
    · refine ⟨_, _, hcut.concat h, ?_⟩
      rw [behind_concat, keptLines_append, endLines_append, ← hpending]
      cases hdirective : isDirectiveLine line with
      | true =>
        rw [(behind ls).step_directive hdirective]
        simp [keptLines, hdirective]
      | false =>
        rw [(behind ls).step_of_not_completes hdirective h]
        simp [keptLines, hdirective, SplitState.gather]

/-- Behind any lines the gathered text is made of the lines since the last group, directives left out, each with its line end, and the
next line, of any kind, does what a line of its kind does. -/
theorem behind_keeps (ls : List (List Char)) :
    (∃ closed since, CutBehindGroup ls closed since ∧ (behind ls).pending = endLines (keptLines since)) ∧
    ∀ line, behind (ls ++ [line]) = ((behind ls).step line).1 ∧
      (behind ls).Reads line ((behind ls).step line).1 ((behind ls).step line).2 :=
  ⟨pending_behind ls, fun line => ⟨behind_concat ls line, (behind ls).reads_step line⟩⟩

/-- Only the last of several terminators is cut off, also behind a line break inside a line. -/
example : SplitState.initial.step "A;\n B; ;".toList = (⟨.semicolon, []⟩, some ⟨"A;\n B;"⟩) := by decide

end SchemaScript.Script
