import SchemaScript.Proofs.Script.Run

/-!
# Nothing of a script is lost

Every line of a script that is no directive stands in exactly one group of lines, or behind the last group, in order. A group
is the least run of lines whose text ends with the terminator in effect (`Group`); what stands before that terminator is its
statement, and the lines behind the last group are the discarded text (`split_conserves`). The terminator in effect at a line
depends on the directives before it alone (`marked`), not on what was gathered.
-/

namespace SchemaScript.Script

open Text

/-- A line of a script that is no directive, with the terminator in effect at it. -/
structure MarkedLine where
  terminator : Terminator
  text : List Char

/-- The lines that are no directives, each with the terminator in effect at it; `t` is in effect at the first line. -/
def marked (t : Terminator) : List (List Char) → List MarkedLine
  | [] => []
  | line :: ls => if isDirectiveLine line then marked (t.after (trim line)) ls else ⟨t, line⟩ :: marked t ls

/-- The text of marked lines, each ended by LF. -/
def textOf (ms : List MarkedLine) : List Char := endLines (ms.map MarkedLine.text)

/-- Whether the text of some lines ends, blanks aside, with the terminator in effect at the last of them. -/
def EndsStatement (ms : List MarkedLine) : Prop :=
  ∃ m, ms.getLast? = some m ∧ (trimEnd (textOf ms)).getLast? = some m.terminator.symbol

/-- Whether the text ends with the terminator behind none of some lines. -/
def StaysOpen (ms : List MarkedLine) : Prop := ∀ first, first <+: ms → ¬EndsStatement first

/-- A least run of lines whose text ends with the terminator in effect at the last of them. -/
structure Group where
  lines : List MarkedLine
  terminator : Terminator
  /-- What stands before the terminator. -/
  body : List Char
  terminator_eq : lines.getLast?.map MarkedLine.terminator = some terminator
  trim_text : trim (textOf lines) = body ++ [terminator.symbol]
  least : ∀ ms, ms <+: lines → ms ≠ lines → ¬EndsStatement ms

/-- The statement of a group: none if nothing but blanks stands before the terminator. -/
def Group.statement? (g : Group) : Option Statement := bodyStatement? g.body

/-- The marked lines are the lines that are no directives. -/
theorem marked_map_text (t : Terminator) (ls : List (List Char)) : (marked t ls).map MarkedLine.text = keptLines ls := by
  induction ls generalizing t with
  | nil => rfl
  | cons line ls ih =>
    rw [marked, keptLines_cons]
    split
    · exact ih _
    · rw [List.map_cons, ih]

theorem textOf_append (a b : List MarkedLine) : textOf (a ++ b) = textOf a ++ textOf b := by
  simp [textOf]

theorem textOf_concat (ms : List MarkedLine) (m : MarkedLine) : textOf (ms ++ [m]) = textOf ms ++ m.text ++ ['\n'] := by
  simp [textOf]

/-- The text of lines ends with the terminator at the last one, which the LF behind it does not hide. -/
theorem endsStatement_concat_iff (ms : List MarkedLine) (m : MarkedLine) :
    EndsStatement (ms ++ [m]) ↔ lastVisible? (textOf ms ++ m.text) = some m.terminator.symbol := by
  rw [EndsStatement, List.getLast?_concat, getLast?_trimEnd, textOf_concat, lastVisible?_append_blank _ allBlank_lf]
  simp

theorem staysOpen_nil : StaysOpen [] := by
  rintro ms hms ⟨m, hm, -⟩
  rw [List.prefix_nil.1 hms] at hm
  simp at hm

/-- Lines stay open with one more line if the text does not end with the terminator behind it. -/
theorem StaysOpen.concat {ms : List MarkedLine} (h : StaysOpen ms) {m : MarkedLine}
    (hm : lastVisible? (textOf ms ++ m.text) ≠ some m.terminator.symbol) : StaysOpen (ms ++ [m]) := by
  intro first hfirst
  rcases List.prefix_concat_iff.1 hfirst with rfl | hfirst
  · exact fun hend => hm ((endsStatement_concat_iff ms m).1 hend)
  · exact h first hfirst

/-- The statement of a text is that of the text without its leading blanks. -/
theorem bodyStatement?_trimStart (body : List Char) : bodyStatement? (trimStart body) = bodyStatement? body := by
  rw [bodyStatement?, trim_trimStart, bodyStatement?]

/-- The visible characters of a text are those of its statement, if it has one. -/
theorem visible_bodyStatement? (body : List Char) :
    ((bodyStatement? body).elim [] fun s => visible s.text.toList) = visible body := by
  rw [bodyStatement?]
  split
  · rename_i h
    rw [← visible_trim body, List.isEmpty_iff.1 h]
    rfl
  · rw [Option.elim_some, String.toList_ofList, visible_trim]

/-- A line that ends the text of open lines with the terminator makes them a group, and its statement is the group's. -/
theorem exists_group (s : SplitState) {gathered : List MarkedLine} (hpending : s.pending = textOf gathered)
    (hopen : StaysOpen gathered) {line : List Char} (hd : isDirectiveLine line = false)
    (hc : lastVisible? (s.pending ++ line) = some s.terminator.symbol) :
    ∃ g : Group, g.lines = gathered ++ [⟨s.terminator, line⟩] ∧ s.step line = (⟨s.terminator, []⟩, g.statement?) := by
  obtain ⟨body, b, hbody, hb⟩ := exists_of_lastVisible hc
  have htrim : trim (textOf (gathered ++ [⟨s.terminator, line⟩])) = trimStart body ++ [s.terminator.symbol] := by
    rw [textOf_concat, ← hpending, hbody, List.append_assoc, trim_concat body s.terminator.isBlank_symbol
      (hb.append allBlank_lf)]
  have hleast : ∀ first, first <+: gathered ++ [⟨s.terminator, line⟩] → first ≠ gathered ++ [⟨s.terminator, line⟩] →
      ¬EndsStatement first :=
    fun first hfirst hne => hopen first ((List.prefix_concat_iff.1 hfirst).resolve_left hne)
  have hterminator : (gathered ++ [MarkedLine.mk s.terminator line]).getLast?.map MarkedLine.terminator =
      some s.terminator := by
    simp
  refine ⟨⟨_, s.terminator, trimStart body, hterminator, htrim, hleast⟩, rfl, ?_⟩
  rw [s.step_close hd hb hbody, Group.statement?, bodyStatement?_trimStart]

/-- The groups that a run completes, the lines behind them and what the splitter makes of both. The lines gathered before the
run belong to the first group. -/
theorem run_groups (s : SplitState) (ls : List (List Char)) (gathered : List MarkedLine)
    (hpending : s.pending = textOf gathered) (hopen : StaysOpen gathered) :
    ∃ (groups : List Group) (rest : List MarkedLine),
      gathered ++ marked s.terminator ls = groups.flatMap Group.lines ++ rest ∧ StaysOpen rest ∧
      (s.run ls).1 = groups.filterMap Group.statement? ∧ (s.run ls).2.pending = textOf rest := by
  induction ls generalizing s gathered with
  | nil => exact ⟨[], gathered, by simp [marked], hopen, rfl, hpending⟩
  | cons line ls ih =>
    rw [SplitState.run_cons, marked]
    cases hd : isDirectiveLine line with
    | true =>
      rw [s.step_directive hd]
      exact ih { s with terminator := s.terminator.after (trim line) } gathered hpending hopen
    | false =>
      by_cases hc : lastVisible? (s.pending ++ line) = some s.terminator.symbol
      · obtain ⟨g, hlines, hstep⟩ := exists_group s hpending hopen hd hc
        obtain ⟨groups, rest, hcut, hrest, hstatements, hpend⟩ := ih ⟨s.terminator, []⟩ [] rfl staysOpen_nil
        refine ⟨g :: groups, rest, ?_, hrest, ?_, ?_⟩
        · rw [List.nil_append] at hcut
          simp [hcut, hlines]
        · rw [hstep, hstatements, List.filterMap_cons]
          cases g.statement? <;> rfl
        · rw [hstep, hpend]
      · have hline : (s.gather line).pending = textOf (gathered ++ [⟨s.terminator, line⟩]) := by
          rw [textOf_concat, ← hpending, SplitState.gather]
        obtain ⟨groups, rest, hcut, hrest, hstatements, hpend⟩ := ih (s.gather line) _ hline
          (hopen.concat (by rwa [← hpending]))
        refine ⟨groups, rest, ?_, hrest, ?_, ?_⟩
        · rw [List.append_assoc] at hcut
          exact hcut
        · rw [s.step_open hd hc]
          exact hstatements
        · rw [s.step_open hd hc]
          exact hpend

/-- The visible characters of a group are those of its statement and its terminator. -/
theorem Group.visible_text (g : Group) :
    visible (textOf g.lines) = (g.statement?.elim [] fun s => visible s.text.toList) ++ [g.terminator.symbol] := by
  rw [← visible_trim, g.trim_text, visible_append, Group.statement?, visible_bodyStatement?]
  simp [visible, g.terminator.isBlank_symbol]

/-- The visible characters of groups are those of their statements and their terminators, group by group. -/
theorem visible_groups (groups : List Group) :
    visible (textOf (groups.flatMap Group.lines)) =
      groups.flatMap fun g => (g.statement?.elim [] fun s => visible s.text.toList) ++ [g.terminator.symbol] := by
  induction groups with
  | nil => rfl
  | cons g groups ih =>
    rw [List.flatMap_cons, List.flatMap_cons, textOf_append, visible_append, ih, g.visible_text]

/-- A script's lines that are no directives are cut into groups and the lines behind them. The statements are those of the
groups, in order; the lines behind them hold no complete statement, and their text is discarded unless it is blank. The visible
characters of the script are those of its lines, in order. So each of them that does not stand in a directive stands once, in order,
in a statement, as the terminator of a group, or in the discarded text. -/
theorem split_conserves (script : String) :
    ∃ (groups : List Group) (rest : List MarkedLine),
      marked .semicolon (lines script.toList) = groups.flatMap Group.lines ++ rest ∧ StaysOpen rest ∧
      (split script).statements = groups.filterMap Group.statement? ∧
      (split script).discarded? = (bodyStatement? (textOf rest)).map Statement.text ∧
      visible script.toList = visible (endLines (lines script.toList)) ∧
      visible (endLines (keptLines (lines script.toList))) =
        (groups.flatMap fun g => (g.statement?.elim [] fun s => visible s.text.toList) ++ [g.terminator.symbol]) ++
          ((split script).discarded?.elim [] fun text => visible text.toList) := by
  obtain ⟨groups, rest, hcut, hrest, hstatements, hpend⟩ :=
    run_groups .initial (lines script.toList) [] rfl staysOpen_nil
  have hdiscarded : (SplitState.initial.run (lines script.toList)).2.rest? =
      (bodyStatement? (textOf rest)).map Statement.text := by
    rw [SplitState.rest?_eq, hpend]
  rw [split_eq_of_run (Prod.eta _).symm]
  dsimp only
  rw [List.nil_append, SplitState.initial] at hcut
  refine ⟨groups, rest, hcut, hrest, hstatements, hdiscarded, (visible_endLines_lines _).symm, ?_⟩
  have hrestvisible : (((bodyStatement? (textOf rest)).map Statement.text).elim [] fun text => visible text.toList) =
      visible (textOf rest) := by
    rw [← visible_bodyStatement?]
    cases bodyStatement? (textOf rest) <;> rfl
  rw [hdiscarded, ← marked_map_text .semicolon, hrestvisible, ← visible_groups, ← visible_append, ← textOf_append]
  exact congrArg (fun ms => visible (textOf ms)) hcut

end SchemaScript.Script
