import SchemaScript.Proofs.Script.Lines
import SchemaScript.Proofs.Text.Trim
import SchemaScript.Script.Split

/-!
# Steps and runs of the splitter

What one line does to the splitter, in three cases: a directive (`step_directive`), a line that leaves the gathered text open
(`step_open`) and a line that completes a statement (`step_close`). Runs are put together from them: lines that leave the text
open are gathered without a statement (`run_open`), and the line behind them that ends with the terminator gives one
(`run_close`). Lines that start with `SET TERM` never reach a statement; `keptLines` are the others.
-/

namespace SchemaScript.Script

open Text

/-- Whether a line of a script is a directive, blanks at its ends aside. -/
def isDirectiveLine (line : List Char) : Bool := isDirective (trim line)

/-- The lines that are no directives. -/
def keptLines (ls : List (List Char)) : List (List Char) := ls.filter fun line => !isDirectiveLine line

/-- The statement of a text without its terminator: none if the text is blank. -/
def bodyStatement? (body : List Char) : Option Statement :=
  if (trim body).isEmpty then none else some ⟨String.ofList (trim body)⟩

theorem keptLines_append (a b : List (List Char)) : keptLines (a ++ b) = keptLines a ++ keptLines b :=
  List.filter_append _ _

/-- Lines without a directive are all kept. -/
theorem keptLines_eq_self {ls : List (List Char)} (h : ∀ line ∈ ls, isDirectiveLine line = false) : keptLines ls = ls :=
  List.filter_eq_self.2 fun line hl => by simp [h line hl]

/-- No terminator is a blank. -/
theorem Terminator.isBlank_symbol (t : Terminator) : isBlank t.symbol = false := by
  cases t <;> decide

theorem Terminator.symbol_ne_cr (t : Terminator) : t.symbol ≠ '\r' := by
  cases t <;> decide

theorem Terminator.symbol_ne_lf (t : Terminator) : t.symbol ≠ '\n' := by
  cases t <;> decide

/-- A directive without a caret changes nothing. -/
theorem Terminator.after_of_not_mem (t : Terminator) {directive : List Char} (h : '^' ∉ directive) :
    t.after directive = t := by
  have hc : ∀ needle : List Char, '^' ∈ needle → contains needle directive = false := by
    intro needle hm
    induction directive with
    | nil => cases needle <;> simp_all [contains]
    | cons c cs ih =>
      rw [List.mem_cons, not_or] at h
      rw [contains, ih h.2, Bool.or_false, Bool.eq_false_iff]
      intro hp
      have := (List.isPrefixOf_iff_prefix.1 hp).subset hm
      exact (List.mem_cons.1 this).elim h.1 h.2
  simp [Terminator.after, h, hc ['^', ' ', ';'] (by simp), hc [';', ' ', '^'] (by simp)]

/-- A directive starts with an S, in either case. -/
theorem isDirective_cons_eq_false {c : Char} (h : c.toLower ≠ 's') (rest : List Char) : isDirective (c :: rest) = false := by
  have hk : byteLength directiveKeyword.toList = 8 := by decide
  rw [isDirective, startsWithLetters, hk, takeBytes?]
  split
  · cases takeBytes? rest (8 - c.utf8Size) with
    | none => rfl
    | some cs => simp [directiveKeyword, sameLetters, h]
  · rfl

/-- A line that starts with another letter is no directive. -/
theorem isDirectiveLine_cons_eq_false {c : Char} (hc : isBlank c = false) (h : c.toLower ≠ 's') (rest : List Char) :
    isDirectiveLine (c :: rest) = false := by
  obtain ⟨rest', hrest⟩ := exists_trim_cons hc rest
  rw [isDirectiveLine, hrest, isDirective_cons_eq_false h]

/-- A directive is not blank. -/
theorem visible_ne_nil_of_isDirectiveLine {line : List Char} (h : isDirectiveLine line = true) : visible line ≠ [] := by
  intro hv
  rw [isDirectiveLine, trim_eq_nil_iff.2 (visible_eq_nil_iff.1 hv)] at h
  exact absurd h (by decide)

theorem visible_endLines_cons (line : List Char) (ls : List (List Char)) :
    visible (endLines (line :: ls)) = visible line ++ visible (endLines ls) := by
  rw [endLines_cons, ← List.singleton_append, visible_append, visible_append, visible_eq_nil_iff.2 allBlank_lf,
    List.nil_append]

theorem keptLines_cons (line : List Char) (ls : List (List Char)) :
    keptLines (line :: ls) = if isDirectiveLine line then keptLines ls else line :: keptLines ls := by
  cases h : isDirectiveLine line <;> simp [keptLines, h]

/-- Leaving directives out adds no visible character. -/
theorem visible_keptLines_sublist (ls : List (List Char)) :
    (visible (endLines (keptLines ls))).Sublist (visible (endLines ls)) := by
  induction ls with
  | nil => exact .refl _
  | cons line ls ih =>
    rw [keptLines_cons, visible_endLines_cons]
    split
    · exact ih.trans (List.sublist_append_right _ _)
    · rw [visible_endLines_cons]
      exact ih.append_left _

/-- Leaving directives out keeps all visible characters only if there are none to leave out. -/
theorem visible_keptLines_iff (ls : List (List Char)) :
    visible (endLines (keptLines ls)) = visible (endLines ls) ↔ ∀ line ∈ ls, isDirectiveLine line = false := by
  induction ls with
  | nil => simp [keptLines]
  | cons line ls ih =>
    rw [keptLines_cons, visible_endLines_cons, List.forall_mem_cons, ← ih]
    cases h : isDirectiveLine line with
    | true =>
      -- the visible characters of the directive are missing, and nothing can make up for them
      have hlt : (visible (endLines (keptLines ls))).length < (visible line ++ visible (endLines ls)).length := by
        have := (visible_keptLines_sublist ls).length_le
        have := List.length_pos_iff.2 (visible_ne_nil_of_isDirectiveLine h)
        rw [List.length_append]
        omega
      simp only [if_true, Bool.true_eq_false, false_and, iff_false]
      exact fun e => absurd (congrArg List.length e) hlt.ne
    | false =>
      rw [if_neg Bool.false_ne_true, visible_endLines_cons, List.append_cancel_left_eq]
      simp only [true_and]

/-- The statement of a complete text is that of what stands before its last terminator. -/
theorem statementOf?_concat (t : Terminator) (body : List Char) {b : List Char} (hb : AllBlank b) :
    statementOf? t (body ++ [t.symbol] ++ b) = bodyStatement? body := by
  simp only [statementOf?, bodyStatement?]
  rw [trim_concat body t.isBlank_symbol hb, beforeLast_concat, trim_trimStart]

namespace SplitState

/-! ## One line -/

/-- A line completes a statement exactly if the text with that line ends, blanks aside, with the terminator in effect. -/
theorem isComplete_gather_iff (s : SplitState) (line : List Char) :
    (s.gather line).isComplete = true ↔ lastVisible? (s.pending ++ line) = some s.terminator.symbol := by
  rw [isComplete, decide_eq_true_iff, getLast?_trimEnd, gather, lastVisible?_append_blank _ allBlank_lf]

/-- A directive changes at most the terminator. -/
theorem step_directive (s : SplitState) {line : List Char} (h : isDirectiveLine line = true) :
    s.step line = ({ s with terminator := s.terminator.after (trim line) }, none) := by
  rw [isDirectiveLine] at h
  simp [step, h]

/-- A line behind which the text does not end with the terminator is gathered. -/
theorem step_open (s : SplitState) {line : List Char} (h : isDirectiveLine line = false)
    (ho : lastVisible? (s.pending ++ line) ≠ some s.terminator.symbol) : s.step line = (s.gather line, none) := by
  have hc : (s.gather line).isComplete = false := by
    rw [Bool.eq_false_iff, Ne, isComplete_gather_iff]
    exact ho
  rw [isDirectiveLine] at h
  simp [step, h, hc]

/-- A line behind which the text ends with the terminator completes the statement of what stands before the terminator. -/
theorem step_close (s : SplitState) {line body b : List Char} (h : isDirectiveLine line = false) (hb : AllBlank b)
    (hc : s.pending ++ line = body ++ [s.terminator.symbol] ++ b) :
    s.step line = (⟨s.terminator, []⟩, bodyStatement? body) := by
  have hlast : (s.gather line).isComplete = true := by
    rw [isComplete_gather_iff, hc, lastVisible?_append_blank _ hb,
      lastVisible?_of_getLast? List.getLast?_concat s.terminator.isBlank_symbol]
  have htext : (s.gather line).pending = body ++ [s.terminator.symbol] ++ (b ++ ['\n']) := by
    rw [gather, hc, List.append_assoc]
  rw [isDirectiveLine] at h
  simp only [step, h, hlast, htext]
  rw [← statementOf?_concat s.terminator body (hb.append allBlank_lf)]
  rfl

/-! ## Several lines -/

@[simp] theorem run_nil (s : SplitState) : s.run [] = ([], s) := rfl

/-- A run is a step and then the run from there. -/
theorem run_cons (s : SplitState) (line : List Char) (ls : List (List Char)) :
    s.run (line :: ls) = ((s.step line).2.toList ++ ((s.step line).1.run ls).1, ((s.step line).1.run ls).2) := rfl

/-- Lines read one part after the other. -/
theorem run_append (s : SplitState) (a b : List (List Char)) :
    s.run (a ++ b) = ((s.run a).1 ++ ((s.run a).2.run b).1, ((s.run a).2.run b).2) := by
  induction a generalizing s with
  | nil => rfl
  | cons line a ih => rw [List.cons_append, run_cons, ih, run_cons, List.append_assoc]

/-- Runs over two parts are put together. -/
theorem run_trans {s s₁ s₂ : SplitState} {a b : List (List Char)} {x y : List Statement} (ha : s.run a = (x, s₁))
    (hb : s₁.run b = (y, s₂)) : s.run (a ++ b) = (x ++ y, s₂) := by
  rw [run_append, ha, hb]

/-- Lines that neither end with the terminator nor change it are gathered, directives left out. -/
theorem run_open (s : SplitState) (ls : List (List Char)) (hp : lastVisible? s.pending ≠ some s.terminator.symbol)
    (ho : ∀ line ∈ ls, lastVisible? line ≠ some s.terminator.symbol)
    (hd : ∀ line ∈ ls, isDirectiveLine line = true → s.terminator.after (trim line) = s.terminator) :
    s.run ls = ([], ⟨s.terminator, s.pending ++ endLines (keptLines ls)⟩) := by
  induction ls generalizing s with
  | nil => simp [keptLines]
  | cons line ls ih =>
    have hol := ho line List.mem_cons_self
    rw [run_cons]
    cases h : isDirectiveLine line with
    | true =>
      have hstep : s.step line = (s, none) := by rw [s.step_directive h, hd line List.mem_cons_self h]
      rw [hstep, ih s hp (fun l hl => ho l (List.mem_cons_of_mem _ hl)) (fun l hl => hd l (List.mem_cons_of_mem _ hl))]
      simp [keptLines, h]
    | false =>
      have hopen : lastVisible? (s.pending ++ line) ≠ some s.terminator.symbol := by
        rw [lastVisible?_append]
        cases hl : lastVisible? line with
        | none => rwa [Option.none_or]
        | some c => rwa [Option.some_or, ← hl]
      have hp' : lastVisible? (s.gather line).pending ≠ some s.terminator.symbol := by
        rwa [gather, lastVisible?_append_blank _ allBlank_lf]
      rw [s.step_open h hopen, ih (s.gather line) hp' (fun l hl => ho l (List.mem_cons_of_mem _ hl))
        (fun l hl => hd l (List.mem_cons_of_mem _ hl))]
      simp [keptLines, h, gather]

/-- Lines of which only the last ends with the terminator give one statement: that of the text before the terminator. -/
theorem run_close (s : SplitState) (ls : List (List Char)) {line : List Char} (body b : List Char)
    (hp : lastVisible? s.pending ≠ some s.terminator.symbol)
    (ho : ∀ l ∈ ls, lastVisible? l ≠ some s.terminator.symbol)
    (hd : ∀ l ∈ ls, isDirectiveLine l = true → s.terminator.after (trim l) = s.terminator)
    (h : isDirectiveLine line = false) (hb : AllBlank b) (hline : line = body ++ [s.terminator.symbol] ++ b) :
    s.run (ls ++ [line]) =
      ((bodyStatement? (s.pending ++ endLines (keptLines ls) ++ body)).toList, ⟨s.terminator, []⟩) := by
  have hstep : SplitState.step ⟨s.terminator, s.pending ++ endLines (keptLines ls)⟩ line =
      (⟨s.terminator, []⟩, bodyStatement? (s.pending ++ endLines (keptLines ls) ++ body)) :=
    step_close _ h hb (by simp only [hline, List.append_assoc])
  rw [run_append, s.run_open ls hp ho hd, run_cons, hstep]
  simp

/-- The pieces of a text that ends with the terminator, of which no other piece does, give the statement of the text
without its end. -/
theorem run_pieces (s : SplitState) {cs : List Char} (hlast : cs.getLast? = some s.terminator.symbol)
    (hp : lastVisible? s.pending ≠ some s.terminator.symbol)
    (ho : ∀ piece ∈ (pieces cs).dropLast, lastVisible? piece ≠ some s.terminator.symbol)
    (hd : ∀ piece ∈ pieces cs, isDirectiveLine piece = false) :
    s.run (pieces cs) = ((bodyStatement? (s.pending ++ unifyBreaks cs.dropLast)).toList, ⟨s.terminator, []⟩) := by
  obtain ⟨body, rfl⟩ := List.getLast?_eq_some_iff.1 hlast
  obtain ⟨ls, line, hpieces, hbody⟩ := pieces_concat body s.terminator.symbol_ne_cr s.terminator.symbol_ne_lf
  rw [hpieces, List.dropLast_concat] at ho
  rw [hpieces] at hd
  have hls : ∀ l ∈ ls, isDirectiveLine l = false := fun l hl => hd l (List.mem_append_left _ hl)
  have hline : isDirectiveLine (line ++ [s.terminator.symbol]) = false := hd _ (by simp)
  have hrun := s.run_close ls line [] hp ho (fun l hl h => absurd h (by simp [hls l hl])) hline allBlank_nil
    (List.append_nil _).symm
  rw [hpieces, hrun, keptLines_eq_self hls, List.append_assoc, hbody, List.dropLast_concat]

end SplitState

/-- A split is what the run over the lines of the script gives. -/
theorem split_eq_of_run {script : String} {statements : List Statement} {last : SplitState}
    (h : SplitState.initial.run (lines script.toList) = (statements, last)) :
    split script = ⟨statements, last.rest?⟩ := by
  rw [split, h]

/-- The discarded text is the pending one without its outer blanks, unless it is blank. -/
theorem SplitState.rest?_eq (s : SplitState) : s.rest? = (bodyStatement? s.pending).map Statement.text := by
  rw [rest?, bodyStatement?]
  split <;> rfl

end SchemaScript.Script
