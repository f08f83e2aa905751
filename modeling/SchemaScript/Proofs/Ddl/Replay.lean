import SchemaScript.Proofs.Ddl.Shape

/-!
# A generated script replays

Splitting a generated script gives one statement for each object, in order: its text as it was rendered, without directives and
without its closing terminator (`split_schema`). Banners travel with the next statement; behind the last object they are
discarded. This holds of every schema whose own texts hold no line that the splitter would take for a directive or for the end
of a statement (`Replayable`).

The proof reads the script object by object. Between two objects the splitter holds blanks, or blanks and the banners above the
next one (`Holds`), and the semicolon is in effect; an object replays if from there its lines give its statement (`Replays`).
-/

namespace SchemaScript.Ddl

open Text Script

/-- The text of an object as a statement: its closing terminator taken off, its line breaks unified, its ends trimmed. -/
def bare (text : String) : String := String.ofList (trim (unifyBreaks (trimEnd text.toList).dropLast))

/-- A text cut at its closing terminator. -/
theorem bare_eq {text : String} {cs b : List Char} {c : Char} (hc : isBlank c = false) (hb : AllBlank b)
    (h : text.toList = cs ++ [c] ++ b) : bare text = String.ofList (trim (unifyBreaks cs)) := by
  rw [bare, h, trimEnd_append_blank _ hb, trimEnd_concat cs hc, List.dropLast_concat]

/-- The statements of some texts below a lead, which travels with the first of them. -/
def under (lead : List String) : List String → List Statement
  | [] => []
  | text :: texts => ⟨unlines lead ++ bare text⟩ :: texts.map fun t => ⟨bare t⟩

/-- The lines above the first domain. -/
def domainsLead : List String := [scriptBanner, domainsBanner]

/-- The lines above the first table, behind the last domain. -/
def tablesLead (s : Schema) : List String := (if s.domains.isEmpty then domainsLead ++ [""] else []) ++ [tablesBanner]

/-- The lines above the first procedure, behind the last domain or table. -/
def proceduresLead (s : Schema) : List String :=
  (if s.tables.isEmpty then tablesLead s ++ [""] else []) ++ [proceduresBanner]

/-- The texts of a schema's objects can be told apart again: no line of them is a directive, and none but the last of an object
ends with the terminator of that object. -/
structure Replayable (s : Schema) : Prop where
  /-- No line of a domain or table is a directive. -/
  plain : ∀ text ∈ s.domains.map domain ++ s.tables.map table, ∀ line ∈ lines text.toList, isDirectiveLine line = false
  /-- No line of a domain or table but its last ends with a semicolon. -/
  semicolon : ∀ text ∈ s.domains.map domain ++ s.tables.map table, ∀ line ∈ (lines text.toList).dropLast,
    lastVisible? line ≠ some ';'
  /-- No line between the directives of a procedure is one. -/
  inner_plain : ∀ p ∈ s.procedures, ∀ line ∈ innerLines p, isDirectiveLine line = false
  /-- No line of a procedure before the last one of its body ends with a caret. -/
  caret : ∀ p ∈ s.procedures, ∀ line ∈ (lines (procedureText p).toList).dropLast, lastVisible? line ≠ some '^'

/-- A lead does not start with a blank and ends with no terminator. -/
def IsLead (lead : List String) : Prop :=
  lead = [] ∨ (StartsVisible (unlines lead).toList ∧
    ∀ t : Terminator, lastVisible? (unlines lead).toList ≠ some t.symbol)

/-- The text gathered so far: blanks, and a lead behind them. -/
def Holds (pending : List Char) (lead : List String) : Prop :=
  ∃ b, AllBlank b ∧ pending = b ++ (unlines lead).toList

/-- Some lines give the statement of a text, with the lead above it, and leave blanks. -/
def Replays (ls : List (List Char)) (text : String) : Prop :=
  ∀ pending lead, Holds pending lead → IsLead lead →
    ∃ b, AllBlank b ∧ SplitState.run ⟨.semicolon, pending⟩ ls = ([⟨unlines lead ++ bare text⟩], ⟨.semicolon, b⟩)

/-! ## Leads -/

/-- Blanks with a lead behind them end with no terminator. -/
theorem Holds.lastVisible?_ne {pending : List Char} {lead : List String} (h : Holds pending lead) (hl : IsLead lead)
    (t : Terminator) : lastVisible? pending ≠ some t.symbol := by
  obtain ⟨b, hb, rfl⟩ := h
  rw [lastVisible?_append, lastVisible?_eq_none_iff.2 hb, Option.or_none]
  rcases hl with rfl | ⟨-, hl⟩
  · rw [unlines_nil]
    simp [lastVisible?]
  · exact hl t

/-- The statement of a text behind a lead is the lead and the trimmed text. -/
theorem Holds.bodyStatement? {pending : List Char} {lead : List String} (h : Holds pending lead) (hl : IsLead lead)
    {body : List Char} (hbody : StartsVisible body) :
    bodyStatement? (pending ++ body) = some ⟨unlines lead ++ String.ofList (trim body)⟩ := by
  obtain ⟨b, hb, rfl⟩ := h
  have htrim : trim (b ++ (unlines lead).toList ++ body) = (unlines lead).toList ++ trim body := by
    rw [List.append_assoc, trim_blank_append hb]
    rcases hl with rfl | ⟨hstart, -⟩
    · rw [unlines_nil]
      rfl
    · exact trim_append hstart hbody
  have hne : ((unlines lead).toList ++ trim body).isEmpty = false := by
    rw [List.isEmpty_eq_false_iff, Ne, List.append_eq_nil_iff]
    exact fun e => trim_ne_nil hbody e.2
  rw [Script.bodyStatement?, htrim, hne, String.ofList_append, String.ofList_toList]
  rfl

/-- Behind the last object the lead is discarded. -/
theorem Holds.rest? {pending : List Char} {lead : List String} (h : Holds pending lead) (hl : IsLead lead)
    (t : Terminator) :
    SplitState.rest? ⟨t, pending⟩ = if lead.isEmpty then none else some (trimmed (unlines lead)) := by
  obtain ⟨b, hb, rfl⟩ := h
  rw [SplitState.rest?_eq, Script.bodyStatement?, trim_blank_append hb]
  rcases hl with rfl | ⟨hstart, -⟩
  · rw [unlines_nil]
    rfl
  · have hne : lead.isEmpty = false := by
      cases lead with
      | nil =>
        obtain ⟨c, cs, hc, -⟩ := hstart
        rw [unlines_nil] at hc
        simp at hc
      | cons first rest => rfl
    rw [List.isEmpty_eq_false_iff.2 (trim_ne_nil hstart), hne]
    rfl

/-- A lead that may be left out is a lead. -/
theorem IsLead.ite {lead : List String} (h : IsLead lead) (last : Bool) : IsLead (if last then lead else []) := by
  cases last with
  | true => exact h
  | false => exact .inl rfl

/-- Lines are a lead if the first starts with no blank and the last ends a comment. -/
theorem isLead_concat (lead : List String) {rest : List String} (first : String) {last : String}
    (h : lead ++ [last] = first :: rest) (hfirst : StartsVisible first.toList)
    (hlast : lastVisible? last.toList = some '/') : IsLead (lead ++ [last]) := by
  right
  constructor
  · obtain ⟨c, cs, hc, hv⟩ := hfirst
    rw [h, unlines_cons, String.append_assoc, String.toList_append, hc]
    exact ⟨c, _, rfl, hv⟩
  · intro t
    rw [toList_unlines, List.map_append, Script.endLines_append, List.map_singleton, Script.endLines_cons,
      Script.endLines_nil, ← List.append_assoc, lastVisible?_append_blank _ allBlank_lf, lastVisible?_append, hlast,
      Option.some_or]
    cases t <;> decide

theorem isLead_domainsLead : IsLead domainsLead :=
  isLead_concat [scriptBanner] scriptBanner rfl ⟨'/', _, rfl, by decide⟩ (by decide)

theorem isLead_tablesLead (s : Schema) : IsLead (tablesLead s) := by
  rw [tablesLead]
  split
  · exact isLead_concat _ scriptBanner rfl ⟨'/', _, rfl, by decide⟩ (by decide)
  · exact isLead_concat _ tablesBanner rfl ⟨'/', _, rfl, by decide⟩ (by decide)

theorem isLead_proceduresLead (s : Schema) : IsLead (proceduresLead s) := by
  rw [proceduresLead]
  split
  · obtain ⟨first, rest, htables, hfirst⟩ : ∃ first rest, tablesLead s = first :: rest ∧ StartsVisible first.toList := by
      rw [tablesLead]
      split
      · exact ⟨scriptBanner, _, rfl, '/', _, rfl, by decide⟩
      · exact ⟨tablesBanner, _, rfl, '/', _, rfl, by decide⟩
    rw [htables]
    exact isLead_concat _ first rfl hfirst (by decide)
  · exact isLead_concat _ proceduresBanner rfl ⟨'/', _, rfl, by decide⟩ (by decide)

/-! ## One object -/

/-- A text that starts with a word is cut in front of its terminator: what remains starts with that word. -/
theorem startsVisible_dropLast {cs : List Char} {t : Terminator} (hfirst : ∃ rest, cs = 'C' :: rest)
    (hlast : cs.getLast? = some t.symbol) : StartsVisible (unifyBreaks cs.dropLast) := by
  obtain ⟨rest, rfl⟩ := hfirst
  cases rest with
  | nil => cases t <;> simp [Terminator.symbol] at hlast
  | cons c rest =>
    rw [List.dropLast_cons_cons, unifyBreaks_cons_of_ne (by decide)]
    exact ⟨'C', _, rfl, by decide⟩

/-- The lines of a text that ends with the terminator in effect, read behind a lead. -/
theorem run_text (t : Terminator) {text : String} {pending cs : List Char} {lead : List String}
    (hp : Holds pending lead) (hl : IsLead lead) (htext : trimEnd text.toList = cs) (hfirst : ∃ rest, cs = 'C' :: rest)
    (hlast : cs.getLast? = some t.symbol) (ho : ∀ piece ∈ (pieces cs).dropLast, lastVisible? piece ≠ some t.symbol)
    (hd : ∀ piece ∈ pieces cs, isDirectiveLine piece = false) :
    SplitState.run ⟨t, pending⟩ (pieces cs) = ([⟨unlines lead ++ bare text⟩], ⟨t, []⟩) := by
  have hrun := SplitState.run_pieces ⟨t, pending⟩ hlast (hp.lastVisible?_ne hl t) ho hd
  rw [hrun, hp.bodyStatement? hl (startsVisible_dropLast hfirst hlast), bare, htext]
  rfl

/-- A domain or table replays: it ends with a semicolon, and no other line of it does. -/
theorem replays_of_semicolon {text : String} (hfirst : ∃ rest, text.toList = 'C' :: rest)
    (hlast : text.toList.getLast? = some ';') (hd : ∀ line ∈ lines text.toList, isDirectiveLine line = false)
    (ho : ∀ line ∈ (lines text.toList).dropLast, lastVisible? line ≠ some ';') : Replays (pieces text.toList) text := by
  intro pending lead hp hl
  have hlines : lines text.toList = pieces text.toList := lines_eq_pieces (by simp [hlast]) (by simp [hlast])
  rw [hlines] at hd ho
  have htrim : trimEnd text.toList = text.toList := by
    obtain ⟨cs, hcs⟩ := List.getLast?_eq_some_iff.1 hlast
    rw [hcs, trimEnd_concat cs (by decide)]
  exact ⟨[], allBlank_nil, run_text .semicolon hp hl htrim hfirst hlast ho hd⟩

/-- The directive in front of a procedure makes the caret the terminator. -/
theorem step_setCaret (pending : List Char) :
    SplitState.step ⟨.semicolon, pending⟩ setCaret.toList = (⟨.caret, pending⟩, none) := by
  rw [SplitState.step_directive _ (by decide)]
  rfl

/-- The directive behind a procedure makes the semicolon the terminator again. -/
theorem step_setSemicolon (pending : List Char) :
    SplitState.step ⟨.caret, pending⟩ setSemicolon.toList = (⟨.semicolon, pending⟩, none) := by
  rw [SplitState.step_directive _ (by decide)]
  rfl

/-- A blank text stays so with an empty line. -/
theorem step_empty (t : Terminator) {pending : List Char} (hb : AllBlank pending) :
    SplitState.step ⟨t, pending⟩ [] = (⟨t, pending ++ ['\n']⟩, none) := by
  have hopen : lastVisible? (pending ++ []) ≠ some t.symbol := by
    rw [List.append_nil, lastVisible?_eq_none_iff.2 hb]
    simp
  rw [SplitState.step_open _ (by decide) hopen, SplitState.gather, List.append_nil]

/-- What stands between the directives of a procedure, blanks at its end aside, ends with the caret: that of the body, or the
one that the body was missing. No line before the last ends with a caret. -/
theorem exists_trimEnd_undirected (p : Procedure)
    (ho : ∀ line ∈ (lines (procedureText p).toList).dropLast, lastVisible? line ≠ some '^') :
    ∃ cs, trimEnd (undirected p).toList = cs ∧ (∃ rest, cs = 'C' :: rest) ∧ cs.getLast? = some '^' ∧
      (∀ piece ∈ (pieces cs).dropLast, lastVisible? piece ≠ some '^') ∧
      (innerLines p = pieces cs ∨ innerLines p = pieces cs ++ [[]]) := by
  have htext : (undirected p).toList =
      (procedureText p).toList ++ '\n' :: ((missingTerminator? p.body).getD "").toList := by
    simp [undirected]
  rw [htext, innerLines_eq]
  obtain ⟨rest, hrest⟩ := exists_procedureText p
  rcases missingTerminator_cases p with ⟨hnone, hbody⟩ | ⟨hsome, hbody⟩
  · have hlast := getLast?_procedureText hbody
    have htrim : trimEnd ((procedureText p).toList ++ ['\n']) = (procedureText p).toList := by
      obtain ⟨cs, hcs⟩ := List.getLast?_eq_some_iff.1 hlast
      rw [trimEnd_append_blank _ allBlank_lf, hcs, trimEnd_concat cs (by decide)]
    have hlines : lines (procedureText p).toList = pieces (procedureText p).toList :=
      lines_eq_pieces (by simp [hlast]) (by simp [hlast])
    rw [hnone]
    exact ⟨_, htrim, ⟨rest, hrest⟩, hlast, hlines ▸ ho, .inr rfl⟩
  · have hpieces : pieces ((procedureText p).toList ++ '\n' :: ['^']) = pieces (procedureText p).toList ++ [['^']] :=
      pieces_append_lf (getLast?_procedureText_ne_cr p) ['^']
    have htrim : trimEnd ((procedureText p).toList ++ ['\n', '^']) = (procedureText p).toList ++ ['\n', '^'] := by
      rw [← List.singleton_append, ← List.append_assoc, trimEnd_concat _ (by decide)]
    have hopen : ∀ piece ∈ pieces (procedureText p).toList, lastVisible? piece ≠ some '^' := by
      refine lastVisible?_ne_of_lines ?_ ho
      rw [lastVisible?_procedureText]
      cases h : lastVisible? p.body.toList with
      | none => simp
      | some c => rwa [Option.some_or, ← h]
    rw [hsome]
    refine ⟨_, htrim, ⟨rest ++ ['\n', '^'], by rw [hrest]; rfl⟩, by simp, ?_, .inl hpieces.symm⟩
    rw [hpieces, List.dropLast_concat]
    exact hopen

/-- A procedure replays. -/
theorem replays_procedure {p : Procedure} (hd : ∀ line ∈ innerLines p, isDirectiveLine line = false)
    (ho : ∀ line ∈ (lines (procedureText p).toList).dropLast, lastVisible? line ≠ some '^') :
    Replays ((procedureBlocks p ++ [""]).flatMap fun text => pieces text.toList) (undirected p) := by
  intro pending lead hp hl
  obtain ⟨cs, htrim, hfirst, hlast, hopen, hinner⟩ := exists_trimEnd_undirected p ho
  have hplain : ∀ piece ∈ pieces cs, isDirectiveLine piece = false := by
    intro piece hpiece
    rcases hinner with h | h
    · exact hd piece (h ▸ hpiece)
    · exact hd piece (h ▸ List.mem_append_left _ hpiece)
  have hlines : ((procedureBlocks p ++ [""]).flatMap fun text => pieces text.toList) =
      setCaret.toList :: (innerLines p ++ [setSemicolon.toList, []]) := by
    simp [procedureBlocks, innerLines_eq, pieces_setCaret, pieces_setSemicolon, pieces]
  have htextrun := run_text .caret hp hl htrim hfirst hlast hopen hplain
  have hrun : ∃ b, AllBlank b ∧
      SplitState.run ⟨.caret, pending⟩ (innerLines p) = ([⟨unlines lead ++ bare (undirected p)⟩], ⟨.caret, b⟩) := by
    rcases hinner with h | h
    · exact ⟨[], allBlank_nil, h ▸ htextrun⟩
    · refine ⟨['\n'], allBlank_lf, ?_⟩
      rw [h, SplitState.run_append, htextrun, SplitState.run_cons, step_empty .caret allBlank_nil]
      rfl
  obtain ⟨b, hb, hrun⟩ := hrun
  refine ⟨b ++ ['\n'], hb.append allBlank_lf, ?_⟩
  rw [hlines, SplitState.run_cons, step_setCaret, SplitState.run_append, hrun, SplitState.run_cons, step_setSemicolon,
    SplitState.run_cons, step_empty .semicolon hb]
  rfl

/-! ## All objects of a section -/

/-- Without a lead every text is a statement of its own. -/
theorem under_nil (texts : List String) : under [] texts = texts.map fun t => ⟨bare t⟩ := by
  cases texts with
  | nil => rfl
  | cons text texts => rw [under, unlines_nil, String.empty_append, List.map_cons]

/-- The objects of a section replay one after the other; the first takes the lead. -/
theorem run_section {α : Type} {ls : α → List (List Char)} {text : α → String} (as : List α)
    (h : ∀ a ∈ as, Replays (ls a) (text a)) {pending : List Char} {lead : List String} (hp : Holds pending lead)
    (hl : IsLead lead) :
    ∃ pending', SplitState.run ⟨.semicolon, pending⟩ (as.flatMap ls) =
      (under lead (as.map text), ⟨.semicolon, pending'⟩) ∧ Holds pending' (if as.isEmpty then lead else []) := by
  induction as generalizing pending lead with
  | nil => exact ⟨pending, rfl, hp⟩
  | cons a as ih =>
    obtain ⟨b, hb, hrun⟩ := h a List.mem_cons_self pending lead hp hl
    have hblank : Holds b [] := ⟨b, hb, by rw [unlines_nil]; exact (List.append_nil b).symm⟩
    obtain ⟨pending', hrest, hholds⟩ := ih (fun a ha => h a (List.mem_cons_of_mem _ ha)) hblank (.inl rfl)
    refine ⟨pending', ?_, ?_⟩
    · rw [List.flatMap_cons, SplitState.run_append, hrun, hrest, under_nil]
      simp [under]
    · simpa using hholds

/-- The empty line and the banner above a section join what the splitter holds. -/
theorem run_banner (banner : String) {pending : List Char} {lead : List String} {last : Bool}
    (hp : Holds pending (if last then lead else [])) (hl : IsLead (if last then lead else []))
    (hd : isDirectiveLine banner.toList = false) (ho : lastVisible? banner.toList = some '/') :
    ∃ pending', SplitState.run ⟨.semicolon, pending⟩ [[], banner.toList] = ([], ⟨.semicolon, pending'⟩) ∧
      Holds pending' ((if last then lead ++ [""] else []) ++ [banner]) := by
  have hplain : ∀ line ∈ [[], banner.toList], isDirectiveLine line = false := by
    simp only [List.forall_mem_cons]
    exact ⟨by decide, hd, by simp⟩
  have hopen : ∀ line ∈ [[], banner.toList], lastVisible? line ≠ some ';' := by
    simp only [List.forall_mem_cons, ho]
    exact ⟨by decide, by decide, by simp⟩
  have hrun := SplitState.run_open ⟨.semicolon, pending⟩ [[], banner.toList] (hp.lastVisible?_ne hl .semicolon) hopen
    fun line hline h => absurd h (by simp [hplain line hline])
  rw [keptLines_eq_self hplain] at hrun
  refine ⟨_, hrun, ?_⟩
  obtain ⟨b, hb, rfl⟩ := hp
  cases last with
  | true => exact ⟨b, hb, by simp [toList_unlines]⟩
  | false => exact ⟨b ++ ['\n'], hb.append allBlank_lf, by simp [toList_unlines]⟩

/-! ## The whole script -/

/-- The lines of a script: those of its banners and of its objects. -/
theorem lines_schema_eq (s : Schema) : lines (schema s).toList =
    [scriptBanner.toList, domainsBanner.toList] ++ (s.domains.flatMap fun d => pieces (domain d).toList) ++
      [[], tablesBanner.toList] ++ (s.tables.flatMap fun t => pieces (table t).toList) ++
      [[], proceduresBanner.toList] ++
      s.procedures.flatMap fun p => (procedureBlocks p ++ [""]).flatMap fun text => pieces text.toList := by
  have hscript : pieces scriptBanner.toList = [scriptBanner.toList] := by decide
  have hdomains : pieces domainsBanner.toList = [domainsBanner.toList] := by decide
  have htables : pieces tablesBanner.toList = [tablesBanner.toList] := by decide
  have hprocedures : pieces proceduresBanner.toList = [proceduresBanner.toList] := by decide
  have hempty : pieces "".toList = [[]] := rfl
  rw [lines_schema, blocks]
  simp only [List.flatMap_append, List.flatMap_cons, List.flatMap_nil, List.flatMap_map, List.flatMap_assoc, hscript,
    hdomains, htables, hprocedures, hempty, List.append_nil, List.singleton_append]

/-- A lead adds no statement. -/
theorem length_under (lead : List String) (texts : List String) : (under lead texts).length = texts.length := by
  cases texts <;> simp [under]

/-- The banners at the top are gathered. -/
theorem run_top : SplitState.initial.run [scriptBanner.toList, domainsBanner.toList] =
    ([], ⟨.semicolon, Script.endLines [scriptBanner.toList, domainsBanner.toList]⟩) := by
  have hplain : ∀ line ∈ [scriptBanner.toList, domainsBanner.toList], isDirectiveLine line = false := by decide
  have hopen : ∀ line ∈ [scriptBanner.toList, domainsBanner.toList], lastVisible? line ≠ some ';' := by decide
  have hrun := SplitState.initial.run_open _ (by decide) hopen fun line hline h => absurd h (by simp [hplain line hline])
  rw [keptLines_eq_self hplain] at hrun
  exact hrun

/-- Splitting the script of a schema gives its objects back: one statement for each, in order, with the banners above it; what
is discarded is the banners behind the last object, and nothing if there is a procedure. -/
theorem split_schema (s : Schema) (h : Replayable s) :
    (split (schema s)).statements = under domainsLead (s.domains.map domain) ++ under (tablesLead s) (s.tables.map table) ++
      under (proceduresLead s) (s.procedures.map undirected) ∧
    (split (schema s)).statements.length = s.size ∧
    (split (schema s)).discarded? =
      if s.procedures.isEmpty then some (trimmed (unlines (proceduresLead s))) else none := by
  have hdomain : ∀ d ∈ s.domains, Replays (pieces (domain d).toList) (domain d) := fun d hd =>
    replays_of_semicolon (exists_domain d) (getLast?_domain d)
      (h.plain _ (List.mem_append_left _ (List.mem_map_of_mem hd)))
      (h.semicolon _ (List.mem_append_left _ (List.mem_map_of_mem hd)))
  have htable : ∀ t ∈ s.tables, Replays (pieces (table t).toList) (table t) := fun t ht =>
    replays_of_semicolon (exists_table t) (getLast?_table t)
      (h.plain _ (List.mem_append_right _ (List.mem_map_of_mem ht)))
      (h.semicolon _ (List.mem_append_right _ (List.mem_map_of_mem ht)))
  have hprocedure : ∀ p ∈ s.procedures,
      Replays ((procedureBlocks p ++ [""]).flatMap fun text => pieces text.toList) (undirected p) := fun p hp =>
    replays_procedure (h.inner_plain p hp) (h.caret p hp)
  have htop : Holds (Script.endLines [scriptBanner.toList, domainsBanner.toList]) domainsLead :=
    ⟨[], allBlank_nil, by rw [toList_unlines]; rfl⟩
  -- between two parts the semicolon is in effect, so each part starts where the one before it ended
  obtain ⟨p₁, hrun₁, hheld₁⟩ := run_section s.domains hdomain htop isLead_domainsLead
  obtain ⟨p₂, hrun₂, (hheld₂ : Holds p₂ (tablesLead s))⟩ :=
    run_banner tablesBanner hheld₁ (isLead_domainsLead.ite _) (by decide) (by decide)
  obtain ⟨p₃, hrun₃, hheld₃⟩ := run_section s.tables htable hheld₂ (isLead_tablesLead s)
  obtain ⟨p₄, hrun₄, (hheld₄ : Holds p₄ (proceduresLead s))⟩ :=
    run_banner proceduresBanner hheld₃ ((isLead_tablesLead s).ite _) (by decide) (by decide)
  obtain ⟨p₅, hrun₅, hheld₅⟩ := run_section s.procedures hprocedure hheld₄ (isLead_proceduresLead s)
  have hrun := SplitState.run_trans (SplitState.run_trans (SplitState.run_trans (SplitState.run_trans
    (SplitState.run_trans run_top hrun₁) hrun₂) hrun₃) hrun₄) hrun₅
  rw [← lines_schema_eq] at hrun
  rw [split_eq_of_run hrun]
  refine ⟨by simp only [List.nil_append, List.append_nil], ?_, ?_⟩
  · simp [length_under, Schema.size, Nat.add_assoc]
  · rw [hheld₅.rest? ((isLead_proceduresLead s).ite _)]
    cases s.procedures.isEmpty with
    | true => simp [proceduresLead]
    | false => rfl

/-- A schema without tables, with a check on two lines and two procedures, one of which brings its own caret. -/
def twoProcedures : Schema :=
  ⟨[⟨"AGE", "INTEGER", true, none, some "(VALUE > 0\r\n  AND VALUE < 150)"⟩], [],
    [⟨"P", "BEGIN\n  SUSPEND;\nEND^ \n", [], []⟩, ⟨"Q", "BEGIN\n  EXIT;\nEND", [⟨"A", "AGE"⟩], []⟩]⟩

/-- The schema is split into its three objects; the banner of the tables travels with that of the procedures. -/
theorem split_twoProcedures : Replayable twoProcedures ∧
    (split (schema twoProcedures)).statements =
      [⟨"/* --- GENERATED METADATA SCRIPT --- */\n/* --- 1. DOMAINS --- */\n" ++
          "CREATE DOMAIN AGE AS INTEGER NOT NULL CHECK (VALUE > 0\n  AND VALUE < 150)"⟩,
        ⟨"/* --- 2. TABLES --- */\n\n/* --- 3. PROCEDURES --- */\nCREATE PROCEDURE P\nAS\nBEGIN\n  SUSPEND;\nEND"⟩,
        ⟨"CREATE PROCEDURE Q (\n\tA AGE\n)\nAS\nBEGIN\n  EXIT;\nEND"⟩] ∧
    (split (schema twoProcedures)).discarded? = none := by
  have h : Replayable twoProcedures :=
    ⟨by decide +kernel, by decide +kernel, by decide +kernel, by decide +kernel⟩
  obtain ⟨hstatements, -, hdiscarded⟩ := split_schema twoProcedures h
  refine ⟨h, ?_, hdiscarded⟩
  rw [hstatements]
  decide +kernel

end SchemaScript.Ddl
