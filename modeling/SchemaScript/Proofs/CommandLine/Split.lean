import SchemaScript.Proofs.Json.Reads
import SchemaScript.Proofs.Pipeline.Update
import SchemaScript.Proofs.Text.Trim

/-!
# Splitting a script to JSON

A directory of any name can be given to the tool, in one word with its flag (`Request.ofWords_split`). Asked to split the script of a
directory to JSON, the tool prints the statements as one array and a line end. This reads back as their texts, whatever these hold
(`readDocument_statementsJson`), and nothing else comes to standard output: what is reported of the script, such as text that completes
no statement, goes to the log (`split_prints_json`).
-/

namespace SchemaScript.CommandLine

/-! ## Asking for it -/

section Assign

variable {i : Interface} {r : Reading} {f : Flag} {name value : String}

/-- The name of a flag and its value behind the equals sign, without the dashes. -/
theorem Interface.takeLong_assign (hname : '=' ∉ name.toList) (hf : i.flag? name = some f) (rest : List String) :
    i.takeLong r (name.toList ++ '=' :: value.toList) rest = i.take r f (some value) := by
  rw [takeLong, Text.takeWhile_ne_append hname, Text.dropWhile_ne_append hname, String.ofList_toList]
  dsimp only
  rw [hf]
  dsimp only
  rw [String.ofList_toList]

/-- A word with the name of a flag and its value is read as that flag. -/
theorem Interface.read_assign (hname : '=' ∉ name.toList) (hf : i.flag? name = some f) (hliteral : r.literal = false)
    (hcommand : i.command? ("--" ++ name ++ "=" ++ value) = none) (rest : List String) :
    i.read r (("--" ++ name ++ "=" ++ value) :: rest) = i.take r f (some value) >>= (i.read · rest) := by
  have hchars : ("--" ++ name ++ "=" ++ value).toList = '-' :: '-' :: (name.toList ++ '=' :: value.toList) := by
    simp only [String.toList_append, List.append_assoc]
    rfl
  have hword : (if r.waits then none else i.command? ("--" ++ name ++ "=" ++ value)) = none := by
    rw [hcommand, ite_self]
  rw [read, if_neg (by rw [hliteral]; decide), hword, hchars, ← takeLong_assign hname hf rest]
  -- the word is longer than two dashes, and so it does not end the flags
  obtain ⟨c, long, hlong⟩ := List.exists_cons_of_ne_nil
    (List.append_ne_nil_of_right_ne_nil name.toList (List.cons_ne_nil '=' value.toList))
  rw [hlong]
  rfl

end Assign

/-- The words that ask to split the script of a directory to JSON. -/
def splitWords (directory : String) : List String := ["--output-json", "split", "--" ++ "scripts-dir" ++ "=" ++ directory]

/-- The words ask for that in every directory that has a name. -/
theorem Request.ofWords_split (environment? : Option String) {directory : String} (h : directory ≠ "") :
    ofWords environment? (splitWords directory) =
      .ok ⟨defaultConfig, environment?, true, defaultLogFormat, defaultVerbosity, .split directory⟩ := by
  have hgive : Command.split.interface.give .start .scriptsDir directory = .ok ⟨[(.scriptsDir, directory)], none, false⟩ := by
    rw [Interface.give, if_neg (by decide)]
    · rfl
    · exact fun _ _ => h
  have hread : Command.read .split ["--" ++ "scripts-dir" ++ "=" ++ directory] = .ok (.split directory) := by
    rw [Command.read, Interface.read_assign (by decide) rfl rfl rfl]
    change (Command.split.interface.give .start .scriptsDir directory >>= _) >>= _ = _
    rw [hgive]
    rfl
  change (Command.read .split _ >>= _) = _
  rw [hread]
  rfl

/-! ## Reading it back -/

/-- The statements are read back from their printed form. -/
theorem reads_statementsJson (statements : List Statement) :
    Json.Reads (Json.readList Json.readString) (statementsJson statements) (statements.map (·.text)) := by
  have hitems : statementsJson statements = .list ((statements.map (·.text)).map Json.Value.text) := by
    rw [List.map_map, statementsJson]
    rfl
  rw [hitems]
  exact .map Json.reads_text _

/-- The statements that are printed are one document, also with the line end behind them. -/
theorem readDocument_statementsJson (statements : List Statement) :
    Json.readDocument (Json.readList Json.readString) ((statementsJson statements).pretty ++ "\n") =
      .ok (statements.map (·.text)) := by
  have hblank : ∀ b ∈ ['\n'], Json.Cursor.isSpace b = true := List.forall_mem_singleton.mpr rfl
  exact (reads_statementsJson statements).document_append hblank

/-! ## The whole run -/

variable {τ : Type}

/-- Every command line that asks to split the script of a directory to JSON, where that script is found and read, prints the statements
of the script as one array and nothing else. The array reads back as their texts, in their order. The errors are empty, and what is
reported of the script goes to the log. Nothing is changed. Only logging that is not known is refused, before anything else. -/
theorem split_prints_json (support? : Option (Connector τ)) (environment? : Option String) (timing : Timing) {words : List String}
    (w : World τ) {r : Request} {directory path text : String} (hwords : Request.ofWords environment? words = .ok r)
    (hjob : r.job = .split directory) (hjson : r.outputJson = true) (hfind : Script.find w.files directory = .ok path)
    (hread : w.files.readText path = .ok text) :
    match r.logging with
    | .error f => run support? environment? timing words w = .early f.exitCode (failureText f) w
    | .ok logging =>
      let outcome := run support? environment? timing words w
      outcome.exitCode = 0 ∧
      outcome.output = (statementsJson (Script.split text).statements).pretty ++ "\n" ∧
      Json.readDocument (Json.readList Json.readString) outcome.output = .ok ((Script.split text).statements.map (·.text)) ∧
      outcome.errors = "" ∧ outcome.log = logging.select (splitLog path text) ∧ outcome.world = w := by
  have hrun : run support? environment? timing words w = r.run support? timing w := by
    rw [run, hwords]
  have hload : Script.load w.files directory = .ok (path, text) := by
    rw [Script.load_eq, hfind]
    dsimp only
    rw [hread]
  rw [hrun]
  cases hlogging : r.logging with
  | error f =>
    dsimp only
    rw [Request.run, hlogging]
  | ok logging =>
    have hreport (json : Json.Value) (shown : String) : r.report json shown = json.pretty ++ "\n" := by
      rw [Request.report, if_pos hjson]
    dsimp only
    rw [Request.run_split support? timing w hjob hlogging hload, hreport]
    exact ⟨rfl, rfl, readDocument_statementsJson _, rfl, rfl, rfl⟩

/-- A script with a statement that holds quotes, a backslash, a control character, a line break and a letter beyond those of ASCII. Of the
text behind its last statement it is only reported that it is left out. -/
theorem split_prints_quoted :
    let text := "INSERT INTO T VALUES ('\"\\\x01\r\n\u03bb');\nCOMMIT;\nrest"
    let files := ((FileTree.fresh []).insert ["scripts"] .directory).insert ["scripts", "a.sql"] (.file (.text text))
    let outcome : Outcome Unit := run none none ⟨"", 0⟩ (splitWords "scripts") ⟨files, ()⟩
    Script.find files "scripts" = .ok "scripts/a.sql" ∧ files.readText "scripts/a.sql" = .ok text ∧
      Json.readDocument (Json.readList Json.readString) outcome.output =
        .ok ["INSERT INTO T VALUES ('\"\\\x01\n\u03bb')", "COMMIT"] ∧
      outcome.log = [⟨.warn, "Unterminated text at end of scripts/a.sql would be discarded: 'rest'"⟩] := by
  intro text files outcome
  have hfind : Script.find files "scripts" = .ok "scripts/a.sql" := Action.eq_ok_of_toOption (by decide +kernel)
  have hread : files.readText "scripts/a.sql" = .ok text := Action.eq_ok_of_toOption (by decide +kernel)
  have hstatements : (Script.split text).statements.map (·.text) = ["INSERT INTO T VALUES ('\"\\\x01\n\u03bb')", "COMMIT"] := by
    decide +kernel
  have hlog : (⟨.info, .text⟩ : Logging).select (splitLog "scripts/a.sql" text) =
      [⟨.warn, "Unterminated text at end of scripts/a.sql would be discarded: 'rest'"⟩] := by
    decide +kernel
  obtain ⟨-, -, hreads, -, hlogged, -⟩ :=
    split_prints_json none none ⟨"", 0⟩ ⟨files, ()⟩ (Request.ofWords_split none (by decide)) rfl rfl hfind hread
  exact ⟨hfind, hread, hreads.trans (congrArg Except.ok hstatements), hlogged.trans hlog⟩

end SchemaScript.CommandLine
