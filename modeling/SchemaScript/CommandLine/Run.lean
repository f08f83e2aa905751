import SchemaScript.CommandLine.Logging
import SchemaScript.CommandLine.Reading
import SchemaScript.Config.ConnectionString
import SchemaScript.Config.Yaml
import SchemaScript.Pipeline.Build
import SchemaScript.Text.Lines

/-!
# CommandLine.Run: from a command line to its outcome

A build of the tool may lack database support; then the commands that need a database read their configuration and fail. What a
command prints on standard output is its report alone: the log and the failures go elsewhere.
-/

namespace SchemaScript.CommandLine

/-! ### Reports -/

/-- The last line of a report. -/
def durationLine (t : Timing) : String := "  Duration: " ++ Decimal.fixed 2 t.seconds ++ "s"

/-- The report of an export. -/
def exportText (r : ExportReport) : String :=
  Text.unlines (["", "Export completed!", "  Script: " ++ r.scriptPath] ++
    (r.snapshotPath?.map ("  Snapshot: " ++ ·)).toList ++
    ["  Domains: " ++ toString r.domains, "  Tables: " ++ toString r.tables, "  Procedures: " ++ toString r.procedures,
      durationLine r.timing])

/-- The report of an update. -/
def updateText (r : UpdateReport) : String :=
  Text.unlines ["", "Update completed!", "  Script: " ++ r.scriptPath, "  Statements executed: " ++ toString r.executed,
    "  Statements skipped: " ++ toString r.skipped, durationLine r.timing]

/-- The statements of a script as JSON. -/
def statementsJson (statements : List Statement) : Json.Value := .list (statements.map fun s => .text s.text)

/-- The statements of a script, each under its number. -/
def statementsText (path : String) (statements : List Statement) : String :=
  Text.unlines (statements.zipIdx.flatMap fun (s, n) => ["-- [" ++ toString n ++ "]", s.text]) ++
    Text.unlines ["", toString statements.length ++ " statements in " ++ path]

namespace Request

/-- A report in the form that a request asks for. -/
def report (r : Request) (json : Json.Value) (text : String) : String :=
  if r.outputJson then json.pretty ++ "\n" else text

variable {τ : Type} (r : Request)

/-! ### Settings -/

/-- The settings of a request: those of the connection string if there is one, otherwise those of the configuration file. -/
def loadConfig : Action (World τ) Config := do
  match r.connectionString? with
  | some text =>
    let config ← Action.reporting (Config.ofConnectionString text)
    Action.note .info ("Using connection string for " ++ config.connection.target)
    return config
  | none =>
    let config ← World.askFiles (Config.load · r.config)
    Action.note .info ("Loaded configuration from " ++ Text.quotedTight r.config)
    return config

/-- The options of an export without a database; the configuration file need not be there. -/
def exportOptions (t : FileTree) : Except Failure ExportOptions :=
  match t.locate r.config with
  | .ok _ => ExportOptions.load t r.config
  | .error _ => .ok .default

/-! ### Jobs -/

/-- A build without database support. -/
def noDatabaseSupport : Failure :=
  .config "this build has no database support; rebuild with `--features firebird`"

/-- Work with a database, under the settings of a request. -/
def withDatabase {α : Type} (support? : Option (Connector τ)) (work : Connector τ → Config → Action (World τ) α) :
    Action (World τ) α := do
  let config ← r.loadConfig
  match support? with
  | some k => work k config
  | none => throw noDatabaseSupport

/-- The statements of a directory's script; text that completes no statement is reported. -/
def splitScript (scripts : String) : Action (World τ) String := do
  let (path, text) ← Script.read scripts
  let split := Script.split text
  if let some rest := split.discarded? then
    Action.note .warn ("Unterminated text at end of " ++ path ++ " would be discarded: '" ++ rest ++ "'")
  return r.report (statementsJson split.statements) (statementsText path split.statements)

/-- Do what a request asks for: what is printed on standard output. -/
def perform (support? : Option (Connector τ)) (timing : Timing) : Action (World τ) String :=
  match r.job with
  | .exportScripts directory => do
    let report ← r.withDatabase support? fun k config =>
      exportDatabase k config.connection directory config.exporting timing
    return r.report report.toJson (exportText report)
  | .updateDb scripts => do
    let report ← r.withDatabase support? fun k config => updateWith k config.connection scripts timing
    return r.report report.toJson (updateText report)
  | .buildDb directory scripts => do
    let report ← r.withDatabase support? fun k config => buildDatabase k config directory scripts timing
    return r.report report.toJson (updateText report)
  | .render snapshot directory => do
    let options ← World.askFiles r.exportOptions
    let report ← renderSnapshot snapshot directory options timing
    return r.report report.toJson (exportText report)
  | .split scripts => r.splitScript scripts

end Request

/-! ### Outcome -/

/-- What a run of the tool leaves behind. -/
structure Outcome (τ : Type) where
  exitCode : Nat
  /-- What is printed on standard output. -/
  output : String
  /-- What is printed on standard error behind the log. -/
  errors : String
  format : LogFormat
  /-- The events that are shown. -/
  log : List Entry
  world : World τ

variable {τ : Type}

/-- The outcome of a failure before anything was done. -/
def Outcome.early (code : Nat) (errors : String) (w : World τ) : Outcome τ := ⟨code, "", errors, .text, [], w⟩

/-- The text of a failure as it is printed. -/
def failureText (f : Failure) : String := f.detailed ++ "\n"

/-- The outcome of a request. -/
def Request.run (r : Request) (support? : Option (Connector τ)) (timing : Timing) (w : World τ) : Outcome τ :=
  match r.logging with
  | .error f => .early f.exitCode (failureText f) w
  | .ok logging =>
    let (result, j) := (r.perform support? timing).start w
    let shown := logging.select j.log
    match result with
    | .ok output => ⟨0, output, "", logging.format, shown, j.state⟩
    | .error f => ⟨f.exitCode, "", failureText f, logging.format, shown, j.state⟩

/-- The outcome of a command line, given the value of the environment variable if that is set. -/
def run (support? : Option (Connector τ)) (environment? : Option String) (timing : Timing) (words : List String)
    (w : World τ) : Outcome τ :=
  match Request.ofWords environment? words with
  | .ok r => r.run support? timing w
  | .error refusal =>
    if refusal.isError then .early refusal.exitCode refusal.text w
    else ⟨refusal.exitCode, refusal.text, "", .text, [], w⟩

end SchemaScript.CommandLine
