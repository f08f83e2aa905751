import SchemaScript.Catalog.Source
import SchemaScript.Config.Basic
import SchemaScript.Ddl.Render
import SchemaScript.Pipeline.Report
import SchemaScript.Schema.Json
import SchemaScript.World

/-!
# Pipeline.Export: from a metadata source to a script

The whole schema is read before anything is written, so a source that fails leaves the files as they were. A snapshot of the
schema can be written beside the script, and a script can be rendered from a snapshot without a database.
-/

namespace SchemaScript

/-- The name of the snapshot beside the script. -/
def snapshotName : String := "schema.json"

variable {τ : Type}

/-- Write the script of a schema, and the snapshot if the options ask for it: the paths of the two. -/
def writeScripts (schema : Schema) (directory : String) (options : ExportOptions) :
    Action (World τ) (String × Option String) := do
  Action.note .info ("Phase 2: Writing scripts to " ++ directory)
  World.onFiles (FileAction.createDirectories directory)
  let scriptPath := Path.join directory options.fileName
  World.onFiles (FileAction.write scriptPath (Ddl.schema schema))
  if options.jsonSnapshot then
    let snapshotPath := Path.join directory snapshotName
    World.onFiles (FileAction.write snapshotPath schema.snapshot)
    return (scriptPath, some snapshotPath)
  else return (scriptPath, none)

/-- Export the schema of a source into a directory. -/
def exportScripts (source : Source τ) (directory : String) (options : ExportOptions) (timing : Timing) :
    Action (World τ) ExportReport := do
  Action.note .info "Phase 1: Reading metadata"
  let schema ← World.withPeer source.loadSchema
  Action.note .info ("Found " ++ toString schema.domains.length ++ " domains, " ++ toString schema.tables.length ++
    " tables, " ++ toString schema.procedures.length ++ " procedures")
  let (scriptPath, snapshotPath?) ← writeScripts schema directory options
  Action.note .info ("Export completed: " ++ toString schema.size ++ " objects written to " ++ scriptPath ++ " in " ++
    Decimal.fixed 1 timing.seconds ++ "s")
  return ⟨scriptPath, snapshotPath?, schema.domains.length, schema.tables.length, schema.procedures.length, timing⟩

/-- The schema of a snapshot file. -/
def loadSnapshot (t : FileTree) (path : String) : Except Failure Schema := do
  Schema.ofSnapshot (← (t.readText path).mapError .file)

/-- Render a snapshot file to a script in a directory. -/
def renderSnapshot (path directory : String) (options : ExportOptions) (timing : Timing) :
    Action (World τ) ExportReport := do
  Action.note .info ("Loading snapshot " ++ path)
  let schema ← World.askFiles (loadSnapshot · path)
  exportScripts (.ofSchema schema) directory options timing

end SchemaScript
