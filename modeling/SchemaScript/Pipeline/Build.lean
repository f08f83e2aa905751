import SchemaScript.Database.Create
import SchemaScript.Database.Reader
import SchemaScript.Database.Writer
import SchemaScript.Pipeline.Export
import SchemaScript.Pipeline.Update

/-!
# Pipeline.Build: commands that need a database

Exporting the schema of a database, applying a script to a database, and creating a database and applying a script to it.
-/

namespace SchemaScript

variable {τ : Type} (k : Connector τ)

/-- Export the schema of a database into a directory. -/
def exportDatabase (c : Connection) (directory : String) (options : ExportOptions) (timing : Timing) :
    Action (World τ) ExportReport := do
  k.openReader c
  exportScripts k.client.source directory options timing

/-- Apply the script of a directory to a database. -/
def updateWith (c : Connection) (directory : String) (timing : Timing) : Action (World τ) UpdateReport := do
  k.openWriter c
  updateDatabase k.client.executor directory timing

/-- Create a database in a directory and apply the script of another directory to it. -/
def buildDatabase (config : Config) (directory scripts : String) (timing : Timing) : Action (World τ) UpdateReport := do
  Action.note .info ("Creating new database in " ++ directory)
  let target ← createDatabase k config.connection config.building directory
  updateWith k target scripts timing

end SchemaScript
