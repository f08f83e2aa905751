import SchemaScript.Database.Client

/-!
# Database.Create: a new database

A database is created as a file in a directory. The directory is created if it is missing, and a file of that name that is
already there is removed.
-/

namespace SchemaScript

/-- Remove the file that a new database would replace. -/
def clearDatabase {τ : Type} (path : String) : Action (World τ) Unit := do
  if ← World.onFiles (FileAction.ask (·.hasEntry path)) then
    Action.note .warn ("Overwriting existing database " ++ path)
    World.onFiles (FileAction.remove path)

/-- Create a database in a directory: the connection to it. -/
def createDatabase {τ : Type} (k : Connector τ) (c : Connection) (options : BuildOptions) (directory : String) :
    Action (World τ) Connection := do
  World.onFiles (FileAction.createDirectories directory)
  let path := Path.join directory options.databaseFile
  clearDatabase path
  let target := { c with database := path }
  Action.note .info ("Creating database " ++ target.target)
  let charset ← Action.ofExcept (Charset.ofName target.charset)
  (k.create target charset options.pageSize).toAction fun fault =>
    .database ("error during database file creation: " ++ fault.message)
  Action.note .info "Database created"
  return target

end SchemaScript
