import SchemaScript.Text.Quoted

/-!
# Config.Basic: settings of the tool

The connection to the server, the options of an export and the options of a new database, with their defaults. The password
is never printed: `Connection.redacted` shows every other setting.
-/

namespace SchemaScript

/-- The connection to a database server. -/
structure Connection where
  host : String
  port : UInt16
  database : String
  user : String
  password : String
  charset : String
  deriving DecidableEq, Repr

namespace Connection

/-- The connection before any setting is given. -/
def default : Connection := ⟨"localhost", 3050, "", "SYSDBA", "", "UTF8"⟩

/-- The place of the database: host, port and path. -/
def target (c : Connection) : String := c.host ++ "/" ++ toString c.port.toNat ++ ":" ++ c.database

/-- The settings for a reader who must not see the password. -/
def redacted (c : Connection) : String :=
  "ConnectionConfig \x7b host: " ++ Text.quoted c.host ++ ", port: " ++ toString c.port.toNat ++
    ", database: " ++ Text.quoted c.database ++ ", user: " ++ Text.quoted c.user ++
    ", password: \"[REDACTED]\", charset: " ++ Text.quoted c.charset ++ " \x7d"

end Connection

/-- The options of an export: the name of the script, and whether a snapshot is written beside it. -/
structure ExportOptions where
  fileName : String
  jsonSnapshot : Bool
  deriving DecidableEq, Repr

/-- The options of an export before any is given. -/
def ExportOptions.default : ExportOptions := ⟨"schema.sql", false⟩

/-- The options of a new database: the name of its file and the size of its pages. -/
structure BuildOptions where
  databaseFile : String
  pageSize : UInt32
  deriving DecidableEq, Repr

/-- The options of a new database before any is given. -/
def BuildOptions.default : BuildOptions := ⟨"database_1.fdb", 8192⟩

/-- All settings of the tool. -/
structure Config where
  connection : Connection
  exporting : ExportOptions
  building : BuildOptions
  deriving DecidableEq, Repr

/-- The settings of a connection, with defaults for the rest. -/
def Config.ofConnection (c : Connection) : Config := ⟨c, .default, .default⟩

end SchemaScript
