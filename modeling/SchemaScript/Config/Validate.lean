import SchemaScript.Config.Basic
import SchemaScript.Failure

/-!
# Config.Validate: whether the settings can be used

The connection has to be complete, file names have to be plain names that stay inside their directory, and the page size has
to be one that the server offers. `Config.defect?` finds the first setting that fails.
-/

namespace SchemaScript

/-- Why settings cannot be used. -/
inductive Config.Defect
  | missing (field : String)
  | zeroPort
  | notPlain (field name : String)
  | pageSize (size : UInt32)
  deriving DecidableEq, Repr

/-- The page sizes that the server offers. -/
def BuildOptions.pageSizes : List UInt32 := [4096, 8192, 16384, 32768]

/-- The text of a defect. -/
def Config.Defect.message : Config.Defect → String
  | missing field => field ++ " is required"
  | zeroPort => "connection.port must not be 0"
  | notPlain field name => field ++ " must be a plain file name, got '" ++ name ++ "'"
  | pageSize size =>
    "build.page_size must be one of [" ++ String.intercalate ", " (BuildOptions.pageSizes.map (toString ·.toNat)) ++
      "], got " ++ toString size.toNat

/-- Whether a file name stays inside the directory that it is joined to. -/
def isPlainName (name : String) : Bool :=
  !name.toList.contains '/' && !name.toList.contains '\\' && name != "." && name != ".."

/-- The defect of a file name. -/
def fileNameDefect? (field name : String) : Option Config.Defect :=
  if name = "" then some (.missing field) else if isPlainName name then none else some (.notPlain field name)

/-- The defect of a text that must not be empty. -/
def missingDefect? (field text : String) : Option Config.Defect := if text = "" then some (.missing field) else none

/-- The first defect of a connection. -/
def Connection.defect? (c : Connection) : Option Config.Defect :=
  [missingDefect? "connection.host" c.host, if c.port = 0 then some .zeroPort else none,
    missingDefect? "connection.database" c.database, missingDefect? "connection.user" c.user,
    missingDefect? "connection.charset" c.charset].findSome? id

/-- The defect of the options of an export. -/
def ExportOptions.defect? (o : ExportOptions) : Option Config.Defect := fileNameDefect? "export.file_name" o.fileName

/-- The first defect of the options of a new database. -/
def BuildOptions.defect? (o : BuildOptions) : Option Config.Defect :=
  (fileNameDefect? "build.database_file" o.databaseFile).or <|
    if BuildOptions.pageSizes.contains o.pageSize then none else some (.pageSize o.pageSize)

/-- The first defect of the settings: the connection, then the export, then the new database. -/
def Config.defect? (c : Config) : Option Config.Defect :=
  c.connection.defect?.or (c.exporting.defect?.or c.building.defect?)

/-- The settings themselves if they can be used. -/
def Config.validate (c : Config) : Except Failure Config :=
  match c.defect? with
  | none => .ok c
  | some defect => .error (.config defect.message)

/-- The options themselves if they can be used. -/
def ExportOptions.validate (o : ExportOptions) : Except Failure ExportOptions :=
  match o.defect? with
  | none => .ok o
  | some defect => .error (.config defect.message)

end SchemaScript
