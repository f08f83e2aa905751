import SchemaScript.Config.Validate
import SchemaScript.FileTree.Basic
import SchemaScript.Yaml.Decode

/-!
# Config.Yaml: settings in a file

A configuration file is a document with a section for the connection and optional sections for the export and for new databases.
Commands that need no database read the section for the export alone; what the other sections hold does not matter to them.
-/

namespace SchemaScript

open Yaml (Shape)

/-- The section of the connection. -/
def Connection.shape : Shape Connection where
  name := "ConnectionConfig"
  fields := [
    .of "host" false Yaml.readText fun v c => { c with host := v },
    .of "port" false (Yaml.readUnsigned 16) fun v c => { c with port := v.toUInt16 },
    .of "database" false Yaml.readText fun v c => { c with database := v },
    .of "user" false Yaml.readText fun v c => { c with user := v },
    .of "password" false Yaml.readText fun v c => { c with password := v },
    .of "charset" false Yaml.readText fun v c => { c with charset := v }]
  empty := .default

/-- The section of the export. -/
def ExportOptions.shape : Shape ExportOptions where
  name := "ExportConfig"
  fields := [
    .of "file_name" false Yaml.readText fun v o => { o with fileName := v },
    .of "json_snapshot" false Yaml.readFlag fun v o => { o with jsonSnapshot := v }]
  empty := .default

/-- The section of new databases. -/
def BuildOptions.shape : Shape BuildOptions where
  name := "BuildConfig"
  fields := [
    .of "database_file" false Yaml.readText fun v o => { o with databaseFile := v },
    .of "page_size" false (Yaml.readUnsigned 32) fun v o => { o with pageSize := v.toUInt32 }]
  empty := .default

/-- A configuration file. -/
def Config.shape : Shape Config where
  name := "Config"
  fields := [
    .of "connection" true (Yaml.readRecord Connection.shape) fun v c => { c with connection := v },
    .of "export" false (Yaml.readRecord ExportOptions.shape) fun v c => { c with exporting := v },
    .of "build" false (Yaml.readRecord BuildOptions.shape) fun v c => { c with building := v }]
  empty := .ofConnection .default

/-- A configuration file of which only the section of the export matters. -/
def ExportOptions.fileShape : Shape ExportOptions where
  name := "ExportSection"
  fields := [.of "export" false (Yaml.readRecord ExportOptions.shape) fun v _ => v]
  empty := .default

/-- The settings of a configuration file's text. -/
def Config.ofYaml (text : String) : Except Failure Config := do
  (← (Yaml.readDocument (Yaml.readRecord Config.shape) text).mapError .yaml).validate

/-- The options of an export in a configuration file's text. -/
def ExportOptions.ofYaml (text : String) : Except Failure ExportOptions := do
  (← (Yaml.readDocument (Yaml.readRecord ExportOptions.fileShape) text).mapError .yaml).validate

/-- The settings of a configuration file. -/
def Config.load (t : FileTree) (path : String) : Except Failure Config := do
  Config.ofYaml (← (t.readText path).mapError .file)

/-- The options of an export in a configuration file. -/
def ExportOptions.load (t : FileTree) (path : String) : Except Failure ExportOptions := do
  ExportOptions.ofYaml (← (t.readText path).mapError .file)

end SchemaScript
