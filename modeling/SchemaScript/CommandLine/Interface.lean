/-!
# CommandLine.Interface: what can be written on the command line

An interface is a command with its flags, and the commands below it if it has some. `tool` is the interface of the whole tool,
and each `Command` has an interface of its own. `Interface.usage` prints in one line what may follow the words of an interface.
-/

namespace SchemaScript.CommandLine

/-- What a flag is for. -/
inductive Flag.Kind
  /-- It is there or not. -/
  | switch
  /-- A value of the given name follows; a path may not be empty. -/
  | value (name : String) (isPath : Bool)
  /-- Print the help and stop. -/
  | help
  /-- Print the version and stop. -/
  | version
  deriving DecidableEq, Repr

/-- A flag: `--name`, or one dash and its letter. -/
structure Flag where
  name : String
  letter? : Option Char
  kind : Flag.Kind
  isRequired : Bool
  about : String
  deriving DecidableEq, Repr

namespace Flag

/-- The flag as it is written, with the name of its value. -/
def shown (f : Flag) : String :=
  match f.kind with
  | .value name _ => "--" ++ f.name ++ " <" ++ name ++ ">"
  | _ => "--" ++ f.name

/-- Whether a flag may be left out but changes what the command does. -/
def isOption (f : Flag) : Bool := !f.isRequired && f.kind ≠ .help && f.kind ≠ .version

end Flag

/-- The commands of the tool. -/
inductive Command
  | exportScripts
  | updateDb
  | buildDb
  | render
  | split
  deriving DecidableEq, Repr

/-- What may follow the tool's flags: a command, or the word that asks for help. -/
inductive Subcommand
  | run (command : Command)
  | help
  deriving DecidableEq, Repr

/-- What may be written behind some words. -/
structure Interface where
  words : String
  about : String
  flags : List Flag
  /-- The words that are no flags, each with what it is for. -/
  operands : List (String × String)
  commands : List Subcommand
  deriving DecidableEq, Repr

/-! ### The flags -/

/-- The name of the tool. -/
def toolName : String := "fb-meta-tool"

/-- The version of the tool. -/
def toolVersion : String := "0.3.0"

/-- The environment variable that stands in for the flag `--connection-string`. -/
def connectionVariable : String := "FB_META_CONNECTION_STRING"

/-- The configuration file that is read when no other is named. -/
def defaultConfig : String := "config.yaml"

/-- The format of the log when no other is named. -/
def defaultLogFormat : String := "text"

/-- The verbosity of the log when no other is named. -/
def defaultVerbosity : String := "info"

/-- A help text with the value that holds when the flag is left out. -/
def withDefault (about value : String) : String := about ++ " [default: " ++ value ++ "]"

namespace Flag

/-- A path without which the command cannot run. -/
def requiredPath (name value about : String) : Flag := ⟨name, none, .value value true, true, about⟩

/-- A text that may be left out. -/
def optionalText (name value about : String) : Flag := ⟨name, none, .value value false, false, about⟩

/-- The flag that asks for help. -/
def help : Flag := ⟨"help", some 'h', .help, false, "Print help"⟩

/-- The flag that asks for the version. -/
def version : Flag := ⟨"version", some 'V', .version, false, "Print version"⟩

/-- The configuration file. -/
def config : Flag :=
  ⟨"config", some 'c', .value "CONFIG" true, false, withDefault "Path to YAML configuration file" defaultConfig⟩

/-- The connection; its help shows the environment variable with its value. -/
def connectionString (environment? : Option String) : Flag :=
  optionalText "connection-string" "CONNECTION_STRING"
    ("Connection string (User=...;Password=...;Database=...;DataSource=...;Port=...), used instead of the configuration file" ++
      " [env: " ++ connectionVariable ++ "=" ++ environment?.getD "" ++ "]")

/-- Whether the report is JSON. -/
def outputJson : Flag := ⟨"output-json", none, .switch, false, "Output JSON result to stdout"⟩

/-- The format of the log. -/
def logFormat : Flag :=
  optionalText "log-format" "LOG_FORMAT" (withDefault "Log format: text or json" defaultLogFormat)

/-- How much is logged. -/
def verbosity : Flag :=
  optionalText "verbosity" "VERBOSITY" (withDefault "Log verbosity: debug, info, warn, error" defaultVerbosity)

/-- Where a script is written. -/
def outputDir : Flag := requiredPath "output-dir" "OUTPUT_DIR" "Directory the script is written to"

/-- Where the script to read lies. -/
def scriptsDir : Flag := requiredPath "scripts-dir" "SCRIPTS_DIR" "Directory containing the *.sql script"

/-- Where a database is created. -/
def dbDir : Flag := requiredPath "db-dir" "DB_DIR" "Directory the database file is created in"

/-- The snapshot to render. -/
def snapshot : Flag := requiredPath "snapshot" "SNAPSHOT" "Snapshot written by export-scripts"

end Flag

/-! ### The commands -/

namespace Command

/-- All commands, in the order of the help. -/
def all : List Command := [exportScripts, updateDb, buildDb, render, split]

/-- The word that names a command. -/
def name : Command → String
  | exportScripts => "export-scripts"
  | updateDb => "update-db"
  | buildDb => "build-db"
  | render => "render"
  | split => "split"

/-- What a command does. -/
def about : Command → String
  | exportScripts => "Export domains, tables and procedures of a database as a DDL script"
  | updateDb => "Apply the script of a directory to an existing database in one transaction"
  | buildDb => "Create a new database and apply the script of a directory to it"
  | render => "Render a JSON schema snapshot as a DDL script (no database needed)"
  | split => "Print the statements a script would be split into (no database needed)"

/-- The flags of a command. -/
def flags : Command → List Flag
  | exportScripts => [.outputDir]
  | updateDb => [.scriptsDir]
  | buildDb => [.dbDir, .scriptsDir]
  | render => [.snapshot, .outputDir]
  | split => [.scriptsDir]

/-- The interface of a command. -/
def interface (c : Command) : Interface :=
  ⟨toolName ++ " " ++ c.name, c.about, c.flags ++ [.help], [], []⟩

end Command

namespace Subcommand

/-- All subcommands, in the order of the help. -/
def all : List Subcommand := Command.all.map run ++ [help]

/-- The word that names a subcommand. -/
def name : Subcommand → String
  | run c => c.name
  | help => "help"

/-- What a subcommand does. -/
def about : Subcommand → String
  | run c => c.about
  | help => "Print this message or the help of the given subcommand(s)"

/-- The interface of a subcommand. -/
def interface : Subcommand → Interface
  | run c => c.interface
  | help =>
    ⟨toolName ++ " " ++ help.name, help.about, [], [("[COMMAND]...", "Print help for the subcommand(s)")], []⟩

end Subcommand

/-- The interface of the tool, with the value of the environment variable if it is set. -/
def tool (environment? : Option String) : Interface :=
  ⟨toolName, "Export, rebuild and update Firebird database metadata",
    [.config, .connectionString environment?, .outputJson, .logFormat, .verbosity, .help, .version], [], Subcommand.all⟩

/-! ### Usage -/

namespace Interface

/-- The flags that an interface cannot do without. -/
def required (i : Interface) : List Flag := i.flags.filter (·.isRequired)

/-- A usage line with the given words behind those of the interface. -/
def usageLine (i : Interface) (words : List String) : String :=
  "Usage: " ++ " ".intercalate (i.words :: words ++ if i.commands.isEmpty then [] else ["<COMMAND>"])

/-- What may follow the words of an interface. -/
def usage (i : Interface) : String :=
  i.usageLine ((if i.flags.any Flag.isOption then ["[OPTIONS]"] else []) ++ i.required.map Flag.shown ++ i.operands.map (·.1))

/-- What may follow, told by the flags in use; with none it is the general usage. -/
def usageOf (i : Interface) (used : List Flag) : String :=
  if used.isEmpty then i.usage
  else i.usageLine ((i.required ++ used.filter fun f => !f.isRequired).map Flag.shown)

/-- The flag of a name. -/
def flag? (i : Interface) (name : String) : Option Flag := i.flags.find? (·.name = name)

/-- The flag of a letter. -/
def flagOfLetter? (i : Interface) (letter : Char) : Option Flag := i.flags.find? (·.letter? = some letter)

/-- The subcommand of a name. -/
def command? (i : Interface) (name : String) : Option Subcommand := i.commands.find? (·.name = name)

end Interface

end SchemaScript.CommandLine
