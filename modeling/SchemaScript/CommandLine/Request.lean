import SchemaScript.CommandLine.Interface

/-!
# CommandLine.Request: what a command line asks for

A request is a job with the settings that hold for every job. It is made of the flags that were given, with the defaults for
the others.
-/

namespace SchemaScript.CommandLine

/-- What is to be done, and where. -/
inductive Job
  /-- Export the database to a script in a directory. -/
  | exportScripts (directory : String)
  /-- Apply the script of a directory. -/
  | updateDb (scripts : String)
  /-- Create a database in a directory and apply the script of another one. -/
  | buildDb (directory scripts : String)
  /-- Render a snapshot to a script in a directory. -/
  | render (snapshot directory : String)
  /-- Print the statements of a directory's script. -/
  | split (scripts : String)
  deriving DecidableEq, Repr

/-- A job with the settings that hold for every job. -/
structure Request where
  config : String
  connectionString? : Option String
  outputJson : Bool
  logFormat : String
  verbosity : String
  job : Job
  deriving DecidableEq, Repr

/-- The paths that a job names. -/
def Job.paths : Job → List String
  | exportScripts directory => [directory]
  | updateDb scripts => [scripts]
  | buildDb directory scripts => [directory, scripts]
  | render snapshot directory => [snapshot, directory]
  | split scripts => [scripts]

/-- Flags with the values that were given for them, in order; the value of a switch is empty. -/
abbrev Given := List (Flag × String)

namespace Given

/-- The value of a flag, if it was given. -/
def value? (g : Given) (f : Flag) : Option String := (g.find? (·.1.name = f.name)).map (·.2)

/-- Whether a flag was given. -/
def holds (g : Given) (f : Flag) : Bool := (g.value? f).isSome

end Given

/-- The job of a command, if its flags were all given. -/
def Command.job? (c : Command) (g : Given) : Option Job :=
  match c with
  | .exportScripts => return .exportScripts (← g.value? .outputDir)
  | .updateDb => return .updateDb (← g.value? .scriptsDir)
  | .buildDb => return .buildDb (← g.value? .dbDir) (← g.value? .scriptsDir)
  | .render => return .render (← g.value? .snapshot) (← g.value? .outputDir)
  | .split => return .split (← g.value? .scriptsDir)

/-- The request of a job under the flags of the tool; the flag for the connection goes before the environment. -/
def Job.request (t : Job) (g : Given) (environment? : Option String) : Request where
  config := (g.value? .config).getD defaultConfig
  connectionString? := (g.value? (.connectionString environment?)).or environment?
  outputJson := g.holds .outputJson
  logFormat := (g.value? .logFormat).getD defaultLogFormat
  verbosity := (g.value? .verbosity).getD defaultVerbosity
  job := t

end SchemaScript.CommandLine
