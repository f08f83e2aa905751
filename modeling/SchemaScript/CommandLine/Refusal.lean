import SchemaScript.CommandLine.Help

/-!
# CommandLine.Refusal: command lines that ask for no job

Such a command line asks for the help or for the version, or it cannot be understood. A fault is told with a tip where there is
one, and with the usage of the interface at which it was found.
-/

namespace SchemaScript.CommandLine

/-- What may have been meant instead. -/
inductive Tip
  /-- A flag of the same interface. -/
  | flag (name : String)
  /-- A flag of another command. -/
  | flagOf (command name : String)
  /-- Subcommands, the most similar last. -/
  | commands (names : List String)
  /-- The subcommand would be one without the dashes before it. -/
  | withoutDashes (command : String)
  deriving DecidableEq, Repr

/-- The text of a tip, if there is anything to say. -/
def Tip.message? : Tip → Option String
  | flag name => some ("a similar argument exists: '--" ++ name ++ "'")
  | flagOf command name => some ("'" ++ command ++ " --" ++ name ++ "' exists")
  | commands [] => none
  | commands [name] => some ("a similar subcommand exists: '" ++ name ++ "'")
  | commands names => some ("some similar subcommands exist: " ++ ", ".intercalate (names.map fun n => "'" ++ n ++ "'"))
  | withoutDashes command => some ("subcommand '" ++ command ++ "' exists; to use it, remove the '--' before it")

/-- Why a command line cannot be understood. -/
inductive Fault
  /-- A word that means nothing where it stands. -/
  | unexpected (word : String) (tip? : Option Tip)
  /-- A word where a subcommand has to stand. -/
  | unknownCommand (word : String) (similar : List String)
  /-- A value for a flag that takes none. -/
  | needlessValue (flag : Flag) (value : String)
  /-- A flag without its value. -/
  | noValue (flag : Flag)
  | repeated (flag : Flag)
  /-- Flags that the command cannot do without. -/
  | missing (flags : List Flag)
  | noCommand
  deriving DecidableEq, Repr

namespace Fault

/-- The text of a fault. -/
def message : Fault → String
  | unexpected word _ => "unexpected argument '" ++ word ++ "' found"
  | unknownCommand word _ => "unrecognized subcommand '" ++ word ++ "'"
  | needlessValue flag value =>
    "unexpected value '" ++ value ++ "' for '" ++ flag.shown ++ "' found; no more were expected"
  | noValue flag => "a value is required for '" ++ flag.shown ++ "' but none was supplied"
  | repeated flag => "the argument '" ++ flag.shown ++ "' cannot be used multiple times"
  | missing flags =>
    "the following required arguments were not provided:" ++ String.join (flags.map fun f => "\n  " ++ f.shown)
  | noCommand => "'" ++ toolName ++ "' requires a subcommand but one was not provided\n  [subcommands: " ++
    ", ".intercalate (Subcommand.all.map Subcommand.name) ++ "]"

/-- The tip that goes with a fault. -/
def tip? : Fault → Option Tip
  | unexpected _ tip? => tip?
  | unknownCommand _ similar => some (.commands similar)
  | _ => none

/-- A fault as it is told, with the usage if that is of help. -/
def told (f : Fault) (usage? : Option String) : String :=
  "error: " ++ f.message ++
    ((f.tip?.bind Tip.message?).elim "" fun tip => "\n\n  tip: " ++ tip) ++
    (usage?.elim "" ("\n\n" ++ ·)) ++ "\n\nFor more information, try '--help'.\n"

end Fault

/-- Why a command line leads to no job. -/
inductive Refusal
  /-- The help was asked for. -/
  | help (text : String)
  /-- The version was asked for. -/
  | version
  /-- Nothing was asked for, and the help tells what could be. -/
  | nothingAsked (text : String)
  | fault (fault : Fault) (usage? : Option String)
  deriving DecidableEq, Repr

namespace Refusal

/-- What is printed. -/
def text : Refusal → String
  | help text => text
  | version => toolName ++ " " ++ toolVersion ++ "\n"
  | nothingAsked text => text
  | fault f usage? => f.told usage?

/-- Whether the command line was in error. -/
def isError : Refusal → Bool
  | help _ | version => false
  | nothingAsked _ | fault .. => true

/-- The exit code of a command line in error. -/
def usageExitCode : Nat := 2

/-- The exit code. -/
def exitCode (r : Refusal) : Nat := if r.isError then usageExitCode else 0

end Refusal

end SchemaScript.CommandLine
