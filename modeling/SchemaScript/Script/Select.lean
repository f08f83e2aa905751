import SchemaScript.World

/-!
# Script.Select: the script of a directory

The script of a directory is the file with the extension `sql`, in any letter case, whose name comes first byte by byte.
-/

namespace SchemaScript.Script

/-- The extension of scripts. -/
def scriptExtension : String := "sql"

/-- Whether a name in a directory is a script's. -/
def isScript (t : FileTree) (directory name : String) : Bool :=
  Path.hasExtension name scriptExtension && t.isFile (Path.join directory name)

/-- The first of some names, compared byte by byte; UTF-8 keeps the order of the characters. -/
def first? : List String → Option String
  | [] => none
  | name :: rest =>
    match first? rest with
    | none => some name
    | some other => some (if other < name then other else name)

/-- The path of a directory's script. -/
def find (t : FileTree) (directory : String) : Except Failure String := do
  let names ← (t.list directory).mapError .file
  match first? (names.filter (isScript t directory)) with
  | some name => return Path.join directory name
  | none => throw (.noScript directory)

/-- The path of a directory's script and its text. -/
def load (t : FileTree) (directory : String) : Except Failure (String × String) := do
  let path ← find t directory
  let text ← (t.readText path).mapError fun fault => .file (.unreadable path fault)
  return (path, text)

/-- Load the script of a directory and report it. -/
def read {τ : Type} (directory : String) : Action (World τ) (String × String) := do
  let (path, text) ← World.askFiles (load · directory)
  Action.note .debug ("Loaded script " ++ path ++ " (" ++ toString text.utf8ByteSize ++ " bytes)")
  return (path, text)

end SchemaScript.Script
