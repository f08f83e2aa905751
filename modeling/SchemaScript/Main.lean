import SchemaScript.CommandLine.Run
import Std.Time.Format

/-!
# Main: the tool

The files that a command line names are read into a tree, the command runs on the tree, and what it changed is written back.
This build has no database support.
-/

namespace SchemaScript.Main

/-- A place as a path of the system. -/
def systemPath (p : Place) : String := "/" ++ "/".intercalate p

/-- The places on the way along some names. -/
def placesAlong (here : Place) : List String → List Place
  | [] => [here]
  | "." :: names => placesAlong here names
  | ".." :: names => here :: placesAlong here.dropLast names
  | name :: names => here :: placesAlong (here ++ [name]) names

/-- A tree with what lies at a place of the system, and the names in it if that is a directory. -/
def readPlace (t : FileTree) (p : Place) : IO (FileTree × List String) := do
  let path := (← IO.currentDir) / systemPath p
  if ← path.isDir then
    return (t.insert p .directory, (← path.readDir).toList.map (·.fileName))
  else if ← path.pathExists then
    return (t.insert p (.file (.ofBytes (← IO.FS.readBinFile path).toList)), [])
  else return (t, [])

/-- A tree with everything on the way along a path, and with what lies in the directory to which it leads. -/
def readPath (t : FileTree) (path : String) : IO FileTree := do
  let places := placesAlong (t.base path) (Path.parts path)
  let t ← places.foldlM (fun t p => return (← readPlace t p).1) t
  let last := places.getLast?.getD []
  let (t, names) ← readPlace t last
  names.foldlM (fun t name => return (← readPlace t (last ++ [name])).1) t

/-- The part of the system's files that some paths lead to. -/
def readFiles (paths : List String) : IO FileTree := do
  let current := Path.parts (← IO.currentDir).toString
  paths.foldlM readPath ⟨[], current⟩

/-- Write back what a command changed. -/
def writeChanges (before after : FileTree) : IO Unit := do
  for (p, n) in after.nodes do
    if before.get? p ≠ some n then
      match n with
      | .directory => IO.FS.createDirAll (systemPath p)
      | .file content => IO.FS.writeBinFile (systemPath p) ⟨content.bytes.toArray⟩
  for (p, _) in before.nodes do
    if (after.get? p).isNone then IO.FS.removeFile (systemPath p)

/-- The current time. -/
def now : IO String := do
  let time := Std.Time.DateTime.ofTimestamp (← Std.Time.Timestamp.now) Std.Time.TimeZone.ZoneRules.UTC
  return time.format "uuuu-MM-dd'T'HH:mm:ss.SSSSSS'Z'"

/-- Run the tool; its time is the time that it takes to read its files. -/
def run (words : List String) : IO UInt32 := do
  let environment? ← IO.getEnv CommandLine.connectionVariable
  let startedAt ← now
  let start ← IO.monoMsNow
  let paths := match CommandLine.Request.ofWords environment? words with
    | .ok r => r.config :: r.job.paths
    | .error _ => []
  let files ← readFiles paths
  let timing : Timing := ⟨startedAt, (← IO.monoMsNow) - start⟩
  let support? : Option (Connector Unit) := none
  let outcome := CommandLine.run support? environment? timing words ⟨files, ()⟩
  let time ← now
  for e in outcome.log do
    IO.eprintln (CommandLine.Logging.line outcome.format time e)
  writeChanges files outcome.world.files
  IO.print outcome.output
  IO.eprint outcome.errors
  return outcome.exitCode.toUInt32

end SchemaScript.Main

/-- Run the tool. -/
def main (words : List String) : IO UInt32 := SchemaScript.Main.run words
