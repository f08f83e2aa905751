import SchemaScript.FileTree.Fault
import SchemaScript.FileTree.Path

/-!
# FileTree.Basic: files and directories

A file tree holds what lies at each place below a root: a directory or a file with its content. A path starts in the tree's
current directory, or at the root if it starts with a slash. Operations answer as the operating system does; an operation that
fails leaves the tree as it was, except that creating several directories may have created the first of them.

What is left out: links, so that a place is reached in one way but for dots; devices and other special files; owners and permissions,
for which nothing is refused; names that are not UTF-8; and the room on the disk. Nothing but the operations changes the tree.
-/

namespace SchemaScript

/-- What a file holds: text, or bytes that are not UTF-8. -/
inductive Content
  | text (value : String)
  | raw (bytes : List UInt8)
  deriving DecidableEq, Repr

/-- The content of some bytes. -/
def Content.ofBytes (bytes : List UInt8) : Content :=
  match String.fromUTF8? ⟨bytes.toArray⟩ with
  | some value => .text value
  | none => .raw bytes

/-- The bytes of a content. -/
def Content.bytes : Content → List UInt8
  | text value => value.toUTF8.toList
  | raw bytes => bytes

/-- What lies at a place: a directory or a file. -/
inductive Node
  | directory
  | file (content : Content)
  deriving DecidableEq, Repr

/-- A place below the root: the names on the way there. -/
abbrev Place := List String

/-- The files and directories below a root, and the current directory. -/
structure FileTree where
  /-- What lies below the root, each place once. -/
  nodes : List (Place × Node)
  current : Place
  deriving Repr

/-- Work on a file tree that may fail. -/
abbrev FileAction (α : Type) := ExceptT FileFault (StateM FileTree) α

namespace FileTree

/-- The tree that holds nothing but the directories on the way to its current one, which is empty. -/
def fresh (current : Place) : FileTree :=
  ⟨(List.range current.length).map fun n => (current.take (n + 1), .directory), current⟩

/-- What lies at a place. -/
def get? (t : FileTree) (p : Place) : Option Node := if p = [] then some .directory else t.nodes.lookup p

/-- The tree with a node put at a place. -/
def insert (t : FileTree) (p : Place) (n : Node) : FileTree :=
  { t with nodes := t.nodes.filter (·.1 ≠ p) ++ [(p, n)] }

/-- The tree without the node at a place. -/
def erase (t : FileTree) (p : Place) : FileTree := { t with nodes := t.nodes.filter (·.1 ≠ p) }

/-- The names of what lies directly in a directory. -/
def children (t : FileTree) (p : Place) : List String :=
  t.nodes.filterMap fun (q, _) => if q.dropLast = p ∧ q ≠ [] then q.getLast? else none

/-! ### Finding a place -/

/-- The longest name, in bytes. -/
def nameLimit : Nat := 255

/-- The longest path, in bytes. -/
def pathLimit : Nat := 4095

/-- One step from a directory to a part of it, whether or not something lies there. -/
def enter (t : FileTree) (here : Place) (name : String) : Except FileFault Place :=
  if t.get? here ≠ some .directory then
    .error (.system (if (t.get? here).isNone then SystemError.notFound else SystemError.notDirectory))
  else if name = "." then .ok here
  else if name = ".." then .ok here.dropLast
  else if name.utf8ByteSize > nameLimit then .error (.system SystemError.nameTooLong)
  else .ok (here ++ [name])

/-- Steps from a directory, one after the other. -/
def walk (t : FileTree) (here : Place) : List String → Except FileFault Place
  | [] => .ok here
  | name :: names => do (← t.enter here name) |> (t.walk · names)

/-- The parts of a path that can be looked up: an empty path and one with a NUL character cannot. -/
def partsOf (path : String) : Except FileFault (List String) :=
  if path.toList.contains '\x00' then .error .nulInPath
  else if path.utf8ByteSize > pathLimit then .error (.system SystemError.nameTooLong)
  else if path = "" then .error (.system SystemError.notFound)
  else .ok (Path.parts path)

/-- The place where a path starts. -/
def base (t : FileTree) (path : String) : Place := if Path.isAbsolute path then [] else t.current

/-- Whether a path may only lead to a directory: it ends with a slash. -/
def wantsDirectory (path : String) : Bool := path.toList.getLast? = some '/'

/-- The place of a path and what lies there. -/
def locate (t : FileTree) (path : String) : Except FileFault (Place × Node) := do
  let p ← t.walk (t.base path) (← partsOf path)
  match t.get? p with
  | none => .error (.system SystemError.notFound)
  | some (.file c) =>
    if wantsDirectory path then .error (.system SystemError.notDirectory) else .ok (p, .file c)
  | some .directory => .ok (p, .directory)

/-- The directory in which the last part of a path lies, and that part; the directory has to exist. -/
def locateParent (t : FileTree) (path : String) : Except FileFault (Place × String) := do
  let parts ← partsOf path
  let here ← t.walk (t.base path) parts.dropLast
  let name := parts.getLast?.getD "."
  let _ ← t.enter here name
  return (here, name)

/-- Whether a name is one of the two that stand for directories. -/
def isDots (name : String) : Bool := name = "." || name = ".."

/-- Whether a path leads to a directory. -/
def isDirectory (t : FileTree) (path : String) : Bool :=
  match t.locate path with
  | .ok (_, .directory) => true
  | _ => false

/-- Whether a path leads to a file. -/
def isFile (t : FileTree) (path : String) : Bool :=
  match t.locate path with
  | .ok (_, .file _) => true
  | _ => false

/-! ### Reading -/

/-- The text of a file. -/
def readText (t : FileTree) (path : String) : Except FileFault String := do
  match ← t.locate path with
  | (_, .directory) => throw (.system SystemError.isDirectory)
  | (_, .file (.raw _)) => throw .notUtf8
  | (_, .file (.text value)) => return value

/-- The names of what lies in a directory. -/
def list (t : FileTree) (path : String) : Except FileFault (List String) := do
  match ← t.locate path with
  | (p, .directory) => return t.children p
  | (_, .file _) => throw (.system SystemError.notDirectory)

/-- Whether something lies at a path; only its absence counts as no. -/
def hasEntry (t : FileTree) (path : String) : Except FileFault Bool :=
  match t.locate path with
  | .ok _ => .ok true
  | .error (.system code) => if code = SystemError.notFound then .ok false else .error (.system code)
  | .error fault => .error fault

/-! ### Writing -/

/-- The tree after a file was written, created if it was not there. -/
def written (t : FileTree) (path : String) (content : Content) : Except FileFault FileTree := do
  let (here, name) ← t.locateParent path
  if wantsDirectory path ∨ isDots name then throw (.system SystemError.isDirectory)
  match t.get? (here ++ [name]) with
  | some .directory => throw (.system SystemError.isDirectory)
  | _ => return t.insert (here ++ [name]) (.file content)

/-- The tree after a directory was created. -/
def withDirectory (t : FileTree) (path : String) : Except FileFault FileTree := do
  let (here, name) ← t.locateParent path
  if isDots name ∨ (t.get? (here ++ [name])).isSome then throw (.system SystemError.alreadyExists)
  return t.insert (here ++ [name]) .directory

/-- The tree after a file was removed. -/
def removed (t : FileTree) (path : String) : Except FileFault FileTree := do
  let (here, name) ← t.locateParent path
  if isDots name then throw (.system SystemError.isDirectory)
  match t.get? (here ++ [name]) with
  | none => throw (.system SystemError.notFound)
  | some .directory => throw (.system SystemError.isDirectory)
  | some (.file _) =>
    if wantsDirectory path then throw (.system SystemError.notDirectory)
    return t.erase (here ++ [name])

end FileTree

namespace FileAction

/-- Ask the tree. -/
def ask {α : Type} (f : FileTree → Except FileFault α) : FileAction α := do
  match f (← get) with
  | .ok a => return a
  | .error fault => throw fault

/-- Change the tree. -/
def change (f : FileTree → Except FileFault FileTree) : FileAction Unit := do set (← ask f)

/-- Write a text to a file. -/
def write (path text : String) : FileAction Unit := change (·.written path (.text text))

/-- Remove a file. -/
def remove (path : String) : FileAction Unit := change (·.removed path)

/-- Create a directory unless one is there already. -/
def ensureDirectory (path : String) : FileAction Unit := do
  match (← get).withDirectory path with
  | .ok t => set t
  | .error fault => if (← get).isDirectory path then return () else throw fault

/-- Create a directory and the directories above it that are missing; the fuel bounds how many there are. -/
def createDirectoriesFrom : Nat → String → FileAction Unit
  | 0, path => ensureDirectory path
  | fuel + 1, path => do
    if path = "" then return ()
    match (← get).withDirectory path with
    | .ok t => set t
    | .error fault =>
      if fault.isNotFound then
        match Path.parent? path with
        | none => throw (.reported "failed to create whole tree" [])
        | some parent =>
          createDirectoriesFrom fuel parent
          ensureDirectory path
      else if (← get).isDirectory path then return () else throw fault

/-- Create a directory and the directories above it that are missing. -/
def createDirectories (path : String) : FileAction Unit := createDirectoriesFrom (path.length + 1) path

end FileAction

end SchemaScript
