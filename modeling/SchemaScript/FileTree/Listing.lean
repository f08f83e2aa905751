import SchemaScript.FileTree.Basic

/-!
# FileTree.Listing: everything in the current directory

The listing names every file and directory below the current directory, and what else lies beside the current directory. It is
sorted by path, and directories end with a slash.
-/

namespace SchemaScript.FileTree

/-- Names joined by slashes, with a slash at the end for a directory. -/
def shown (names : Place) : Node → String
  | .directory => String.intercalate "/" names ++ "/"
  | .file _ => String.intercalate "/" names

/-- How a place is listed, if it is. -/
def listed? (t : FileTree) (p : Place) (n : Node) : Option (String × Node) :=
  if t.current.isPrefixOf p then
    let below := p.drop t.current.length
    if below.isEmpty then none else some (shown below n, n)
  else if p.dropLast = t.current.dropLast then some (shown (".." :: p.drop (p.length - 1)) n, n)
  else none

/-- The listing of a tree. -/
def listing (t : FileTree) : List (String × Node) :=
  (t.nodes.filterMap fun (p, n) => t.listed? p n).mergeSort fun a b => a.1 ≤ b.1

end SchemaScript.FileTree
