import SchemaScript.Text.Letters
import SchemaScript.Text.Search

/-!
# FileTree.Path: paths as texts

A path is a text with slashes between its parts. Joining keeps the texts as they are; the parent of a path drops its last
part together with slashes and single dots that mean nothing.
-/

namespace SchemaScript.Path

/-- Whether a path starts at the root of the system. -/
def isAbsolute (path : String) : Bool := path.toList.head? = some '/'

/-- A path below a directory; an absolute path replaces the directory. -/
def join (directory name : String) : String :=
  if isAbsolute name then name
  else if directory = "" ∨ directory.toList.getLast? = some '/' then directory ++ name
  else directory ++ "/" ++ name

/-- The parts of a path between its slashes, without the empty ones. -/
def parts (path : String) : List String :=
  ((Text.splitOn '/' path.toList).filter (!·.isEmpty)).map String.ofList

/-- A reversed path without the slashes and single dots at its end; each step takes fuel. -/
def dropIdleReversed : Nat → List Char → List Char
  | 0, cs => cs
  | _ + 1, ['/'] => ['/']
  | fuel + 1, '/' :: cs => dropIdleReversed fuel cs
  | fuel + 1, '.' :: '/' :: cs => dropIdleReversed fuel ('/' :: cs)
  | _ + 1, cs => cs

/-- A path, reversed, without the slashes and single dots at its end. -/
def trimmedReversed (cs : List Char) : List Char := dropIdleReversed (cs.length + 1) cs

/-- The path without its last part; the empty path and the root have none. -/
def parent? (path : String) : Option String :=
  match trimmedReversed path.toList.reverse with
  | [] => none
  | ['/'] => none
  | cs => some (String.ofList (trimmedReversed (cs.dropWhile (· ≠ '/'))).reverse)

/-- What stands behind the last dot of a file name; a dot at the start makes no extension. -/
def extension? (name : String) : Option String :=
  let cs := name.toList
  let before := (cs.reverse.dropWhile (· ≠ '.')).tail
  if '.' ∉ cs ∨ before.isEmpty ∨ name = ".." then none
  else some (String.ofList (cs.reverse.takeWhile (· ≠ '.')).reverse)

/-- Whether a file name has an extension, in any ASCII letter case. -/
def hasExtension (name extension : String) : Bool := (extension? name).any (Text.equalsKeyword · extension)

end SchemaScript.Path
