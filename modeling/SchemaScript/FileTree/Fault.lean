import SchemaScript.FileTree.SystemError

/-!
# FileTree.Fault: why a file operation failed

A fault has a text and may have a cause. A fault that passes on an error of another kind has the text of that error, so its
cause is what caused that error.
-/

namespace SchemaScript

/-- An error of any other kind: its text, and the texts of the errors behind it, outermost first. -/
structure Reported where
  text : String
  causes : List String

/-- What caused an error, if anything did: the first error behind it, with the others behind that one. -/
def Reported.cause? : Reported → Option Reported
  | ⟨_, []⟩ => none
  | ⟨_, text :: causes⟩ => some ⟨text, causes⟩

/-- What caused an error is smaller than the error. -/
theorem Reported.sizeOf_lt_of_cause? {e cause : Reported} (h : e.cause? = some cause) : sizeOf cause < sizeOf e := by
  obtain ⟨text, _ | ⟨next, causes⟩⟩ := e
  · exact absurd h nofun
  · obtain rfl := Option.some.inj h
    simp only [Reported.mk.sizeOf_spec, List.cons.sizeOf_spec]
    omega

/-- The ways in which reading and writing files fail. -/
inductive FileFault
  /-- The operating system refused, with this error number. -/
  | system (code : Int)
  /-- The bytes read are not UTF-8. -/
  | notUtf8
  /-- A path holds a NUL character. -/
  | nulInPath
  /-- The selected script could not be read. -/
  | unreadable (path : String) (fault : FileFault)
  /-- An error reported by something else, with the texts of its own causes. -/
  | reported (text : String) (causes : List String)

namespace FileFault

/-- The text of a fault. -/
def message : FileFault → String
  | system code => SystemError.message code
  | notUtf8 => "stream did not contain valid UTF-8"
  | nulInPath => "file name contained an unexpected NUL byte"
  | unreadable path fault => "could not read " ++ path ++ ": " ++ fault.message
  | reported text _ => text

/-- What caused a fault. The text of an error reported by something else is that of the fault already, so what caused that
error comes next. -/
def cause? : FileFault → Option Reported
  | reported text causes => (Reported.mk text causes).cause?
  | _ => none

/-- Whether the fault is that nothing was there. -/
def isNotFound : FileFault → Bool
  | system code => code = SystemError.notFound
  | _ => false

end FileFault

end SchemaScript
