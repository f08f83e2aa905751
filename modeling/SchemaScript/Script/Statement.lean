import SchemaScript.Text.Blank
import SchemaScript.Text.Letters

/-!
# Script.Statement: one statement of a script

A statement is text without its terminator. Blank statements hold nothing to execute, and `COMMIT` and `ROLLBACK` are left
to the tool, which owns the transaction.
-/

namespace SchemaScript

/-- One statement of a script, without its terminator. -/
structure Statement where
  text : String
  deriving DecidableEq, Repr

namespace Statement

/-- Whether there is nothing to execute. -/
def isBlank (s : Statement) : Bool := Text.allBlank s.text

/-- Whether the statement is a bare `COMMIT` or `ROLLBACK`, in any letter case. -/
def isTransactionControl (s : Statement) : Bool :=
  Text.equalsKeyword (Text.trimmed s.text) "COMMIT" || Text.equalsKeyword (Text.trimmed s.text) "ROLLBACK"

end Statement

end SchemaScript
