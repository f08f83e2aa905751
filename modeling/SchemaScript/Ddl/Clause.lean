import SchemaScript.Text.Blank
import SchemaScript.Text.Letters
import SchemaScript.Text.Search

/-!
# Ddl.Clause: the optional parts of a definition

A clause is either absent or a text that starts with a space, so that clauses are appended one after the other. A default or
a check that already carries its keyword is kept as it is; otherwise the keyword is put in front.
-/

namespace SchemaScript.Ddl

/-- The keyword of a default. -/
def defaultKeyword : String := "DEFAULT"

/-- The keyword of a check. -/
def checkKeyword : String := "CHECK"

/-- The character that ends the body of a procedure. -/
def bodyTerminator : Char := '^'

/-- A text behind its keyword; no text, no clause. -/
def keywordClause? (keyword : String) (text : Option String) : Option String :=
  (text.bind Text.nonEmpty?).map fun value =>
    if Text.startsWithKeyword value keyword then " " ++ value else " " ++ keyword ++ " " ++ value

/-- The clause of a default. -/
def defaultClause? (text : Option String) : Option String := keywordClause? defaultKeyword text

/-- The clause of a check. -/
def checkClause? (text : Option String) : Option String := keywordClause? checkKeyword text

/-- The clause that forbids NULL. -/
def notNullClause? (notNull : Bool) : Option String := if notNull then some " NOT NULL" else none

/-- The terminator that a procedure's body still needs: none if the body ends with it already. -/
def missingTerminator? (body : String) : Option String :=
  if (Text.trimEnd body.toList).getLast? = some bodyTerminator then none else some bodyTerminator.toString

end SchemaScript.Ddl
