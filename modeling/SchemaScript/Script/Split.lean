import SchemaScript.Script.Line
import SchemaScript.Script.Statement
import SchemaScript.Text.Search

/-!
# Script.Split: the statements of a script

A script is read line by line. A statement is complete when the text gathered so far ends with the terminator in effect, the
semicolon at first. A line that starts with `SET TERM` is a directive: it belongs to no statement and may change the
terminator to the caret or back. Text behind the last terminator completes no statement and is given back as discarded.
-/

namespace SchemaScript.Script

/-- The character that ends a statement. -/
inductive Terminator
  | semicolon
  | caret
  deriving DecidableEq, Repr

namespace Terminator

/-- The terminator as a character. -/
def symbol : Terminator → Char
  | semicolon => ';'
  | caret => '^'

/-- The terminator after a directive: a caret without a semicolon, or before one, selects the caret, and a caret behind a
semicolon restores the semicolon; any other wording changes nothing. -/
def after (t : Terminator) (directive : List Char) : Terminator :=
  if '^' ∈ directive ∧ ';' ∉ directive then .caret
  else if Text.contains ['^', ' ', ';'] directive then .caret
  else if Text.contains [';', ' ', '^'] directive then .semicolon
  else t

end Terminator

/-- The words that start a directive. -/
def directiveKeyword : String := "SET TERM"

/-- Whether a trimmed line is a directive. -/
def isDirective (line : List Char) : Bool := Text.startsWithLetters line directiveKeyword.toList

/-- What a splitter knows between two lines: the terminator in effect and the text gathered since the last statement. -/
structure SplitState where
  terminator : Terminator
  pending : List Char
  deriving DecidableEq, Repr

/-- The statement of a complete text: what stands before its last terminator, unless that is blank. -/
def statementOf? (t : Terminator) (complete : List Char) : Option Statement :=
  let body := Text.trim (Text.beforeLast t.symbol (Text.trim complete))
  if body.isEmpty then none else some ⟨String.ofList body⟩

namespace SplitState

/-- The state at the start of a script. -/
def initial : SplitState := ⟨.semicolon, []⟩

/-- Whether the gathered text ends with the terminator. -/
def isComplete (s : SplitState) : Bool := (Text.trimEnd s.pending).getLast? = some s.terminator.symbol

/-- The state with a line added to the gathered text. -/
def gather (s : SplitState) (line : List Char) : SplitState := { s with pending := s.pending ++ line ++ ['\n'] }

/-- Read one line: the state behind it and the statement that it completes. -/
def step (s : SplitState) (line : List Char) : SplitState × Option Statement :=
  let directive := Text.trim line
  if isDirective directive then ({ s with terminator := s.terminator.after directive }, none)
  else
    let gathered := s.gather line
    if gathered.isComplete then ({ gathered with pending := [] }, statementOf? gathered.terminator gathered.pending)
    else (gathered, none)

/-- The gathered text at the end of a script, which completes no statement; nothing if it is blank. -/
def rest? (s : SplitState) : Option String :=
  let rest := Text.trim s.pending
  if rest.isEmpty then none else some (String.ofList rest)

/-- Read lines from a state: the statements that they complete and the state behind them. -/
def run (s : SplitState) : List (List Char) → List Statement × SplitState
  | [] => ([], s)
  | line :: lines =>
    let (s', statement?) := s.step line
    let (statements, last) := run s' lines
    (statement?.toList ++ statements, last)

end SplitState

/-- The statements of a script and the text behind the last of them. -/
structure Split where
  statements : List Statement
  discarded? : Option String
  deriving DecidableEq, Repr

/-- Split a script into its statements. -/
def split (script : String) : Split :=
  let (statements, last) := SplitState.initial.run (lines script.toList)
  ⟨statements, last.rest?⟩

end SchemaScript.Script
