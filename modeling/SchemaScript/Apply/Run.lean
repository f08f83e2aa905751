import SchemaScript.Apply.Executor
import SchemaScript.Script.Statement

/-!
# Apply.Run: all statements of a script or none

The statements of a script run in order inside one transaction. Blank statements, `COMMIT` and `ROLLBACK` are skipped. The
first statement that fails ends the run: the transaction is rolled back and the failure names the statement by its place. A
commit that fails is rolled back as well. A rollback that fails is reported and replaces no failure.
-/

namespace SchemaScript

/-- How many statements of a run were executed and how many were skipped. -/
structure ApplyReport where
  executed : Nat
  skipped : Nat
  deriving DecidableEq, Repr

namespace ApplyReport

/-- The report before the first statement. -/
def zero : ApplyReport := ⟨0, 0⟩

/-- One more statement skipped. -/
def skip (r : ApplyReport) : ApplyReport := { r with skipped := r.skipped + 1 }

/-- One more statement executed. -/
def execute (r : ApplyReport) : ApplyReport := { r with executed := r.executed + 1 }

end ApplyReport

namespace Executor

variable {τ η : Type} (e : Executor τ η)

/-- Roll the transaction back after an error; the text of the rollback's own error, if it fails. -/
def retreat (handle : η) : Action τ (Option String) := do
  Action.note .info "Rolling back transaction"
  match ← Action.outcome (e.rollback handle) with
  | .ok () => return none
  | .error failure =>
    Action.note .error ("Error during rollback: " ++ failure.message)
    return some failure.message

/-- Run one statement: the handle behind it, or the failure after the rollback. -/
def runOne (index : Nat) (s : Statement) (handle : η) : Action τ η := do
  Action.note .debug ("Executing statement " ++ toString index)
  match ← Action.outcome (e.execute s.text handle) with
  | .ok handle => return handle
  | .error failure =>
    Action.note .error ("Statement " ++ toString index ++ " failed: " ++ failure.message)
    let rollback ← e.retreat handle
    throw (.statement index s.text failure.message rollback)

/-- Run statements from a place of the script on. -/
def runFrom (index : Nat) (report : ApplyReport) (handle : η) : List Statement → Action τ (ApplyReport × η)
  | [] => return (report, handle)
  | s :: rest => do
    if s.isBlank then runFrom (index + 1) report.skip handle rest
    else if s.isTransactionControl then
      Action.note .warn ("Skipping statement " ++ toString index ++ ": '" ++ Text.trimmed s.text ++
        "' (transaction is managed by the tool)")
      runFrom (index + 1) report.skip handle rest
    else
      let handle ← e.runOne index s handle
      runFrom (index + 1) report.execute handle rest

/-- Run all statements in one transaction, or none of them. -/
def apply (statements : List Statement) : Action τ ApplyReport := do
  let handle ← e.begin
  let (report, handle) ← e.runFrom 0 .zero handle statements
  match ← Action.outcome (e.commit handle) with
  | .ok handle =>
    Action.note .info ("Transaction committed (" ++ toString report.executed ++ " executed, " ++
      toString report.skipped ++ " skipped)")
    let _ ← Action.outcome (e.release handle)
    return report
  | .error failure =>
    Action.note .error ("Commit failed: " ++ failure.message)
    let _ ← e.retreat handle
    throw failure

end Executor

end SchemaScript
