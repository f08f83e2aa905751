import SchemaScript.Apply.Run
import SchemaScript.Pipeline.Report
import SchemaScript.Script.Select
import SchemaScript.Script.Split

/-!
# Pipeline.Update: from a script to a database

The script of a directory is read, split and applied in one transaction. No file is changed.
-/

namespace SchemaScript

/-- Apply the script of a directory through an executor. -/
def updateDatabase {τ η : Type} (e : Executor τ η) (directory : String) (timing : Timing) :
    Action (World τ) UpdateReport := do
  Action.note .info ("Phase 1: Loading script from " ++ directory)
  let (path, text) ← Script.read directory
  let split := Script.split text
  if let some rest := split.discarded? then
    Action.note .warn ("Discarding unterminated text at end of " ++ path ++ ": '" ++ rest ++ "'")
  Action.note .info ("Split " ++ path ++ " into " ++ toString split.statements.length ++ " statements")
  Action.note .info "Phase 2: Applying statements"
  let report ← World.withPeer (e.apply split.statements)
  Action.note .info ("Update completed: " ++ toString report.executed ++ " statements executed in " ++
    Decimal.fixed 1 timing.seconds ++ "s")
  return ⟨path, split.statements.length, report.executed, report.skipped, split.discarded?.isSome, timing⟩

end SchemaScript
