import SchemaScript.Apply.Executor

/-!
# Apply.Rehearsal: an executor without a database

A rehearsal keeps the statements of an open transaction in its handle and adds them to the committed ones when the
transaction commits. It notes every call, and can be told which calls fail.
-/

namespace SchemaScript

/-- Which calls of a rehearsal fail, and with what kind of failure. -/
structure Rehearsal.Settings where
  /-- Statements that start with this text fail. -/
  failOn? : Option String
  /-- The failure of a reason. -/
  failure : String → Failure
  failBegin : Bool
  failCommit : Bool
  failRollback : Bool

/-- The state of a rehearsal: its settings, the calls it took and the statements committed so far. -/
structure Rehearsal where
  settings : Rehearsal.Settings
  calls : List String
  committed : List String

namespace Rehearsal

/-- Settings under which nothing fails. -/
def Settings.quiet : Settings := ⟨none, .database, false, false, false⟩

/-- A rehearsal that took no calls yet. -/
def start (settings : Settings) : Rehearsal := ⟨settings, [], []⟩

/-- Note a call. -/
def record (call : String) : Action Rehearsal Unit := do
  let r ← Action.look
  Action.put { r with calls := r.calls ++ [call] }

/-- Fail with a reason if asked to. -/
def failIf (condition : Bool) (reason : String) : Action Rehearsal Unit := do
  if condition then throw ((← Action.look).settings.failure reason)

/-- Whether a statement fails under the settings. -/
def Settings.refuses (s : Settings) (sql : String) : Bool := s.failOn?.any fun start => start.toList.isPrefixOf sql.toList

/-- The executor of a rehearsal; its handle is the list of the transaction's statements. -/
def executor : Executor Rehearsal (List String) where
  begin := do
    failIf (← Action.look).settings.failBegin "connection refused"
    record "begin"
    return []
  execute sql statements := do
    record ("exec:" ++ sql)
    failIf ((← Action.look).settings.refuses sql) ("cannot execute: " ++ sql)
    return statements ++ [sql]
  commit statements := do
    record "commit"
    failIf (← Action.look).settings.failCommit "commit failed"
    let r ← Action.look
    Action.put { r with committed := r.committed ++ statements }
    return []
  rollback _ := do
    record "rollback"
    failIf (← Action.look).settings.failRollback "rollback failed"
  release _ := return ()

end Rehearsal

end SchemaScript
