import SchemaScript.Database.Client

/-!
# Database.Writer: statements in a transaction of a database

The handle of a transaction knows whether the transaction is still open. A commit that succeeds closes it, a rollback closes it
before it is sent, and a handle that is released while the transaction is open rolls it back.
-/

namespace SchemaScript

/-- The handle of a transaction. -/
structure Transaction where
  isOpen : Bool
  deriving DecidableEq, Repr

namespace Client

variable {τ : Type} (c : Client τ)

/-- Roll an abandoned transaction back and report it; an error of the rollback is reported as well. -/
def abandon : Action τ Unit := do
  Action.note .warn "Transaction dropped while open, rolling back"
  match ← Action.outcome (c.rollback.toAction .client) with
  | .ok () => return ()
  | .error failure => Action.note .warn ("Rollback of dropped transaction failed: " ++ failure.message)

/-- Let go of a handle: a transaction that is still open is abandoned. -/
def letGo (handle : Transaction) : Action τ Unit := if handle.isOpen then c.abandon else return ()

/-- Roll a transaction back. Its handle is closed before the call is sent and let go of behind it, whether the call failed or
not. -/
def rollBack (handle : Transaction) : Action τ Unit := do
  let closed : Transaction := { handle with isOpen := false }
  let answer ← Action.outcome (c.rollback.toAction .client)
  c.letGo closed
  Action.ofExcept answer

/-- The executor of a connection. -/
def executor : Executor τ Transaction where
  begin := do
    c.begin.toAction .client
    Action.note .debug "Transaction started"
    return ⟨true⟩
  execute sql handle := do
    (c.execute sql).toAction .client
    return handle
  commit handle := do
    c.commit.toAction .client
    return { handle with isOpen := false }
  rollback := c.rollBack
  release := c.letGo

end Client

/-- Connect to the database that is to be changed. -/
def Connector.openWriter {τ : Type} (k : Connector τ) (c : Connection) : Action (World τ) Unit := do
  k.connect c
  Action.note .info ("Connected to Firebird target: " ++ c.target)

end SchemaScript
