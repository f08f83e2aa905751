import SchemaScript.Apply.Executor
import SchemaScript.Catalog.Query
import SchemaScript.Config.Basic
import SchemaScript.Config.Charset
import SchemaScript.World

/-!
# Database.Client: talking to a database server

A client answers the queries of the catalog and runs statements in a transaction on the connection that is open. A connector
opens connections and creates databases; a server may keep its databases among the files. Each call may fail with an error of
the client.
-/

namespace SchemaScript

/-- A call of a client. -/
abbrev Exchange (τ α : Type) := ExceptT ClientFault (StateM τ) α

/-- The calls on an open connection. -/
structure Client (τ : Type) where
  query : (q : Catalog.Query) → Exchange τ (List q.Row)
  begin : Exchange τ Unit
  execute : String → Exchange τ Unit
  commit : Exchange τ Unit
  rollback : Exchange τ Unit

/-- The calls that need no connection, and the client of the connection that they leave open. -/
structure Connector (τ : Type) where
  /-- Open a connection. -/
  attach : Connection → Charset → Exchange (World τ) Unit
  /-- Create a database with pages of a size. -/
  create : Connection → Charset → UInt32 → Exchange (World τ) Unit
  client : Client τ

namespace Exchange

/-- A call as work that fails with the failure made of the client's error. -/
def toAction {σ α : Type} (toFailure : ClientFault → Failure) (x : Exchange σ α) : Action σ α :=
  ExceptT.mk fun j =>
    let (r, s) := (ExceptT.run x).run j.state
    (r.mapError toFailure, { j with state := s })

end Exchange

namespace Connector

/-- Open a connection; its character set has to be known. -/
def connect {τ : Type} (k : Connector τ) (c : Connection) : Action (World τ) Unit := do
  let charset ← Action.ofExcept (Charset.ofName c.charset)
  (k.attach c charset).toAction .client

end Connector

end SchemaScript
