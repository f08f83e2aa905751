import SchemaScript.Action

/-!
# Apply.Executor: what runs statements

An executor opens a transaction on a peer of type `τ` and works in it through a handle of type `η`. A failed commit leaves the
transaction open, so that it can still be rolled back; a rollback uses the handle up; a handle that is not used up is released.
-/

namespace SchemaScript

/-- The operations of something that runs statements inside one transaction. -/
structure Executor (τ η : Type) where
  /-- Open a transaction. -/
  begin : Action τ η
  /-- Run one statement in the transaction. -/
  execute : String → η → Action τ η
  /-- Make the transaction's changes last. -/
  commit : η → Action τ η
  /-- Take the transaction's changes back. -/
  rollback : η → Action τ Unit
  /-- Let go of a handle that no rollback used up. -/
  release : η → Action τ Unit

end SchemaScript
