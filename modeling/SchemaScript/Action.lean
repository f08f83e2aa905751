import SchemaScript.Failure
import SchemaScript.Log

/-!
# Action: work that reports, changes a state and may fail

An action on a state `σ` reads and changes the state, writes to the log, and gives a result or a failure. What it did before
a failure stays done: state and log are those of the moment at which it failed.
-/

namespace SchemaScript

/-- A state and the log of what happened to it. -/
structure Journal (σ : Type) where
  state : σ
  log : List Entry

/-- Work on a state that reports and may fail. -/
abbrev Action (σ α : Type) := ExceptT Failure (StateM (Journal σ)) α

namespace Action

variable {σ τ α : Type}

/-- Run an action on a state with nothing reported yet. -/
def start (a : Action σ α) (s : σ) : Except Failure α × Journal σ := (ExceptT.run a).run ⟨s, []⟩

/-- Report an event. -/
def note (level : Level) (text : String) : Action σ Unit :=
  modify fun j => { j with log := j.log ++ [⟨level, text⟩] }

/-- The current state. -/
def look : Action σ σ := return (← get).state

/-- Replace the state. -/
def put (s : σ) : Action σ Unit := modify fun j => { j with state := s }

/-- A result or a failure that needs no state. -/
def ofExcept (r : Except Failure α) : Action σ α := ExceptT.mk (pure r)

/-- The outcome of an action as a value: the failure does not stop what follows. -/
def outcome (a : Action σ α) : Action σ (Except Failure α) := ExceptT.mk (Except.ok <$> ExceptT.run a)

/-- Work on a part of the state: `view` finds the part, `set` puts the changed part back. -/
def within (view : σ → τ) (set : τ → σ → σ) (a : Action τ α) : Action σ α :=
  ExceptT.mk fun j =>
    let (r, k) := (ExceptT.run a).run ⟨view j.state, j.log⟩
    (r, ⟨set k.state j.state, k.log⟩)

/-- Work that only reports, on any state. -/
def reporting (a : Action Unit α) : Action σ α := within (fun _ => ()) (fun _ s => s) a

end Action

end SchemaScript
