import SchemaScript.Apply.Run
import SchemaScript.Proofs.Action

/-!
# Watching an executor

A watched executor does what the executor does and keeps the calls that it took, each with its failure if it failed. An executor
whose calls show those of another one runs statements as the other one does (`Executor.Shows.apply`), and a watched executor shows
the executor. So watching changes neither the result of a run nor what the run does to the peer and the log
(`Executor.watched_apply`), and the calls that a run makes are those that the watched run keeps (`Executor.events`). Letting go of a
handle is not a call.
-/

namespace SchemaScript

/-- A call to an executor. -/
inductive Executor.Call
  | begin
  | execute (sql : String)
  | commit
  | rollback
  deriving DecidableEq, Repr

/-- A call and the failure that it ended with, if it failed. -/
structure Executor.Event where
  call : Executor.Call
  failure? : Option Failure

/-- A peer and the calls made to it so far. -/
structure Watched (τ : Type) where
  peer : τ
  events : List Executor.Event

namespace Watched

variable {τ η α β : Type}

/-- The journal of the peer alone. -/
def unwatched (j : Journal (Watched τ)) : Journal τ := ⟨j.state.peer, j.log⟩

/-- The failure of a result. -/
def failure? : Except Failure α → Option Failure
  | .ok _ => none
  | .error f => some f

/-- Another result makes no other failure. -/
@[simp] theorem failure?_map (f : α → β) (r : Except Failure α) : failure? (r.map f) = failure? r := by
  cases r <;> rfl

/-- Work on the peer as one call. -/
def watch (call : Executor.Call) (a : Action τ α) : Action (Watched τ) α :=
  ExceptT.mk fun j =>
    let (r, k) := Action.on a (unwatched j)
    (r, ⟨⟨k.state, j.state.events ++ [⟨call, failure? r⟩]⟩, k.log⟩)

/-- Work on the peer that is not a call. -/
def aside (a : Action τ α) : Action (Watched τ) α := Action.within Watched.peer (fun t w => ⟨t, w.events⟩) a

end Watched

namespace Executor

/-- The executor that keeps the calls made to it. -/
def watched {τ η : Type} (e : Executor τ η) : Executor (Watched τ) η where
  begin := Watched.watch .begin e.begin
  execute sql handle := Watched.watch (.execute sql) (e.execute sql handle)
  commit handle := Watched.watch .commit (e.commit handle)
  rollback handle := Watched.watch .rollback (e.rollback handle)
  release handle := Watched.aside (e.release handle)

/-- The calls that running all statements makes, in order. -/
def events {τ η : Type} (e : Executor τ η) (ss : List Statement) (s : τ) : List Event :=
  (Action.start (e.watched.apply ss) ⟨s, []⟩).2.state.events

/-- The calls that running all statements makes behind what was reported before, in order. -/
def eventsBehind {τ η : Type} (e : Executor τ η) (log : List Entry) (ss : List Statement) (s : τ) : List Event :=
  (Action.on (e.watched.apply ss) ⟨⟨s, []⟩, log⟩).2.state.events

end Executor

namespace Watched

variable {τ η α β : Type}

/-- Work on a watched peer that does to the peer and the log what other work does without the watch. -/
def Mirrors (a : Action (Watched τ) α) (b : Action τ α) : Prop :=
  ∀ j, Action.on b (unwatched j) = ((Action.on a j).1, unwatched (Action.on a j).2)

/-- Work that is not a call does to the peer what it does without the watch. -/
theorem mirrors_aside (a : Action τ α) : Mirrors (aside a) a := fun _ => rfl

/-- A call does to the peer what it does without the watch. -/
theorem mirrors_watch (call : Executor.Call) (a : Action τ α) : Mirrors (watch call a) a := fun _ => rfl

end Watched

namespace Executor

variable {σ τ η : Type}

/-- An executor on a state that does to the part that `view` shows, and to the log, what another executor does to that part alone. -/
structure Shows (view : σ → τ) (e : Executor σ η) (e' : Executor τ η) : Prop where
  begin : Action.Shows view e.begin e'.begin
  execute (sql : String) (handle : η) : Action.Shows view (e.execute sql handle) (e'.execute sql handle)
  commit (handle : η) : Action.Shows view (e.commit handle) (e'.commit handle)
  rollback (handle : η) : Action.Shows view (e.rollback handle) (e'.rollback handle)
  release (handle : η) : Action.Shows view (e.release handle) (e'.release handle)

namespace Shows

variable {view : σ → τ} {e : Executor σ η} {e' : Executor τ η}

theorem retreat (h : e.Shows view e') (handle : η) : Action.Shows view (e.retreat handle) (e'.retreat handle) := by
  unfold Executor.retreat
  refine .bind (.note _ _) fun _ => .bind (h.rollback _).outcome fun r => ?_
  cases r with
  | ok => exact .pure _
  | error f => exact .bind (.note _ _) fun _ => .pure _

theorem runOne (h : e.Shows view e') (index : Nat) (s : Statement) (handle : η) :
    Action.Shows view (e.runOne index s handle) (e'.runOne index s handle) := by
  unfold Executor.runOne
  refine .bind (.note _ _) fun _ => .bind (h.execute _ _).outcome fun r => ?_
  cases r with
  | ok => exact .pure _
  | error f => exact .bind (.note _ _) fun _ => .bind (h.retreat handle) fun _ => .throw _

/-- Running statements from a place on is shown, by induction over the statements. -/
theorem runFrom (h : e.Shows view e') (ss : List Statement) : ∀ (index : Nat) (report : ApplyReport) (handle : η),
    Action.Shows view (e.runFrom index report handle ss) (e'.runFrom index report handle ss) := by
  induction ss with
  | nil => exact fun _ _ _ => .pure _
  | cons s rest ih =>
    intro index report handle
    unfold Executor.runFrom
    split
    · exact ih _ _ _
    split
    · exact .bind (.note _ _) fun _ => ih _ _ _
    · exact .bind (h.runOne index s handle) fun _ => ih _ _ _

/-- Running statements shows what running them on the part shows. -/
theorem apply (h : e.Shows view e') (ss : List Statement) : Action.Shows view (e.apply ss) (e'.apply ss) := by
  unfold Executor.apply
  refine .bind h.begin fun handle => .bind (h.runFrom ss _ _ _) fun p => .bind (h.commit _).outcome fun r => ?_
  cases r with
  | ok => exact .bind (.note _ _) fun _ => .bind (h.release _).outcome fun _ => .pure _
  | error f => exact .bind (.note _ _) fun _ => .bind (h.retreat _) fun _ => .throw _

end Shows

open Watched

variable (e : Executor τ η)

/-- A watched executor shows the executor. -/
theorem watched_shows : e.watched.Shows Watched.peer e where
  begin := mirrors_watch _ _
  execute _ _ := mirrors_watch _ _
  commit _ := mirrors_watch _ _
  rollback _ := mirrors_watch _ _
  release _ := mirrors_aside _

/-- Watching changes neither the result of a run nor what it does to the peer and the log. -/
theorem watched_apply (ss : List Statement) : Mirrors (e.watched.apply ss) (e.apply ss) := e.watched_shows.apply ss

end Executor

end SchemaScript
