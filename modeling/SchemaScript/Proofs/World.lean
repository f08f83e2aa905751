import SchemaScript.Proofs.Action
import SchemaScript.World

/-!
# Running work on a world

What work with the peer, work on the files and questions to the files do on a journal. Work with a peer that shows other work on a
part of the peer shows it in the world as well, and the files do not tell the two apart (`World.shows_withPeer`).
-/

namespace SchemaScript.World

variable {σ τ α : Type}

/-- Work with the peer leaves the files as they were. -/
theorem on_withPeer (a : Action τ α) (j : Journal (World τ)) :
    Action.on (withPeer a) j =
      ((Action.on a ⟨j.state.peer, j.log⟩).1,
        ⟨{ j.state with peer := (Action.on a ⟨j.state.peer, j.log⟩).2.state }, (Action.on a ⟨j.state.peer, j.log⟩).2.log⟩) := rfl

/-- Asking the files changes nothing. -/
theorem on_askFiles (f : FileTree → Except Failure α) (j : Journal (World τ)) :
    Action.on (askFiles f) j = (f j.state.files, j) := rfl

/-- Work on the files leaves the files that it leaves of a file tree. -/
theorem on_onFiles (a : FileAction α) (j : Journal (World τ)) :
    Action.on (onFiles a) j =
      (((ExceptT.run a).run j.state.files).1.mapError .file,
        { j with state := { j.state with files := ((ExceptT.run a).run j.state.files).2 } }) := rfl

/-! ## Worlds that show others -/

/-- The world with a part of its peer in place of the peer. -/
def under (view : σ → τ) (w : World σ) : World τ := ⟨w.files, view w.peer⟩

variable {view : σ → τ}

/-- Work with the peer is shown by work with the part of it. -/
theorem shows_withPeer {a : Action σ α} {b : Action τ α} (h : Action.Shows view a b) :
    Action.Shows (under view) (withPeer a) (withPeer b) := by
  intro j
  have hpeer := h ⟨j.state.peer, j.log⟩
  simp only [on_withPeer, under, hpeer]

theorem shows_askFiles (f : FileTree → Except Failure α) : Action.Shows (under view) (askFiles f) (askFiles f) := fun _ => rfl

end SchemaScript.World
