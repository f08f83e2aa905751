import SchemaScript.Action
import SchemaScript.FileTree.Basic

/-!
# World: files and a peer

Commands work on files and with a peer, such as a database or a rehearsal of one. Work on the files does not touch the peer,
and work with the peer does not touch the files.
-/

namespace SchemaScript

/-- The files and the peer that a command works with. -/
structure World (τ : Type) where
  files : FileTree
  peer : τ

namespace World

variable {τ α : Type}

/-- Work with the peer. -/
def withPeer (a : Action τ α) : Action (World τ) α := Action.within World.peer (fun p w => { w with peer := p }) a

/-- Work on the files. -/
def onFiles (a : FileAction α) : Action (World τ) α :=
  ExceptT.mk fun j =>
    let (r, t) := (ExceptT.run a).run j.state.files
    (r.mapError .file, { j with state := { j.state with files := t } })

/-- Ask the files. -/
def askFiles (f : FileTree → Except Failure α) : Action (World τ) α := do
  Action.ofExcept (f (← Action.look).files)

end World

end SchemaScript
