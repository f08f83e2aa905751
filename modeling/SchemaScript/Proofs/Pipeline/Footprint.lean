import SchemaScript.Proofs.FileTree.Grow
import SchemaScript.Proofs.Pipeline.Export

/-!
# What an export touches

Whether an export succeeds or fails, and wherever it fails, the files have grown by its own outputs at most: directories that were
missing on the way to its directory, and directly in it the script and the snapshot if the options ask for one
(`exportScripts_touches_outputs`). Accepted options name the script by a plain name, which names a place directly in any directory, so
no such name leads elsewhere.
-/

namespace SchemaScript

open FileTree (GrowsWithin)
open SchemaScript.Action (Preserves)

variable {τ : Type} {dirs files : Place → Prop} {t : FileTree}

/-- Work on the files after which they have grown, wherever they had grown before. -/
theorem World.onFiles_grows {α : Type} {a : FileAction α}
    (h : ∀ t', GrowsWithin dirs files t t' → GrowsWithin dirs files t' ((ExceptT.run a).run t').2) :
    Preserves (fun w : World τ => GrowsWithin dirs files t w.files) (World.onFiles a) :=
  fun j hj => hj.trans (h j.state.files hj)

/-- Work with the peer leaves the files as they were. -/
theorem World.withPeer_grows {α : Type} (a : Action τ α) :
    Preserves (fun w : World τ => GrowsWithin dirs files t w.files) (World.withPeer a) :=
  fun _ hj => hj

/-- Writing a text grows a tree at the place that the path names, whether or not it succeeds. -/
theorem FileAction.write_grows {path text : String} {t' : FileTree} (h : files (t'.named path)) :
    GrowsWithin dirs files t' ((ExceptT.run (write path text)).run t').2 := by
  rw [write, run_change]
  cases hwritten : t'.written path (.text text) with
  | error fault => exact .refl t'
  | ok t'' => exact (FileTree.written_grows hwritten).weaken (fun _ hp => hp) fun p hp => hp ▸ h

namespace ExportOptions

/-- The names of the files that an export with some options writes. -/
def Writes (options : ExportOptions) (name : String) : Prop :=
  name = options.fileName ∨ options.jsonSnapshot = true ∧ name = snapshotName

/-- The places of those files directly in a directory. -/
def Outputs (options : ExportOptions) (here p : Place) : Prop := ∃ name, options.Writes name ∧ p = here ++ [name]

/-- Accepted options name every file by a plain name. -/
theorem Writes.isPlain {options : ExportOptions} (hoptions : options.defect? = none) {name : String} (h : options.Writes name) :
    FileTree.IsPlain name := by
  rcases h with rfl | ⟨-, rfl⟩
  · exact options.isPlain_of_defect? hoptions
  · exact isPlain_snapshotName

end ExportOptions

variable {directory : String} {options : ExportOptions}

/-- A file of an export is written directly in its directory. -/
theorem write_output_grows (hoptions : options.defect? = none) {name : String} (hname : options.Writes name) (text : String) :
    Preserves (fun w : World τ => GrowsWithin (t.OnWay directory) (options.Outputs (t.named directory)) t w.files)
      (World.onFiles (FileAction.write (Path.join directory name) text)) := by
  refine World.onFiles_grows fun t' ht' => FileAction.write_grows ⟨name, hname, ?_⟩
  rw [(hname.isPlain hoptions).named_join, ht'.named]

/-- Writing the script and the snapshot of a schema grows a tree on the way to the directory and at the outputs. -/
theorem writeScripts_grows (hoptions : options.defect? = none) (schema : Schema) :
    Preserves (fun w : World τ => GrowsWithin (t.OnWay directory) (options.Outputs (t.named directory)) t w.files)
      (writeScripts schema directory options) := by
  unfold writeScripts
  refine .bind (.note _ _) fun _ => .bind (World.onFiles_grows fun t' ht' => ?_) fun _ => ?_
  · rw [← ht'.onWay directory]
    exact FileAction.createDirectories_grows directory t'
  refine .bind (write_output_grows hoptions (.inl rfl) _) fun _ => ?_
  split
  · rename_i hsnapshot
    exact .bind (write_output_grows hoptions (.inr ⟨hsnapshot, rfl⟩) _) fun _ => .pure _
  · exact .pure _

/-- An export grows a tree on the way to its directory and at its outputs. -/
theorem exportScripts_grows (hoptions : options.defect? = none) (source : Source τ) (directory : String) (timing : Timing)
    (t : FileTree) :
    Preserves (fun w : World τ => GrowsWithin (t.OnWay directory) (options.Outputs (t.named directory)) t w.files)
      (exportScripts source directory options timing) := by
  unfold exportScripts
  refine .bind (.note _ _) fun _ => .bind (World.withPeer_grows _) fun schema => .bind (.note _ _) fun _ => ?_
  exact .bind (writeScripts_grows hoptions schema) fun _ => .bind (.note _ _) fun _ => .pure _

/-- However an export with accepted options ends, the files have grown within its own outputs: directories on the way to its
directory, and the files that it writes directly in that directory. Nothing is removed, and the paths of those files have the parts
of the directory and a plain name behind them. -/
theorem exportScripts_touches_outputs (hoptions : options.defect? = none) (source : Source τ) (directory : String) (timing : Timing)
    (w : World τ) :
    let after := (Action.start (exportScripts source directory options timing) w).2.state.files
    GrowsWithin (w.files.OnWay directory) (options.Outputs (w.files.named directory)) w.files after ∧
    (∀ p, (w.files.get? p).isSome → (after.get? p).isSome) ∧
    ∀ name, options.Writes name →
      Path.isAbsolute (Path.join directory name) = Path.isAbsolute directory ∧
      Path.parts (Path.join directory name) = Path.parts directory ++ [name] := by
  have hgrows := exportScripts_grows hoptions source directory timing w.files ⟨w, []⟩ (.refl w.files)
  refine ⟨hgrows, fun p hp => hgrows.isSome hp, fun name hname => ?_⟩
  exact ⟨(hname.isPlain hoptions).isAbsolute_join directory, (hname.isPlain hoptions).parts_join directory⟩

/-- A world in which a directory has the name of the snapshot. -/
def blockedWorld : World Unit :=
  ⟨((FileTree.fresh ["work"]).insert ["work", "out"] .directory).insert ["work", "out", "schema.json"] .directory, ()⟩

/-- Export the schema of one domain there, by a path through a directory that is missing. -/
def exportBlocked : Except Failure ExportReport × Journal (World Unit) :=
  Action.start (exportScripts (.ofSchema oneDomain) "new/../out" ⟨"..sql", true⟩ ⟨"", 0⟩) blockedWorld

/-- It creates the missing directory and writes the script, and fails at the snapshot. -/
theorem exportBlocked_touches : (ExportOptions.mk "..sql" true).defect? = none ∧ exportBlocked.1.toOption = none ∧
    exportBlocked.2.state.files.get? ["work", "new"] = some .directory ∧
    (exportBlocked.2.state.files.get? ["work", "out", "..sql"]).isSome ∧
    GrowsWithin (blockedWorld.files.OnWay "new/../out")
      ((ExportOptions.mk "..sql" true).Outputs (blockedWorld.files.named "new/../out")) blockedWorld.files
      exportBlocked.2.state.files ∧
    blockedWorld.files.named "new/../out" = ["work", "out"] := by
  have hdefect : (ExportOptions.mk "..sql" true).defect? = none := by decide +kernel
  obtain ⟨hgrows, -, -⟩ := exportScripts_touches_outputs hdefect (.ofSchema oneDomain) "new/../out" ⟨"", 0⟩ blockedWorld
  exact ⟨hdefect, by decide +kernel, by decide +kernel, by decide +kernel, hgrows, by decide +kernel⟩

end SchemaScript
