import SchemaScript.Pipeline.Export
import SchemaScript.Proofs.Config.Validate
import SchemaScript.Proofs.FileTree.Write
import SchemaScript.Proofs.World

/-!
# What an export leaves in the files

An export that succeeds has written the script of the schema and then, if asked for, its snapshot. The snapshot is there; the
script is there unless it has the name of the snapshot (`exportScripts_leaves`). Options with that name are accepted, and the
snapshot is then written over the script (`exportOneDomain_json`).
-/

namespace SchemaScript

variable {τ : Type}

/-! ## Two texts of a schema -/

/-- A script starts with a slash, so it is not a snapshot. -/
theorem Ddl.head?_schema (s : Schema) : (Ddl.schema s).toList.head? = some '/' := by
  simp only [Ddl.schema, String.toList_append]
  rfl

/-- A snapshot starts with a brace, so it is not a script. -/
theorem Schema.head?_snapshot (s : Schema) : s.snapshot.toList.head? = some '\x7b' := by
  rw [snapshot, Json.Value.pretty, String.toList_ofList, toJson, Json.Value.print]
  rfl

/-- The script of a schema is not its snapshot. -/
theorem Ddl.schema_ne_snapshot (s : Schema) : Ddl.schema s ≠ s.snapshot := by
  intro h
  have hhead := Ddl.head?_schema s
  rw [h, s.head?_snapshot] at hhead
  nomatch hhead

/-! ## Writing -/

/-- Work that looks at the tree first is given the tree. -/
theorem FileAction.run_get_bind {α : Type} (g : FileTree → FileAction α) (t : FileTree) :
    (ExceptT.run (get >>= g)).run t = (ExceptT.run (g t)).run t := rfl

/-- Asking gives the answer of the tree and leaves it as it is. -/
theorem FileAction.run_ask {α : Type} (f : FileTree → Except FileFault α) (t : FileTree) :
    (ExceptT.run (ask f)).run t = (f t, t) := by
  rw [ask, run_get_bind]
  cases f t <;> rfl

/-- A change gives the changed tree, or the fault and the tree as it was. -/
theorem FileAction.run_change (f : FileTree → Except FileFault FileTree) (t : FileTree) :
    (ExceptT.run (change f)).run t =
      match f t with
      | .ok t' => (.ok (), t')
      | .error fault => (.error fault, t) := by
  have hrun : (ExceptT.run (change f)).run t = ExceptT.bindCont (fun t' => (set t' : FileAction Unit))
      ((ExceptT.run (ask f)).run t).1 ((ExceptT.run (ask f)).run t).2 := rfl
  rw [hrun, run_ask]
  cases f t <;> rfl

/-- Work on the files that succeeds leaves what it leaves of the file tree alone, and the peer as it was. -/
theorem World.eq_of_on_onFiles {α : Type} {a : FileAction α} {j k : Journal (World τ)} {x : α}
    (h : Action.on (onFiles a) j = (.ok x, k)) :
    (ExceptT.run a).run j.state.files = (.ok x, k.state.files) ∧ k.state.peer = j.state.peer := by
  rw [on_onFiles] at h
  obtain ⟨hx, rfl⟩ := Prod.mk.inj h
  refine ⟨Prod.ext ?_ rfl, rfl⟩
  cases hr : ((ExceptT.run a).run j.state.files).1 with
  | error fault =>
    rw [hr] at hx
    nomatch hx
  | ok y =>
    rw [hr] at hx
    exact congrArg Except.ok (Except.ok.inj hx)

/-- A change of the files that succeeds leaves the changed files. -/
theorem World.eq_of_on_change {f : FileTree → Except FileFault FileTree} {j k : Journal (World τ)} {u : Unit}
    (h : Action.on (onFiles (FileAction.change f)) j = (.ok u, k)) :
    f j.state.files = .ok k.state.files ∧ k.state.peer = j.state.peer := by
  obtain ⟨hrun, hpeer⟩ := eq_of_on_onFiles h
  refine ⟨?_, hpeer⟩
  rw [FileAction.run_change] at hrun
  cases hf : f j.state.files with
  | ok t =>
    rw [hf] at hrun
    exact congrArg Except.ok (Prod.mk.inj hrun).2
  | error fault =>
    rw [hf] at hrun
    nomatch hrun

/-- A file that could be written is written. -/
theorem World.written_of_on_write {path text : String} {j k : Journal (World τ)} {u : Unit}
    (h : Action.on (World.onFiles (FileAction.write path text)) j = (.ok u, k)) :
    j.state.files.written path (.text text) = .ok k.state.files :=
  (World.eq_of_on_change h).1

/-! ## The script and the snapshot -/

/-- Accepted options name the script by a plain name. -/
theorem ExportOptions.isPlain_of_defect? {options : ExportOptions} (h : options.defect? = none) :
    FileTree.IsPlain options.fileName := by
  obtain ⟨hne, hbare⟩ := fileNameDefect?_eq_none_iff.mp h
  exact hbare.isPlain hne

/-- The name of the snapshot is plain. -/
theorem isPlain_snapshotName : FileTree.IsPlain snapshotName := ⟨by decide, by decide, by decide⟩

/-- Whether a script with these options has the name of the snapshot beside it. -/
def ExportOptions.SharesName (options : ExportOptions) : Prop := options.jsonSnapshot = true ∧ options.fileName = snapshotName

instance (options : ExportOptions) : Decidable options.SharesName :=
  inferInstanceAs (Decidable (options.jsonSnapshot = true ∧ options.fileName = snapshotName))

/-- What was written last is there. The script was written first: it is there unless the snapshot took its place. -/
theorem writeScripts_leaves {schema : Schema} {directory : String} {options : ExportOptions} (hoptions : options.defect? = none)
    {j k : Journal (World τ)} {paths : String × Option String}
    (h : Action.on (writeScripts schema directory options) j = (.ok paths, k)) :
    paths.1 = Path.join directory options.fileName ∧
    (paths.2 = if options.jsonSnapshot then some (Path.join directory snapshotName) else none) ∧
    (∀ p, paths.2 = some p → k.state.files.readText p = .ok schema.snapshot) ∧
    (k.state.files.readText paths.1 = .ok (Ddl.schema schema) ↔ ¬ options.SharesName) := by
  obtain ⟨_, _, -, h⟩ := Action.exists_of_on_bind h
  obtain ⟨_, j₁, -, h⟩ := Action.exists_of_on_bind h
  obtain ⟨_, j₂, hscript, h⟩ := Action.exists_of_on_bind h
  have hscript := World.written_of_on_write hscript
  cases hsnapshot : options.jsonSnapshot with
  | false =>
    rw [hsnapshot] at h
    obtain ⟨hpaths, rfl⟩ := Prod.mk.inj h
    obtain rfl := Except.ok.inj hpaths
    refine ⟨rfl, rfl, nofun, fun _ hshares => ?_, fun _ => FileTree.readText_written hscript⟩
    exact Bool.false_ne_true (hsnapshot.symm.trans hshares.1)
  | true =>
    rw [hsnapshot] at h
    obtain ⟨_, j₃, hwrite, h⟩ := Action.exists_of_on_bind h
    obtain ⟨hpaths, rfl⟩ := Prod.mk.inj h
    obtain rfl := Except.ok.inj hpaths
    have hwrite := World.written_of_on_write hwrite
    have hread := FileTree.readText_written hwrite
    refine ⟨rfl, rfl, ?_, fun hddl hshares => ?_, fun hshares => ?_⟩
    · rintro _ ⟨⟩
      exact hread
    · dsimp only at hddl
      rw [hshares.2, hread] at hddl
      exact Ddl.schema_ne_snapshot schema (Except.ok.inj hddl).symm
    · exact FileTree.readText_written_sibling isPlain_snapshotName (options.isPlain_of_defect? hoptions)
        (fun hname => hshares ⟨hsnapshot, hname⟩) hwrite (FileTree.readText_written hscript)

/-- An export that succeeds read a schema from its source and reports the two paths below the directory. The snapshot is where the
report says; the script is where the report says exactly unless it has the name of the snapshot, which is written after it. -/
theorem exportScripts_leaves {source : Source τ} {directory : String} {options : ExportOptions} {timing : Timing}
    (hoptions : options.defect? = none) {w : World τ} {report : ExportReport} {k : Journal (World τ)}
    (h : Action.start (exportScripts source directory options timing) w = (.ok report, k)) :
    ∃ schema, (Action.on source.loadSchema ⟨w.peer, [⟨.info, "Phase 1: Reading metadata"⟩]⟩).1 = .ok schema ∧
      report.scriptPath = Path.join directory options.fileName ∧
      (report.snapshotPath? = if options.jsonSnapshot then some (Path.join directory snapshotName) else none) ∧
      (∀ p, report.snapshotPath? = some p → k.state.files.readText p = .ok schema.snapshot) ∧
      (k.state.files.readText report.scriptPath = .ok (Ddl.schema schema) ↔ ¬ options.SharesName) := by
  obtain ⟨_, j₁, hnote, h⟩ := Action.exists_of_on_bind h
  obtain ⟨-, rfl⟩ := Prod.mk.inj hnote
  obtain ⟨schema, j₂, hload, h⟩ := Action.exists_of_on_bind h
  obtain ⟨_, j₃, -, h⟩ := Action.exists_of_on_bind h
  obtain ⟨paths, j₄, hwrite, h⟩ := Action.exists_of_on_bind h
  obtain ⟨_, j₅, hnote, h⟩ := Action.exists_of_on_bind h
  obtain ⟨-, rfl⟩ := Prod.mk.inj hnote
  obtain ⟨hreport, rfl⟩ := Prod.mk.inj h
  obtain rfl := Except.ok.inj hreport
  have hleaves := writeScripts_leaves hoptions hwrite
  exact ⟨schema, (Prod.mk.inj hload).1, hleaves⟩

/-- A world without a peer, with an empty directory to work in. -/
def workWorld : World Unit := ⟨.fresh ["work"], ()⟩

/-- A schema of one domain. -/
def oneDomain : Schema := ⟨[.plain "D" "DATE"], [], []⟩

/-- Export the schema of one domain, with its snapshot, under a file name. -/
def exportOneDomain (fileName : String) : Except Failure ExportReport × Journal (World Unit) :=
  Action.start (exportScripts (.ofSchema oneDomain) "out" ⟨fileName, true⟩ ⟨"", 0⟩) workWorld

/-- Under a name of its own the script is there, and so is the snapshot. -/
theorem exportOneDomain_sql : (ExportOptions.mk "domain.sql" true).defect? = none ∧
    (exportOneDomain "domain.sql").1 = .ok ⟨"out/domain.sql", some "out/schema.json", 1, 0, 0, ⟨"", 0⟩⟩ ∧
    (exportOneDomain "domain.sql").2.state.files.readText "out/schema.json" = .ok oneDomain.snapshot ∧
    (exportOneDomain "domain.sql").2.state.files.readText "out/domain.sql" = .ok (Ddl.schema oneDomain) := by
  have hdefect : (ExportOptions.mk "domain.sql" true).defect? = none := by decide +kernel
  have hreport : (exportOneDomain "domain.sql").1 = .ok ⟨"out/domain.sql", some "out/schema.json", 1, 0, 0, ⟨"", 0⟩⟩ :=
    Action.eq_ok_of_toOption (by decide +kernel)
  obtain ⟨schema, hschema, -, -, hsnapshot, hscript⟩ := exportScripts_leaves hdefect (Prod.ext (y := (_, _)) hreport rfl)
  obtain rfl : oneDomain = schema := Except.ok.inj hschema
  exact ⟨hdefect, hreport, hsnapshot _ rfl, hscript.mpr (by decide)⟩

/-- Under the name of the snapshot, which is accepted, the script is reported where the snapshot is. -/
theorem exportOneDomain_json : (ExportOptions.mk "schema.json" true).defect? = none ∧
    (exportOneDomain "schema.json").1 = .ok ⟨"out/schema.json", some "out/schema.json", 1, 0, 0, ⟨"", 0⟩⟩ ∧
    (exportOneDomain "schema.json").2.state.files.readText "out/schema.json" = .ok oneDomain.snapshot ∧
    (exportOneDomain "schema.json").2.state.files.readText "out/schema.json" ≠ .ok (Ddl.schema oneDomain) := by
  have hsnapshot : (exportOneDomain "schema.json").2.state.files.readText "out/schema.json" = .ok oneDomain.snapshot :=
    Action.eq_ok_of_toOption (by decide +kernel)
  refine ⟨by decide +kernel, Action.eq_ok_of_toOption (by decide +kernel), hsnapshot, fun hscript => ?_⟩
  rw [hsnapshot] at hscript
  exact Ddl.schema_ne_snapshot oneDomain (Except.ok.inj hscript).symm

end SchemaScript
