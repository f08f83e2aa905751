import SchemaScript.Proofs.Pipeline.Export
import SchemaScript.Proofs.Schema.Snapshot

/-!
# Loading what an export left

The snapshot of an export is loaded as the validation of the exported schema says (`loadSnapshot_of_readText`). If the schema can
be scripted, the snapshot gives it back and is rendered to its script in every directory that can be written
(`FileTree.serves_of_validate`); if not, the snapshot is refused wherever it is loaded, and nothing is written
(`FileTree.refuses_of_validate`). So the script of an export is written again from its snapshot, unless the exported schema cannot be
scripted (`exportScripts_reloads`): the export does not ask for that (`exportColumnless_refused`).
-/

namespace SchemaScript

variable {τ : Type}

/-! ## Work that succeeds -/

namespace World

variable {v : World τ} {log : List Entry}

/-- Work on the files that succeeds on the file tree alone succeeds. -/
theorem on_onFiles_ok {α : Type} {a : FileAction α} {x : α} {t : FileTree} (h : (ExceptT.run a).run v.files = (.ok x, t)) :
    Action.on (onFiles a) ⟨v, log⟩ = (.ok x, ⟨{ v with files := t }, log⟩) := by
  rw [on_onFiles, h]
  rfl

/-- A file that can be written is written. -/
theorem on_write_ok {path text : String} {t : FileTree} (h : v.files.written path (.text text) = .ok t) :
    Action.on (onFiles (FileAction.write path text)) ⟨v, log⟩ = (.ok (), ⟨{ v with files := t }, log⟩) := by
  refine on_onFiles_ok ?_
  rw [FileAction.write, FileAction.run_change, h]

/-- Work with the peer that succeeds with the peer alone succeeds. -/
theorem on_withPeer_ok {α : Type} {a : Action τ α} {l : Journal τ} {x : α} (h : Action.on a ⟨v.peer, log⟩ = (.ok x, l)) :
    Action.on (withPeer a) ⟨v, log⟩ = (.ok x, ⟨{ v with peer := l.state }, l.log⟩) := by
  rw [on_withPeer, h]

end World

/-- Whether an export with some options can write into a directory: it can be created, the script can be written there, and if a
snapshot is asked for it can be written as well, at a place of its own. -/
def FileTree.Writable (t : FileTree) (directory : String) (options : ExportOptions) : Prop :=
  ∃ made, (ExceptT.run (FileAction.createDirectories directory)).run t = (.ok (), made) ∧
    made.Accepts (Path.join directory options.fileName) ∧
    (options.jsonSnapshot = true → made.Accepts (Path.join directory snapshotName) ∧
      made.placeOf (Path.join directory options.fileName) ≠ made.placeOf (Path.join directory snapshotName))

/-- With accepted options the two have places of their own, unless they share one name. -/
theorem FileTree.writable_of_accepts {t made : FileTree} {directory : String} {options : ExportOptions}
    (hoptions : options.defect? = none) (hshares : ¬options.SharesName)
    (hmade : (ExceptT.run (FileAction.createDirectories directory)).run t = (.ok (), made))
    (hscript : made.Accepts (Path.join directory options.fileName))
    (hsnapshot : options.jsonSnapshot = true → made.Accepts (Path.join directory snapshotName)) : t.Writable directory options := by
  refine ⟨made, hmade, hscript, fun hasked => ⟨hsnapshot hasked, fun hplaces => hshares ⟨hasked, ?_⟩⟩⟩
  obtain ⟨_, hwritten⟩ := hscript.written (.text "")
  obtain ⟨p, hplace, -⟩ := exists_of_written hwritten
  have hlast := (options.isPlain_of_defect? hoptions).getLast?_of_placeOf_join hplace
  rw [isPlain_snapshotName.getLast?_of_placeOf_join (hplaces.symm.trans hplace)] at hlast
  exact (Option.some.inj hlast).symm

/-- Into a directory that can be written the script is written, and it is there afterwards. -/
theorem exists_of_writable {directory : String} {options : ExportOptions} {v : World τ}
    (h : v.files.Writable directory options) (schema : Schema) (log : List Entry) :
    ∃ paths k, Action.on (writeScripts schema directory options) ⟨v, log⟩ = (.ok paths, k) ∧
      k.state.files.readText paths.1 = .ok (Ddl.schema schema) := by
  obtain ⟨made, hmade, hscript, hsnapshot⟩ := h
  obtain ⟨t, hwritten⟩ := hscript.written (.text (Ddl.schema schema))
  have hread := FileTree.readText_written hwritten
  rw [writeScripts, Action.on_bind_ok (Action.on_note ..), Action.on_bind_ok (World.on_onFiles_ok hmade)]
  dsimp only
  rw [Action.on_bind_ok (World.on_write_ok (v := { v with files := made }) hwritten)]
  cases hasked : options.jsonSnapshot with
  | false => exact ⟨_, _, rfl, hread⟩
  | true =>
    obtain ⟨haccepts, hne⟩ := hsnapshot hasked
    obtain ⟨p, hplace, -, hdir, -, rfl⟩ := FileTree.exists_of_written hwritten
    obtain ⟨t', hwritten'⟩ := (haccepts.insert hdir _).written (.text schema.snapshot)
    have hne' : (made.insert p (.file (.text (Ddl.schema schema)))).placeOf (Path.join directory options.fileName) ≠
        (made.insert p (.file (.text (Ddl.schema schema)))).placeOf (Path.join directory snapshotName) := by
      obtain ⟨_, hempty⟩ := haccepts.written (.text "")
      obtain ⟨q, hplace', -⟩ := FileTree.exists_of_written hempty
      rw [FileTree.placeOf_insert hdir _ hplace, FileTree.placeOf_insert hdir _ hplace', ← hplace, ← hplace']
      exact hne
    refine ⟨_, _, Action.on_bind_ok (World.on_write_ok hwritten'), ?_⟩
    exact FileTree.readText_written_of_ne hwritten' hread hne'

/-- An export of a schema that the source gives succeeds where it can write, and the script is where it reports it. -/
theorem exists_exportScripts {source : Source τ} {directory : String} {options : ExportOptions} {v : World τ} {log : List Entry}
    {schema : Schema} {l : Journal τ}
    (hload : Action.on source.loadSchema ⟨v.peer, log ++ [⟨.info, "Phase 1: Reading metadata"⟩]⟩ = (.ok schema, l))
    (hwritable : v.files.Writable directory options) (timing : Timing) :
    ∃ report k, Action.on (exportScripts source directory options timing) ⟨v, log⟩ = (.ok report, k) ∧
      k.state.files.readText report.scriptPath = .ok (Ddl.schema schema) := by
  rw [exportScripts, Action.on_bind_ok (Action.on_note ..), Action.on_bind_ok (World.on_withPeer_ok hload),
    Action.on_bind_ok (Action.on_note ..)]
  obtain ⟨paths, k, hwrite, hread⟩ := exists_of_writable (v := { v with peer := l.state }) hwritable schema _
  rw [Action.on_bind_ok hwrite]
  exact ⟨_, _, rfl, hread⟩

/-- A schema that is there already is loaded as it is. -/
theorem Source.on_loadSchema_ofSchema (schema : Schema) (j : Journal τ) :
    Action.on (Source.ofSchema schema).loadSchema j = (.ok schema, j) := rfl

/-! ## Loading -/

/-- A file with the snapshot of a schema is loaded as the validation of the schema says. -/
theorem loadSnapshot_of_readText {t : FileTree} {path : String} {schema : Schema} (h : t.readText path = .ok schema.snapshot) :
    loadSnapshot t path = schema.validate := by
  have hread : (t.readText path).mapError Failure.file = pure schema.snapshot := by
    rw [h]
    rfl
  rw [loadSnapshot, hread, pure_bind, schema.ofSnapshot_eq_validate]

/-- Rendering goes on with the loaded schema as its source, or fails as the loading does before anything else is done. -/
theorem on_renderSnapshot (path directory : String) (options : ExportOptions) (timing : Timing) (j : Journal (World τ)) :
    Action.on (renderSnapshot path directory options timing) j =
      match loadSnapshot j.state.files path with
      | .ok schema => Action.on (exportScripts (.ofSchema schema) directory options timing)
          { j with log := j.log ++ [⟨.info, "Loading snapshot " ++ path⟩] }
      | .error e => (.error e, { j with log := j.log ++ [⟨.info, "Loading snapshot " ++ path⟩] }) := by
  rw [renderSnapshot, Action.on_bind_ok (Action.on_note ..), Action.on_bind]
  rw [World.on_askFiles]
  cases loadSnapshot j.state.files path <;> rfl

namespace FileTree

/-- A file that is loaded as a schema, served by its source as it is, and from which every export that can write writes one script. -/
structure Serves (t : FileTree) (path : String) (schema : Schema) (script : String) : Prop where
  loads : loadSnapshot t path = .ok schema
  serves : ∀ {σ : Type} (j : Journal σ), Action.on (Source.ofSchema schema).loadSchema j = (.ok schema, j)
  renders : ∀ {σ : Type} (peer : σ) {directory : String} {options : ExportOptions} (timing : Timing),
    t.Writable directory options →
    ∃ report k, Action.start (renderSnapshot path directory options timing) ⟨t, peer⟩ = (.ok report, k) ∧
      k.state.files.readText report.scriptPath = .ok script

/-- A file whose loading fails, and from which nothing is written. -/
structure Refuses (t : FileTree) (path : String) (e : Failure) : Prop where
  loads : loadSnapshot t path = .error e
  renders : ∀ {σ : Type} (peer : σ) (directory : String) (options : ExportOptions) (timing : Timing),
    ∃ log, Action.start (renderSnapshot path directory options timing) ⟨t, peer⟩ = (.error e, ⟨⟨t, peer⟩, log⟩)

variable {t : FileTree} {path : String} {schema : Schema}

/-- A snapshot of a schema that can be scripted serves the schema and its script. -/
theorem serves_of_validate (h : t.readText path = .ok schema.snapshot) (hvalid : schema.validate = .ok schema) :
    t.Serves path schema (Ddl.schema schema) := by
  have hload := (loadSnapshot_of_readText h).trans hvalid
  refine ⟨hload, Source.on_loadSchema_ofSchema schema, fun peer _ _ timing hwritable => ?_⟩
  rw [Action.start_eq_on, on_renderSnapshot, hload]
  exact exists_exportScripts (Source.on_loadSchema_ofSchema schema _) hwritable timing

/-- A snapshot of a schema that cannot be scripted is refused. -/
theorem refuses_of_validate {e : Failure} (h : t.readText path = .ok schema.snapshot) (hinvalid : schema.validate = .error e) :
    t.Refuses path e := by
  have hload := (loadSnapshot_of_readText h).trans hinvalid
  refine ⟨hload, fun peer directory options timing => ⟨[⟨.info, "Loading snapshot " ++ path⟩], ?_⟩⟩
  rw [Action.start_eq_on, on_renderSnapshot, hload]
  rfl

end FileTree

/-! ## Exports -/

/-- An export with a snapshot beside a script of the default name has read a schema, and both texts of it are there. -/
theorem exists_of_exportScripts {source : Source τ} {directory : String} {timing : Timing} {w : World τ} {report : ExportReport}
    {k : Journal (World τ)}
    (h : Action.start (exportScripts source directory { ExportOptions.default with jsonSnapshot := true } timing) w =
      (.ok report, k)) :
    ∃ schema, (Action.on source.loadSchema ⟨w.peer, [⟨.info, "Phase 1: Reading metadata"⟩]⟩).1 = .ok schema ∧
      report.snapshotPath? = some (Path.join directory snapshotName) ∧
      k.state.files.readText (Path.join directory snapshotName) = .ok schema.snapshot ∧
      k.state.files.readText report.scriptPath = .ok (Ddl.schema schema) := by
  obtain ⟨_, j₁, hnote, h⟩ := Action.exists_of_on_bind h
  obtain ⟨-, rfl⟩ := Prod.mk.inj hnote
  obtain ⟨schema, j₂, hload, h⟩ := Action.exists_of_on_bind h
  obtain ⟨_, j₃, -, h⟩ := Action.exists_of_on_bind h
  obtain ⟨paths, j₄, hwrite, h⟩ := Action.exists_of_on_bind h
  obtain ⟨_, j₅, hnote, h⟩ := Action.exists_of_on_bind h
  obtain ⟨-, rfl⟩ := Prod.mk.inj hnote
  obtain ⟨hreport, rfl⟩ := Prod.mk.inj h
  obtain rfl := Except.ok.inj hreport
  obtain ⟨-, hpath, hsnapshot, hscript⟩ := writeScripts_leaves (by decide +kernel) hwrite
  exact ⟨schema, (Prod.mk.inj hload).1, hpath, hsnapshot _ hpath, hscript.mpr (by decide)⟩

/-- An export with a snapshot under the default name leaves a snapshot and the script. Wherever the snapshot is kept, it gives the
exported schema and is rendered to the same script if the schema can be scripted. Otherwise it is refused as the validation of the
schema says. -/
theorem exportScripts_reloads {source : Source τ} {directory : String} {timing : Timing} {w : World τ} {report : ExportReport}
    {k : Journal (World τ)}
    (h : Action.start (exportScripts source directory { ExportOptions.default with jsonSnapshot := true } timing) w =
      (.ok report, k)) :
    ∃ schema path script, (Action.on source.loadSchema ⟨w.peer, [⟨.info, "Phase 1: Reading metadata"⟩]⟩).1 = .ok schema ∧
      report.snapshotPath? = some path ∧ k.state.files.readText report.scriptPath = .ok script ∧
      ∀ t : FileTree, t.readText path = k.state.files.readText path →
        (schema.validate = .ok schema ∧ t.Serves path schema script) ∨
        ∃ reason, schema.validate = .error (.config reason) ∧ t.Refuses path (.config reason) := by
  obtain ⟨schema, hload, hpath, hsnapshot, hscript⟩ := exists_of_exportScripts h
  refine ⟨schema, _, _, hload, hpath, hscript, fun t ht => ?_⟩
  have hread := ht.trans hsnapshot
  rcases schema.validate_eq with hvalid | ⟨reason, hinvalid⟩
  · exact .inl ⟨hvalid, FileTree.serves_of_validate hread hvalid⟩
  · exact .inr ⟨reason, hinvalid, FileTree.refuses_of_validate hread hinvalid⟩

/-- Export a schema with its snapshot under the default name. -/
def exportBoth (schema : Schema) : Except Failure ExportReport × Journal (World Unit) :=
  Action.start (exportScripts (.ofSchema schema) "out" { ExportOptions.default with jsonSnapshot := true } ⟨"", 0⟩) workWorld

/-- The script of one domain is written again from its snapshot, with another snapshot beside it. -/
theorem exportOneDomain_again : (exportBoth oneDomain).1 = .ok ⟨"out/schema.sql", some "out/schema.json", 1, 0, 0, ⟨"", 0⟩⟩ ∧
    ∃ report k, Action.start (renderSnapshot "out/schema.json" "again" ⟨"again.sql", true⟩ ⟨"", 0⟩)
        (⟨(exportBoth oneDomain).2.state.files, ()⟩ : World Unit) = (.ok report, k) ∧
      k.state.files.readText report.scriptPath = (exportBoth oneDomain).2.state.files.readText "out/schema.sql" := by
  have hreport : (exportBoth oneDomain).1 = .ok ⟨"out/schema.sql", some "out/schema.json", 1, 0, 0, ⟨"", 0⟩⟩ :=
    Action.eq_ok_of_toOption (by decide +kernel)
  have hexport := Action.eq_mk_of_fst hreport
  refine ⟨hreport, ?_⟩
  obtain ⟨schema, path, script, hschema, hpath, hscript, hreload⟩ := exportScripts_reloads hexport
  obtain rfl : oneDomain = schema := Except.ok.inj hschema
  obtain rfl := Option.some.inj hpath
  have hvalid : oneDomain.validate = .ok oneDomain := Action.eq_ok_of_toOption (by decide +kernel)
  rcases hreload _ rfl with ⟨-, hserves⟩ | ⟨_, hinvalid, -⟩
  · have hwritable : (exportBoth oneDomain).2.state.files.Writable "again" ⟨"again.sql", true⟩ :=
      FileTree.writable_of_accepts (by decide +kernel) (by decide)
        (Action.eq_mk_of_fst (Action.eq_ok_of_toOption (by decide +kernel))) (by decide +kernel) (by decide +kernel)
    obtain ⟨report, k, hrender, hread⟩ := hserves.renders () ⟨"", 0⟩ hwritable
    exact ⟨report, k, hrender, hread.trans hscript.symm⟩
  · rw [hvalid] at hinvalid
    nomatch hinvalid

/-- A schema with a table without columns. -/
def columnless : Schema := ⟨[], [⟨"T", []⟩], []⟩

/-- It is exported, and its snapshot cannot be loaded. -/
theorem exportColumnless_refused :
    (exportBoth columnless).1 = .ok ⟨"out/schema.sql", some "out/schema.json", 0, 1, 0, ⟨"", 0⟩⟩ ∧
    loadSnapshot (exportBoth columnless).2.state.files "out/schema.json" =
      .error (.config "snapshot table 'T' has no columns") := by
  have hreport : (exportBoth columnless).1 = .ok ⟨"out/schema.sql", some "out/schema.json", 0, 1, 0, ⟨"", 0⟩⟩ :=
    Action.eq_ok_of_toOption (by decide +kernel)
  have hexport := Action.eq_mk_of_fst hreport
  obtain ⟨schema, hschema, -, hread, -⟩ := exists_of_exportScripts hexport
  obtain rfl : columnless = schema := Except.ok.inj hschema
  have hpath : Path.join "out" snapshotName = "out/schema.json" := by decide +kernel
  rw [hpath] at hread
  refine ⟨hreport, (loadSnapshot_of_readText hread).trans ?_⟩
  exact Action.eq_error_of_refusal? (by decide +kernel)

end SchemaScript
