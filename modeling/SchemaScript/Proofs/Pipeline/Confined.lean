import SchemaScript.Config.ConnectionString
import SchemaScript.Config.Yaml
import SchemaScript.Proofs.Config.ConnectionString
import SchemaScript.Proofs.Config.Validate
import SchemaScript.Proofs.Pipeline.Build
import SchemaScript.Proofs.Pipeline.Footprint

/-!
# Settings that are loaded stay in their directories

Settings come from the text of a configuration file, from the file, or from a connection string (`Config.Origin`); whichever it is,
they are validated behind the parser. So loaded settings are usable, and their two file names name something directly in whatever
directory they are joined to: an export writes there only, and a new database replaces nothing else (`createDatabase_loses`).
-/

namespace SchemaScript

open SchemaScript.Action (Preserves exists_of_bind_eq_ok)

variable {τ : Type}

/-! ## What a new database replaces -/

/-- A tree that lost nothing that was not at a place. -/
structure FileTree.LosesOnly (p : Place) (t t' : FileTree) : Prop where
  current : t'.current = t.current
  kept : ∀ q n, q ≠ p → t.get? q = some n → t'.get? q = some n

namespace FileTree.LosesOnly

variable {p : Place} {t t' t'' : FileTree}

theorem refl (p : Place) (t : FileTree) : LosesOnly p t t := ⟨rfl, fun _ _ _ h => h⟩

theorem trans (h : LosesOnly p t t') (h' : LosesOnly p t' t'') : LosesOnly p t t'' :=
  ⟨h'.current.trans h.current, fun q n hq hn => h'.kept q n hq (h.kept q n hq hn)⟩

theorem named_eq (h : LosesOnly p t t') (path : String) : t'.named path = t.named path := by
  rw [named, named, base, base, h.current]

end FileTree.LosesOnly

open FileTree (LosesOnly)

/-- Work on the files that loses nothing elsewhere, wherever it starts. -/
theorem World.onFiles_loses {α : Type} {a : FileAction α} {p : Place} {t : FileTree}
    (h : ∀ t', LosesOnly p t t' → LosesOnly p t' ((ExceptT.run a).run t').2) :
    Preserves (fun w : World τ => LosesOnly p t w.files) (World.onFiles a) :=
  fun j hj => hj.trans (h j.state.files hj)

/-- Creating directories loses nothing. -/
theorem FileAction.createDirectories_loses (path : String) (p : Place) (t : FileTree) :
    LosesOnly p t ((ExceptT.run (createDirectories path)).run t).2 := by
  have hgrows : FileTree.GrowsWithin (t.OnWay path) (fun _ => False) t _ := createDirectories_grows path t
  exact ⟨hgrows.current, fun q n _ hn => createDirectories_keeps path t q n hn⟩

/-- Removing loses what lies at the place that the path names. -/
theorem FileAction.remove_loses (path : String) (t : FileTree) :
    LosesOnly (t.named path) t ((ExceptT.run (remove path)).run t).2 := by
  rw [remove, run_change]
  cases hremoved : t.removed path with
  | error fault => exact .refl _ t
  | ok t' =>
    obtain ⟨p, c, hplace, -, -, rfl⟩ := FileTree.exists_of_removed hremoved
    rw [← FileTree.eq_named_of_placeOf hplace]
    exact ⟨rfl, fun q n hq hn => (FileTree.get?_erase_of_ne hq).trans hn⟩

/-- A server that, asked for a new database, loses nothing that is not at the place of its file. -/
def Connector.Careful (k : Connector τ) : Prop :=
  ∀ (c : Connection) (charset : Charset) (size : UInt32) (w : World τ),
    LosesOnly (w.files.named c.database) w.files ((ExceptT.run (k.create c charset size)).run w).2.files

/-- The scripted server writes the file of a new database, or fails and leaves the files as they were. -/
theorem Scripted.files_create (c : Connection) (charset : Charset) (size : UInt32) (w : World Scripted) :
    ((ExceptT.run (connector.create c charset size)).run w).2.files = w.files ∨
    ∃ content, w.files.written c.database content = .ok ((ExceptT.run (connector.create c charset size)).run w).2.files := by
  generalize hafter : ((ExceptT.run (connector.create c charset size)).run w).2.files = after
  change ((ExceptT.run (raise (raised? (valueIn w.files faultsFile) "create") >>= _)).run { w with peer := _ }).2.files = after at hafter
  cases hraised : raised? (valueIn w.files faultsFile) "create" with
  | some fault =>
    rw [hraised] at hafter
    exact .inl hafter.symm
  | none =>
    rw [hraised] at hafter
    cases hwritten : w.files.written c.database (.text "\x7b\x7d") with
    | error fault =>
      simp only [raise, pure_bind, hwritten] at hafter
      exact .inl hafter.symm
    | ok files =>
      simp only [raise, pure_bind, hwritten] at hafter
      exact .inr ⟨_, hwritten.trans (congrArg Except.ok hafter)⟩

/-- The scripted server is careful. -/
theorem Scripted.connector_careful : Scripted.connector.Careful := by
  intro c charset size w
  rcases files_create c charset size w with hfiles | ⟨content, hwritten⟩
  · rw [hfiles]
    exact .refl _ _
  · obtain ⟨p, hplace, -, -, -, hfiles⟩ := FileTree.exists_of_written hwritten
    rw [hfiles, ← FileTree.eq_named_of_placeOf hplace]
    exact ⟨rfl, fun q n hq hn => (FileTree.get?_insert_of_ne hq _).trans hn⟩

/-- Creating a database loses at most what lies at the place of its file, however it ends. -/
theorem createDatabase_loses {k : Connector τ} (hk : k.Careful) (c : Connection) (options : BuildOptions) (directory : String)
    (t : FileTree) :
    Preserves (fun w : World τ => LosesOnly (t.named (Path.join directory options.databaseFile)) t w.files)
      (createDatabase k c options directory) := by
  refine .bind (World.onFiles_loses fun t' _ => FileAction.createDirectories_loses directory _ t') fun _ => ?_
  refine .bind (.bind (World.onFiles_loses fun t' _ => ?_) fun found => ?_) fun _ => ?_
  · rw [FileAction.run_ask]
    exact .refl _ t'
  · cases found with
    | false => exact .pure _
    | true =>
      refine .bind (.note _ _) fun _ => World.onFiles_loses fun t' ht' => ?_
      rw [← ht'.named_eq]
      exact FileAction.remove_loses _ t'
  · refine .bind (.note _ _) fun _ => .bind (fun _ hj => hj) fun charset => .bind (fun j hj => ?_) fun _ => ?_
    · have hcreate := hk { c with database := Path.join directory options.databaseFile } charset options.pageSize j.state
      rw [hj.named_eq] at hcreate
      exact hj.trans hcreate
    · exact .bind (.note _ _) fun _ => .pure _

/-! ## Names in a directory -/

/-- A name is one of something directly in a directory: joined to it, it makes a path that starts where that of the directory starts,
has its parts and the name behind them, and names the place of that name in the place of the directory. -/
structure Path.IsChild (directory name : String) : Prop where
  start : isAbsolute (join directory name) = isAbsolute directory
  parts : parts (join directory name) = parts directory ++ [name]
  named (t : FileTree) : t.named (join directory name) = t.named directory ++ [name]

/-- A plain name joined to a directory is a direct child of it. -/
theorem FileTree.IsPlain.isChild {name : String} (h : IsPlain name) (directory : String) : Path.IsChild directory name :=
  ⟨h.isAbsolute_join directory, h.parts_join directory, fun t => h.named_join t directory⟩

namespace Config

/-- Settings whose file names stay in every directory. -/
structure Confined (c : Config) : Prop where
  exportFile (directory : String) : Path.IsChild directory c.exporting.fileName
  databaseFile (directory : String) : Path.IsChild directory c.building.databaseFile
  /-- An export creates directories on the way to its directory at most, and writes files directly in it. -/
  writes {τ : Type} (source : Source τ) (directory : String) (timing : Timing) (w : World τ) :
    FileTree.GrowsWithin (w.files.OnWay directory) (fun p => ∃ name, p = w.files.named directory ++ [name]) w.files
      (Action.start (exportScripts source directory c.exporting timing) w).2.state.files
  /-- A new database replaces nothing but what has its name in its directory. -/
  deletes {τ : Type} {k : Connector τ} (hk : k.Careful) (directory : String) (w : World τ) :
    LosesOnly (w.files.named directory ++ [c.building.databaseFile]) w.files
      (Action.start (createDatabase k c.connection c.building directory) w).2.state.files

/-- Settings that can be used are confined to their directories. -/
theorem Usable.confined {c : Config} (h : c.Usable) : c.Confined where
  exportFile := (h.exportFile.2.isPlain h.exportFile.1).isChild
  databaseFile := (h.databaseFile.2.isPlain h.databaseFile.1).isChild
  writes source directory timing w := by
    have hoptions : c.exporting.defect? = none := fileNameDefect?_eq_none_iff.mpr h.exportFile
    have hgrows := exportScripts_grows hoptions source directory timing w.files ⟨w, []⟩ (.refl _)
    exact hgrows.weaken (fun _ hp => hp) fun _ ⟨name, _, hp⟩ => ⟨name, hp⟩
  deletes hk directory w := by
    have hloses := createDatabase_loses hk c.connection c.building directory w.files ⟨w, []⟩ (.refl _ _)
    rwa [(h.databaseFile.2.isPlain h.databaseFile.1).named_join] at hloses

/-! ## Loading -/

/-- Where settings come from: the text of a configuration file, a configuration file, or a connection string. -/
inductive Origin
  | content (text : String)
  | file (t : FileTree) (path : String)
  | connectionString (text : String)

namespace Origin

/-- The settings that are loaded. -/
def load : Origin → Except Failure Config
  | content text => Config.ofYaml text
  | file t path => Config.load t path
  | connectionString text => (Action.start (Config.ofConnectionString text) ()).1

/-- The settings that are parsed, whether they can be used or not. -/
def parsed : Origin → Except Failure Config
  | content text => (Yaml.readDocument (Yaml.readRecord Config.shape) text).mapError .yaml
  | file t path => do
    (Yaml.readDocument (Yaml.readRecord Config.shape) (← (t.readText path).mapError .file)).mapError .yaml
  | connectionString text => (Connection.result text).map Config.ofConnection

/-- Loaded settings are parsed settings that were validated. -/
theorem load_eq (o : Origin) : o.load = o.parsed >>= validate := by
  cases o with
  | content text => rfl
  | file t path =>
    rw [load, parsed, Config.load, bind_assoc]
    rfl
  | connectionString text =>
    rw [load, parsed, Connection.result, Action.start_eq_on, Action.start_eq_on, Config.ofConnectionString, Action.on_bind]
    rcases Action.on (Connection.ofString text) ⟨(), []⟩ with ⟨_ | c, j⟩ <;> rfl

end Origin

/-- Whatever settings come from, they are loaded exactly if they are parsed and can be used. Loaded settings stay in their directories:
joined to any directory, their file names name something directly in it, and neither does an export write a file elsewhere nor a new
database replace one. Settings that are parsed and not loaded are refused with the message of the first check that they break, of the
host, the port, the database, the user, the character set, the two files, and the page size. -/
theorem Origin.load_validates (o : Origin) :
    (∀ c, o.load = .ok c ↔ o.parsed = .ok c ∧ c.Usable) ∧
    (∀ c, o.load = .ok c → c.Confined) ∧
    ∀ c, o.parsed = .ok c → ∀ e, o.load = .error e ↔ ∃ check, FirstUnmet (·.holds c) checks check ∧
      e = .config (check.message c) := by
  have hok : ∀ c, o.load = .ok c ↔ o.parsed = .ok c ∧ c.Usable := by
    intro c
    rw [o.load_eq]
    constructor
    · intro h
      obtain ⟨parsed, hparsed, hvalid⟩ := exists_of_bind_eq_ok h
      obtain ⟨rfl, husable⟩ := validate_eq_ok_iff.mp hvalid
      exact ⟨hparsed, husable⟩
    · rintro ⟨hparsed, husable⟩
      rw [hparsed]
      exact validate_eq_ok_iff.mpr ⟨rfl, husable⟩
  refine ⟨hok, fun c h => ((hok c).mp h).2.confined, fun c hparsed e => ?_⟩
  rw [o.load_eq, hparsed]
  exact validate_eq_error_iff

/-- Settings that name a database and nothing else. -/
def localConfig : Config := .ofConnection { Connection.default with database := "/data/a.fdb" }

/-- Settings that name a directory as the script of an export. -/
def strayConfig : Config := { localConfig with exporting := ⟨"..", false⟩ }

/-- A configuration file with the second settings. -/
def strayFile : String := "connection:\n  database: /data/a.fdb\nexport:\n  file_name: ..\n"

/-- The first settings are loaded from a connection string, and a new database that is made with them leaves the notes beside it. The
others are parsed and then refused for the name of the script. -/
theorem Origin.load_localConfig :
    (Origin.connectionString "database=/data/a.fdb").load = .ok localConfig ∧
    (Action.start (createDatabase Scripted.connector localConfig.connection localConfig.building "db") workshop).2.state.files.get?
      ["work", "db", "notes.txt"] = some (.file (.text "notes")) ∧
    (Origin.content strayFile).parsed = .ok strayConfig ∧
    (Origin.content strayFile).load = .error (.config "export.file_name must be a plain file name, got '..'") := by
  have hload : (Origin.connectionString "database=/data/a.fdb").load = .ok localConfig :=
    Action.eq_ok_of_toOption (by decide +kernel)
  have hparsed : (Origin.content strayFile).parsed = .ok strayConfig := Action.eq_ok_of_toOption (by decide +kernel)
  have hconfined : localConfig.Confined := (load_validates (.connectionString "database=/data/a.fdb")).2.1 _ hload
  have hbroken : FirstUnmet (·.holds strayConfig) checks (.bare "export.file_name" (·.exporting.fileName)) := by
    have hname : FirstUnmet (·.holds strayConfig) (Check.fileName "export.file_name" (·.exporting.fileName))
        (.bare "export.file_name" (·.exporting.fileName)) :=
      ⟨[.required "export.file_name" (·.exporting.fileName)], [], rfl,
        List.forall_mem_singleton.mpr (show (".." : String) ≠ "" by decide), fun (h : Bare "..") => h.not_dots rfl⟩
    refine .append_left ?_ (hname.append_right _)
    simp [Check.connection, Check.required, strayConfig, localConfig, Connection.default, Config.ofConnection]
  exact ⟨hload, (hconfined.deletes Scripted.connector_careful "db" workshop).kept _ _ (by decide +kernel) (by decide +kernel),
    hparsed, ((load_validates (.content strayFile)).2.2 _ hparsed _).mpr ⟨_, hbroken, rfl⟩⟩

end Config

end SchemaScript
