import SchemaScript.Config.Validate
import SchemaScript.Database.Scripted
import SchemaScript.Pipeline.Build
import SchemaScript.Proofs.FileTree.Grow
import SchemaScript.Proofs.FileTree.Remove
import SchemaScript.Proofs.Pipeline.Export

/-!
# What a build that fails leaves of the files

A build fails as a configuration only because the character set of the connection is not known (`buildDatabase_spares_iff`): opening
the connection, running the script and all work on the files fail with other failures. At that moment the directory of the database
has been created, which loses nothing, and the file that the new database would replace has been removed. So the files are kept exactly
if no file is where the database is to be created; a file there is lost although no database takes its place
(`buildKoi8_loses_database`).
-/

namespace SchemaScript

open SchemaScript.Action (FailsWith)

variable {τ : Type}

/-- Every failure but those of the configuration. -/
def Failure.NotConfig (f : Failure) : Prop := ∀ reason, f ≠ .config reason

/-! ## What fails, and with what -/

/-- A call of a client fails with the failure made of the client's error. -/
theorem Exchange.failsWith {σ α : Type} {P : Failure → Prop} {toFailure : ClientFault → Failure} (h : ∀ fault, P (toFailure fault))
    (x : Exchange σ α) : FailsWith P (x.toAction toFailure) := by
  intro j e he
  obtain ⟨fault, -, rfl⟩ := Action.exists_of_mapError he
  exact h fault

namespace World

variable {α : Type} {P : Failure → Prop}

/-- Work with the peer fails as it does with the peer alone. -/
theorem failsWith_withPeer {a : Action τ α} (h : FailsWith P a) : FailsWith P (withPeer a) :=
  fun j e he => h ⟨j.state.peer, j.log⟩ e he

/-- Work on the files fails with a fault of the files. -/
theorem failsWith_onFiles (h : ∀ fault, P (.file fault)) (a : FileAction α) : FailsWith P (onFiles (τ := τ) a) := by
  intro j e he
  obtain ⟨fault, -, rfl⟩ := Action.exists_of_mapError he
  exact h fault

/-- Asking the files fails as the answer does. -/
theorem failsWith_askFiles {f : FileTree → Except Failure α} (h : ∀ t e, f t = .error e → P e) :
    FailsWith P (askFiles (τ := τ) f) :=
  fun j e he => h j.state.files e he

end World

namespace Executor

variable {η : Type} {P : Failure → Prop} (e : Executor τ η)

/-- Going back never fails. -/
theorem retreat_failsWith (handle : η) : FailsWith P (e.retreat handle) := by
  refine .bind (.note _ _) fun _ => .bind (.outcome _) fun r => ?_
  cases r with
  | ok => exact .pure _
  | error f => exact .bind (.note _ _) fun _ => .pure _

/-- One statement fails as a statement. -/
theorem runOne_failsWith (hstatement : ∀ index text cause rollback?, P (.statement index text cause rollback?)) (index : Nat)
    (s : Statement) (handle : η) : FailsWith P (e.runOne index s handle) := by
  refine .bind (.note _ _) fun _ => .bind (.outcome _) fun r => ?_
  cases r with
  | ok => exact .pure _
  | error f => exact .bind (.note _ _) fun _ => .bind (e.retreat_failsWith _) fun _ => .throw (hstatement _ _ _ _)

/-- Running statements fails with a failure of the kind if the failure of any statement is of the kind, by induction over the
statements. -/
theorem runFrom_failsWith (hstatement : ∀ index text cause rollback?, P (.statement index text cause rollback?))
    (ss : List Statement) : ∀ index report handle, FailsWith P (e.runFrom index report handle ss) := by
  induction ss with
  | nil => exact fun _ _ _ => .pure _
  | cons s rest ih =>
    intro index report handle
    unfold runFrom
    split
    · exact ih _ _ _
    split
    · exact .bind (.note _ _) fun _ => ih _ _ _
    · exact .bind (e.runOne_failsWith hstatement _ _ _) fun _ => ih _ _ _

variable {e}

/-- A run fails as its begin or its commit does, or with a statement. -/
theorem apply_failsWith (hbegin : FailsWith P e.begin) (hcommit : ∀ handle, FailsWith P (e.commit handle))
    (hstatement : ∀ index text cause rollback?, P (.statement index text cause rollback?)) (ss : List Statement) :
    FailsWith P (e.apply ss) := by
  refine .bind hbegin fun handle => .bind (e.runFrom_failsWith hstatement ss _ _ _) fun p => ?_
  refine .outcome_bind (hcommit _) (fun _ => ?_) fun f hf => ?_
  · exact .bind (.note _ _) fun _ => .bind (.outcome _) fun _ => .pure _
  · exact .bind (.note _ _) fun _ => .bind (e.retreat_failsWith _) fun _ => .throw hf

end Executor

/-- Statements that run on a connection never fail as a configuration. -/
theorem Client.apply_failsWith (c : Client τ) (ss : List Statement) : FailsWith Failure.NotConfig (c.executor.apply ss) := by
  refine Executor.apply_failsWith ?_ (fun handle => ?_) (fun _ _ _ _ => nofun) ss
  · exact .bind (Exchange.failsWith (fun _ => nofun) _) fun _ => .bind (.note _ _) fun _ => .pure _
  · exact .bind (Exchange.failsWith (fun _ => nofun) _) fun _ => .pure _

/-- A script that cannot be loaded is missing or cannot be read. -/
theorem Script.notConfig_of_load {t : FileTree} {directory : String} {e : Failure} (h : Script.load t directory = .error e) :
    e.NotConfig := by
  rcases Action.bind_eq_error h with hfind | ⟨path, -, h⟩
  · rcases Action.bind_eq_error hfind with hlist | ⟨names, -, hfirst⟩
    · obtain ⟨fault, -, rfl⟩ := Action.exists_of_mapError hlist
      exact nofun
    · split at hfirst
      · nomatch hfirst
      · obtain rfl := Except.error.inj hfirst
        exact nofun
  · rcases Action.bind_eq_error h with hread | ⟨text, -, h⟩
    · obtain ⟨fault, -, rfl⟩ := Action.exists_of_mapError hread
      exact nofun
    · nomatch h

/-- With a known character set an update never fails as a configuration. -/
theorem updateWith_failsWith (k : Connector τ) {target : Connection} {charset : Charset}
    (hcharset : Charset.ofName target.charset = .ok charset) (scripts : String) (timing : Timing) :
    FailsWith Failure.NotConfig (updateWith k target scripts timing) := by
  have hconnect : FailsWith Failure.NotConfig (k.connect target) := by
    refine .bind (.ofExcept fun e he => ?_) fun _ => Exchange.failsWith (fun _ => nofun) _
    rw [hcharset] at he
    nomatch he
  have hread : FailsWith Failure.NotConfig (Script.read (τ := τ) scripts) :=
    .bind (World.failsWith_askFiles fun _ _ => Script.notConfig_of_load) fun _ => .bind (.note _ _) fun _ => .pure _
  refine .bind (.bind hconnect fun _ => .note _ _) fun _ => .bind (.note _ _) fun _ => .bind hread fun p => ?_
  have hrun : FailsWith Failure.NotConfig (World.withPeer (k.client.executor.apply (Script.split p.2).statements)) :=
    World.failsWith_withPeer (k.client.apply_failsWith _)
  dsimp only
  split
  · exact .bind (.note _ _) fun _ => .bind (.note _ _) fun _ => .bind (.note _ _) fun _ => .bind hrun fun _ =>
      .bind (.note _ _) fun _ => .pure _
  · exact .bind (.note _ _) fun _ => .bind (.note _ _) fun _ => .bind hrun fun _ => .bind (.note _ _) fun _ => .pure _

/-! ## What is lost -/

/-- Making room for a database takes away the file at its place, and no other. -/
theorem clearDatabase_spares_iff {path : String} {j l : Journal (World τ)} {u : Unit}
    (h : Action.on (clearDatabase path) j = (.ok u, l)) :
    l.state.peer = j.state.peer ∧
    ∀ p c, j.state.files.get? p = some (.file c) →
      (l.state.files.get? p = some (.file c) ↔ j.state.files.placeOf path ≠ .ok p) := by
  obtain ⟨found, j₁, hask, h⟩ := Action.exists_of_on_bind h
  obtain ⟨hask, hpeer⟩ := World.eq_of_on_onFiles hask
  rw [FileAction.run_ask] at hask
  obtain ⟨hfound, hfiles⟩ := Prod.mk.inj hask
  rw [hfiles] at hfound ⊢
  cases found with
  | false =>
    obtain ⟨-, rfl⟩ := Prod.mk.inj h
    refine ⟨hpeer, fun p c hp => iff_of_true hp fun hplace => ?_⟩
    rw [FileTree.get?_of_hasEntry hfound hplace] at hp
    nomatch hp
  | true =>
    obtain ⟨_, j₂, hnote, h⟩ := Action.exists_of_on_bind h
    obtain ⟨-, rfl⟩ := Prod.mk.inj hnote
    obtain ⟨hremoved, hpeer'⟩ := World.eq_of_on_change h
    exact ⟨hpeer'.trans hpeer, fun p c hp => FileTree.get?_of_removed_iff hremoved hp⟩

/-- The character set of a database that was created is known. -/
theorem exists_of_createDatabase (k : Connector τ) {c target : Connection} {options : BuildOptions} {directory : String}
    {j l : Journal (World τ)} (h : Action.on (createDatabase k c options directory) j = (.ok target, l)) :
    ∃ charset, Charset.ofName target.charset = .ok charset := by
  obtain ⟨_, _, -, h⟩ := Action.exists_of_on_bind h
  obtain ⟨_, _, -, h⟩ := Action.exists_of_on_bind h
  obtain ⟨_, _, -, h⟩ := Action.exists_of_on_bind h
  obtain ⟨charset, _, hcharset, h⟩ := Action.exists_of_on_bind h
  obtain ⟨_, _, -, h⟩ := Action.exists_of_on_bind h
  obtain ⟨_, _, -, h⟩ := Action.exists_of_on_bind h
  obtain rfl := Except.ok.inj (Prod.mk.inj h).1
  exact ⟨charset, (Prod.mk.inj hcharset).1⟩

/-- A database that is not created because of the configuration has an unknown character set. By then the directory was created
and room was made. -/
theorem createDatabase_spares_iff (k : Connector τ) {c : Connection} {options : BuildOptions} {directory reason : String}
    {j l : Journal (World τ)} (h : Action.on (createDatabase k c options directory) j = (.error (.config reason), l)) :
    Charset.ofName c.charset = .error (.config reason) ∧ l.state.peer = j.state.peer ∧
    ∃ made, (ExceptT.run (FileAction.createDirectories directory)).run j.state.files = (.ok (), made) ∧
      ∀ p content, j.state.files.get? p = some (.file content) →
        (l.state.files.get? p = some (.file content) ↔ made.placeOf (Path.join directory options.databaseFile) ≠ .ok p) := by
  have hfiles : ∀ {α : Type} (a : FileAction α), FailsWith Failure.NotConfig (World.onFiles (τ := τ) a) :=
    World.failsWith_onFiles fun _ => nofun
  have hclear : FailsWith Failure.NotConfig (clearDatabase (τ := τ) (Path.join directory options.databaseFile)) := by
    refine .bind (hfiles _) fun found => ?_
    cases found with
    | false => exact .pure _
    | true => exact .bind (.note _ _) fun _ => hfiles _
  rcases Action.on_bind_eq_error h with h | ⟨_, j₁, hmade, h⟩
  · exact absurd rfl (hfiles _ j _ (congrArg Prod.fst h) reason)
  rcases Action.on_bind_eq_error h with h | ⟨_, j₂, hcleared, h⟩
  · exact absurd rfl (hclear j₁ _ (congrArg Prod.fst h) reason)
  rcases Action.on_bind_eq_error h with h | ⟨_, j₃, hnote, h⟩
  · nomatch (Prod.mk.inj h).1
  obtain ⟨-, rfl⟩ := Prod.mk.inj hnote
  rcases Action.on_bind_eq_error h with h | ⟨charset, j₄, -, h⟩
  · obtain ⟨hcharset, rfl⟩ := Prod.mk.inj h
    obtain ⟨hrun, hpeer⟩ := World.eq_of_on_onFiles hmade
    obtain ⟨hpeer', hspares⟩ := clearDatabase_spares_iff hcleared
    refine ⟨hcharset, hpeer'.trans hpeer, j₁.state.files, hrun, fun p content hp => hspares p content ?_⟩
    have hkept := FileAction.createDirectories_keeps directory j.state.files p _ hp
    rw [hrun] at hkept
    exact hkept
  -- Behind the check of the character set nothing fails as a configuration any more.
  have hrest : FailsWith Failure.NotConfig ((k.create { c with database := Path.join directory options.databaseFile } charset
      options.pageSize).toAction (fun fault => .database ("error during database file creation: " ++ fault.message))) :=
    Exchange.failsWith (fun _ => nofun) _
  rcases Action.on_bind_eq_error h with h | ⟨_, _, -, h⟩
  · exact absurd rfl (hrest j₄ _ (congrArg Prod.fst h) reason)
  · nomatch h

/-- A build that fails because of the configuration has an unknown character set. A file that was there before is there with the
same content exactly if the path of the new database does not lead to its place. -/
theorem buildDatabase_spares_iff (k : Connector τ) (config : Config) (directory scripts : String) (timing : Timing) {w : World τ}
    {reason : String} {j : Journal (World τ)}
    (h : Action.start (buildDatabase k config directory scripts timing) w = (.error (.config reason), j)) :
    Charset.ofName config.connection.charset = .error (.config reason) ∧ j.state.peer = w.peer ∧
    ∃ made, (ExceptT.run (FileAction.createDirectories directory)).run w.files = (.ok (), made) ∧
      ∀ p content, w.files.get? p = some (.file content) →
        (j.state.files.get? p = some (.file content) ↔
          made.placeOf (Path.join directory config.building.databaseFile) ≠ .ok p) := by
  rcases Action.on_bind_eq_error h with h | ⟨_, j₁, hnote, h⟩
  · nomatch (Prod.mk.inj h).1
  obtain ⟨-, rfl⟩ := Prod.mk.inj hnote
  rcases Action.on_bind_eq_error h with h | ⟨target, j₂, hcreated, h⟩
  · exact createDatabase_spares_iff k h
  · obtain ⟨charset, hcharset⟩ := exists_of_createDatabase k hcreated
    exact absurd rfl (updateWith_failsWith k hcharset scripts timing j₂ _ (congrArg Prod.fst h) reason)

/-- Settings that are accepted although their character set is not known. -/
def koi8Config : Config := .ofConnection ⟨"localhost", 3050, "x", "SYSDBA", "", "KOI8R"⟩

/-- A world with two files where databases are created: an older database and notes. -/
def workshop : World Scripted :=
  let files := (FileTree.fresh ["work"]).insert ["work", "db"] .directory
  let files := files.insert ["work", "db", "database_1.fdb"] (.file (.text "rows"))
  ⟨files.insert ["work", "db", "notes.txt"] (.file (.text "notes")), .fresh⟩

/-- Build a database of the unknown character set in the directory of the older one. -/
def buildKoi8 : Except Failure UpdateReport × Journal (World Scripted) :=
  Action.start (buildDatabase Scripted.connector koi8Config "db" "scripts" ⟨"", 0⟩) workshop

/-- What is said of the unknown character set. -/
def koi8Refusal : String := "unsupported charset 'KOI8R'. Supported: UTF8, ISO8859_1, WIN1252"

/-- The notes are kept, as the path of the new database does not lead to them. -/
theorem buildKoi8_spares_notes : buildKoi8.1 = .error (.config koi8Refusal) ∧
    buildKoi8.2.state.files.get? ["work", "db", "notes.txt"] = some (.file (.text "notes")) := by
  have hrefused : buildKoi8.1 = .error (.config koi8Refusal) := Action.eq_error_of_refusal? (by decide +kernel)
  have hrun := Action.eq_mk_of_fst hrefused
  refine ⟨hrefused, ?_⟩
  obtain ⟨-, -, made, hmade, hspares⟩ := buildDatabase_spares_iff Scripted.connector koi8Config "db" "scripts" ⟨"", 0⟩ hrun
  obtain rfl := congrArg Prod.snd hmade
  exact (hspares _ _ (by decide +kernel)).mpr (ne_of_apply_ne Except.toOption (by decide +kernel))

/-- The older database is lost, and no database takes its place. -/
theorem buildKoi8_loses_database : koi8Config.defect? = none ∧
    workshop.files.readText "db/database_1.fdb" = .ok "rows" ∧
    buildKoi8.1 = .error (.config koi8Refusal) ∧
    buildKoi8.2.state.files.isFile "db/database_1.fdb" = false := by
  refine ⟨by decide +kernel, Action.eq_ok_of_toOption (by decide +kernel), Action.eq_error_of_refusal? (by decide +kernel), ?_⟩
  decide +kernel

end SchemaScript
