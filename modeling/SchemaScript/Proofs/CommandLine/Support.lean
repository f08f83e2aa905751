import SchemaScript.CommandLine.Run
import SchemaScript.Proofs.CommandLine.Reading
import SchemaScript.Proofs.Config.ConnectionString
import SchemaScript.Proofs.World

/-!
# A build without database support

A command that needs a database loads its settings and fails, whatever they are, because there is nothing to give them to. A connection
string that is not accepted is refused with exit code 1 (`Config.ofConnectionString_failsWith`), and so is a configuration file that is
read and not accepted (`Config.exitCode_of_load`). So exit code 7 means that the configuration file was to be read and could not be, and
files are never changed (`run_without_support`).
-/

namespace SchemaScript

open SchemaScript.Action (FailsWith bind_eq_error exists_of_bind_eq_ok exists_of_mapError)

/-! ## Settings that are not loaded -/

/-- Segments of a connection string are refused with exit code 1. -/
theorem Connection.changeAll_failsWith (c : Connection) (segments : List (List Char)) :
    FailsWith (fun e => e.exitCode = 1) (c.changeAll segments) := by
  induction segments generalizing c with
  | nil => exact .pure c
  | cons segment rest ih =>
    intro j e he
    cases hsegment : Setting.ofSegment segment with
    | error defect =>
      rw [on_changeAll_flawed hsegment] at he
      rw [← Except.error.inj he]
      rfl
    | ok s =>
      rw [on_changeAll_cons hsegment] at he
      exact ih (c.change s) _ e he

namespace Config

/-- Settings that cannot be used are refused with exit code 1. -/
theorem exitCode_of_validate {c : Config} {e : Failure} (h : c.validate = .error e) : e.exitCode = 1 := by
  rw [validate] at h
  split at h
  · nomatch h
  · rw [← Except.error.inj h]
    rfl

/-- A connection string is refused with exit code 1. -/
theorem ofConnectionString_failsWith (text : String) : FailsWith (fun e => e.exitCode = 1) (Config.ofConnectionString text) :=
  .bind (Connection.default.changeAll_failsWith _) fun _ => .ofExcept fun _ he => exitCode_of_validate he

/-- The text of a configuration file is refused with exit code 1. -/
theorem exitCode_of_ofYaml {text : String} {e : Failure} (h : Config.ofYaml text = .error e) : e.exitCode = 1 := by
  rcases bind_eq_error h with hread | ⟨c, -, hvalid⟩
  · obtain ⟨fault, -, rfl⟩ := exists_of_mapError hread
    rfl
  · exact exitCode_of_validate hvalid

/-- Loading a configuration file fails with exit code 7 if its text cannot be read, and otherwise with exit code 1 if it fails. -/
theorem exitCode_of_load {t : FileTree} {path : String} {e : Failure} (h : Config.load t path = .error e) :
    (∃ fault, t.readText path = .error fault) ∧ e.exitCode = 7 ∨ (∃ text, t.readText path = .ok text) ∧ e.exitCode = 1 := by
  rcases bind_eq_error h with hread | ⟨text, hread, hyaml⟩
  · obtain ⟨fault, hfault, rfl⟩ := exists_of_mapError hread
    exact .inl ⟨⟨fault, hfault⟩, rfl⟩
  · exact .inr ⟨⟨text, Action.eq_ok_of_mapError hread⟩, exitCode_of_ofYaml hyaml⟩

end Config

namespace CommandLine

variable {τ : Type}

/-! ## Jobs that need a database -/

/-- The jobs that need a database. -/
def Job.NeedsDatabase : Job → Prop
  | exportScripts _ | updateDb _ | buildDb _ _ => True
  | render _ _ | split _ => False

/-- What comes of settings that are loaded or not, without database support: why they are not loaded, or that they are of no use. -/
def unsupported : Except Failure Config → Failure
  | .error e => e
  | .ok _ => Request.noDatabaseSupport

/-- The names of the levels. -/
def levelNames : List String := ["debug", "info", "warn", "error"]

/-- The names of the formats. -/
def formatNames : List String := ["text", "json"]

/-- The level of a verbosity is found if it is the name of one in any letter case, and refused otherwise. -/
theorem levelOf_cases (verbosity : String) :
    (Text.lowercase verbosity ∈ levelNames ∧ ∃ level, levelOf verbosity = .ok level) ∨
    (Text.lowercase verbosity ∉ levelNames ∧ ∃ reason, levelOf verbosity = .error (.config reason)) := by
  unfold levelOf levelNames
  split
  case h_5 hdebug hinfo hwarn herror => exact .inr ⟨by simpa using ⟨hdebug, hinfo, hwarn, herror⟩, _, rfl⟩
  all_goals
    rename_i hname
    exact .inl ⟨by simp [hname], _, rfl⟩

/-- A name is that of a log format, or it is refused as a configuration error. -/
theorem formatOf_cases (name : String) :
    (name ∈ formatNames ∧ ∃ format, formatOf name = .ok format) ∨
    (name ∉ formatNames ∧ ∃ reason, formatOf name = .error (.config reason)) := by
  unfold formatOf formatNames
  split
  · exact .inl ⟨by simp, _, rfl⟩
  · exact .inl ⟨by simp, _, rfl⟩
  · rename_i htext hjson
    exact .inr ⟨by simpa using ⟨htext, hjson⟩, _, rfl⟩

namespace Request

variable (r : Request)

/-- The logging of a request is found if its verbosity and its format are names, and refused otherwise. -/
theorem logging_cases :
    ((Text.lowercase r.verbosity ∈ levelNames ∧ r.logFormat ∈ formatNames) ∧ ∃ logging, r.logging = .ok logging) ∨
    (¬(Text.lowercase r.verbosity ∈ levelNames ∧ r.logFormat ∈ formatNames) ∧ ∃ reason, r.logging = .error (.config reason)) := by
  rcases levelOf_cases r.verbosity with ⟨hname, level, hlevel⟩ | ⟨hname, reason, hlevel⟩
  · rcases formatOf_cases r.logFormat with ⟨hname', format, hformat⟩ | ⟨hname', reason, hformat⟩
    · exact .inl ⟨⟨hname, hname'⟩, ⟨level, format⟩, by rw [logging, hlevel, hformat]; rfl⟩
    · exact .inr ⟨fun h => hname' h.2, reason, by rw [logging, hlevel, hformat]; rfl⟩
  · exact .inr ⟨fun h => hname h.1, reason, by rw [logging, hlevel]; rfl⟩

variable {r}

/-- A job that needs a database ends behind the loading of its settings. -/
theorem on_perform_none (hjob : r.job.NeedsDatabase) (timing : Timing) {j k : Journal (World τ)} {result : Except Failure Config}
    (hload : Action.on r.loadConfig j = (result, k)) : Action.on (r.perform none timing) j = (.error (unsupported result), k) := by
  have hwork {α : Type} (work : Connector τ → Config → Action (World τ) α) (report : α → Action (World τ) String) :
      Action.on (r.withDatabase none work >>= report) j = (.error (unsupported result), k) := by
    cases result with
    | error e => exact Action.on_bind_error (Action.on_bind_error hload)
    | ok config => exact Action.on_bind_error (Action.on_bind_ok hload)
  rw [perform]
  cases hr : r.job with
  | exportScripts directory => exact hwork _ _
  | updateDb scripts => exact hwork _ _
  | buildDb directory scripts => exact hwork _ _
  | render snapshot directory =>
    rw [hr] at hjob
    exact hjob.elim
  | split scripts =>
    rw [hr] at hjob
    exact hjob.elim

/-- The settings of a connection string and what is reported of them hang on the string alone, and leave the world as it is. -/
theorem on_loadConfig_string (τ : Type) (text : String) : ∃ result log, (∀ e, result = .error e → e.exitCode = 1) ∧
    ∀ (r : Request) (w : World τ), r.connectionString? = some text → Action.on r.loadConfig ⟨w, []⟩ = (result, ⟨w, log⟩) := by
  rcases hread : Action.on (Config.ofConnectionString text) ⟨(), []⟩ with ⟨result, k⟩
  have hreporting (w : World τ) :
      Action.on (Action.reporting (Config.ofConnectionString text)) ⟨w, []⟩ = (result, ⟨w, k.log⟩) := by
    rw [Action.on_reporting, hread]
  cases result with
  | error e =>
    refine ⟨.error e, k.log, fun e' he' => ?_, fun r w h => ?_⟩
    · rw [← Except.error.inj he']
      exact Config.ofConnectionString_failsWith text _ e (congrArg Prod.fst hread)
    · rw [loadConfig, h]
      exact Action.on_bind_error (hreporting w)
  | ok config =>
    refine ⟨.ok config, k.log ++ [⟨.info, "Using connection string for " ++ config.connection.target⟩], nofun, fun r w h => ?_⟩
    rw [loadConfig, h]
    exact Action.on_bind_ok (hreporting w)

/-- The settings of a file are those of the file, and leave the world as it is. -/
theorem on_loadConfig_file (h : r.connectionString? = none) (w : World τ) :
    ∃ log, Action.on r.loadConfig ⟨w, []⟩ = (Config.load w.files r.config, ⟨w, log⟩) := by
  rw [loadConfig, h]
  dsimp only
  rw [Action.on_bind, World.on_askFiles]
  cases Config.load w.files r.config with
  | error e => exact ⟨[], rfl⟩
  | ok config => exact ⟨_, rfl⟩

end Request

/-! ## Whole runs -/

/-- A command line whose logging is known, with no connection string on it or in the environment, and a configuration file that cannot be
read as text. -/
structure StopsAtFile (environment? : Option String) (words : List String) (r : Request) (t : FileTree) : Prop where
  verbosity : Text.lowercase r.verbosity ∈ levelNames
  format : r.logFormat ∈ formatNames
  environment : environment? = none
  flag : ¬Names "connection-string" words
  file : ∃ fault, t.readText r.config = .error fault

section

variable {environment? : Option String} {words : List String} {r : Request}

/-- A command line that is read as a request runs the request. -/
theorem run_of_ofWords {support? : Option (Connector τ)} {timing : Timing} (h : Request.ofWords environment? words = .ok r)
    (w : World τ) : run support? environment? timing words w = r.run support? timing w := by
  rw [run, h]

/-- The outcome of a job that needs a database, without support for it. -/
theorem Request.run_none {logging : Logging} (hlogging : r.logging = .ok logging) (hjob : r.job.NeedsDatabase) (timing : Timing)
    {w : World τ} {result : Except Failure Config} {log : List Entry} (hload : Action.on r.loadConfig ⟨w, []⟩ = (result, ⟨w, log⟩)) :
    r.run none timing w =
      ⟨(unsupported result).exitCode, "", failureText (unsupported result), logging.format, logging.select log, w⟩ := by
  rw [run, hlogging]
  dsimp only
  rw [Action.start_eq_on, on_perform_none hjob timing hload]

/-- A request whose logging is refused is refused before anything is done. -/
theorem Request.run_of_unknown {reason : String} (hlogging : r.logging = .error (.config reason)) (support? : Option (Connector τ))
    (timing : Timing) (w : World τ) : r.run support? timing w = .early 1 (failureText (.config reason)) w := by
  rw [run, hlogging]
  rfl

/-- With a connection string, a job that needs a database exits with 1, and its outcome hangs neither on the files nor on the path of the
configuration file. -/
theorem Request.run_none_of_string (τ : Type) {logging : Logging} {text : String} (hlogging : r.logging = .ok logging)
    (hjob : r.job.NeedsDatabase) (hstring : r.connectionString? = some text) (timing : Timing) :
    ∃ errors log, ∀ (path : String) (w : World τ),
      Request.run { r with config := path } none timing w = ⟨1, "", errors, logging.format, log, w⟩ := by
  obtain ⟨result, log, hrefused, hload⟩ := on_loadConfig_string τ text
  refine ⟨failureText (unsupported result), logging.select log, fun path w => ?_⟩
  rw [run_none (r := { r with config := path }) hlogging hjob timing (hload _ w hstring)]
  cases result with
  | error e => rw [unsupported, hrefused e rfl]
  | ok config => rfl

/-- With a configuration file, a job that needs a database exits with 7 if the text of the file cannot be read, and with 1 otherwise. -/
theorem Request.run_none_of_file {logging : Logging} (hlogging : r.logging = .ok logging) (hjob : r.job.NeedsDatabase)
    (hstring : r.connectionString? = none) (timing : Timing) (w : World τ) :
    (r.run none timing w).world = w ∧
    ((∃ fault, w.files.readText r.config = .error fault) ∧ (r.run none timing w).exitCode = 7 ∨
      (∃ text, w.files.readText r.config = .ok text) ∧ (r.run none timing w).exitCode = 1) := by
  obtain ⟨log, hload⟩ := on_loadConfig_file hstring w
  rw [run_none hlogging hjob timing hload]
  refine ⟨rfl, ?_⟩
  cases hresult : Config.load w.files r.config with
  | error e => exact Config.exitCode_of_load hresult
  | ok config =>
    obtain ⟨text, hread, -⟩ := exists_of_bind_eq_ok hresult
    exact .inr ⟨⟨text, Action.eq_ok_of_mapError hread⟩, rfl⟩

/-- A command that needs a database, in a build without support for it, changes nothing. It exits with 7 exactly if its logging is known,
neither the command line nor the environment gives a connection string, and the configuration file cannot be read as text; in every other
case it exits with 1. With a connection string, all that is printed and reported is the same whatever the files are and whichever
configuration file is named. -/
theorem run_without_support (timing : Timing) (w : World τ) (hwords : Request.ofWords environment? words = .ok r)
    (hjob : r.job.NeedsDatabase) :
    let outcome := run none environment? timing words w
    outcome.world = w ∧
    (outcome.exitCode = 7 ↔ StopsAtFile environment? words r w.files) ∧
    (outcome.exitCode ≠ 7 → outcome.exitCode = 1) ∧
    (environment? ≠ none ∨ Names "connection-string" words → ∀ (w' : World τ) (words' : List String) (path : String),
      Request.ofWords environment? words' = .ok { r with config := path } →
        run none environment? timing words' w' = { outcome with world := w' }) := by
  intro outcome
  have houtcome : outcome = r.run none timing w := run_of_ofWords hwords w
  have hgiven := Request.connectionString?_eq_none_iff hwords
  rcases r.logging_cases with ⟨⟨hverbosity, hformat⟩, logging, hlogging⟩ | ⟨hunknown, reason, hlogging⟩
  · obtain hstring | ⟨text, hstring⟩ := Option.eq_none_or_eq_some r.connectionString?
    · -- the configuration file is read
      obtain ⟨henvironment, hflag⟩ := hgiven.mp hstring
      obtain ⟨hworld, hcode⟩ := Request.run_none_of_file hlogging hjob hstring timing w
      rw [← houtcome] at hworld hcode
      have hno : ¬(environment? ≠ none ∨ Names "connection-string" words) := not_or.mpr ⟨not_not.mpr henvironment, hflag⟩
      rcases hcode with ⟨hfile, hcode⟩ | ⟨⟨text, hread⟩, hcode⟩
      · have hstops : StopsAtFile environment? words r w.files := ⟨hverbosity, hformat, henvironment, hflag, hfile⟩
        exact ⟨hworld, iff_of_true hcode hstops, fun h => absurd hcode h, fun h => absurd h hno⟩
      · have hstops : ¬StopsAtFile environment? words r w.files := by
          intro h
          obtain ⟨fault, hfault⟩ := h.file
          rw [hread] at hfault
          nomatch hfault
        exact ⟨hworld, by simp [hcode, hstops], fun _ => hcode, fun h => absurd h hno⟩
    · -- the connection string is read
      obtain ⟨errors, log, hrun⟩ := Request.run_none_of_string τ hlogging hjob hstring timing
      have houtcome' : outcome = ⟨1, "", errors, logging.format, log, w⟩ := houtcome.trans (hrun r.config w)
      have hstops : ¬StopsAtFile environment? words r w.files := by
        intro h
        rw [hgiven.mpr ⟨h.environment, h.flag⟩] at hstring
        nomatch hstring
      refine ⟨by rw [houtcome'], by simp [houtcome', hstops], fun _ => by rw [houtcome'], fun _ w' words' path hwords' => ?_⟩
      rw [run_of_ofWords hwords', hrun, houtcome']
  · -- the logging is refused
    have houtcome' : outcome = .early 1 (failureText (.config reason)) w := houtcome.trans (Request.run_of_unknown hlogging none timing w)
    have hstops : ¬StopsAtFile environment? words r w.files := fun h => hunknown ⟨h.verbosity, h.format⟩
    refine ⟨by rw [houtcome']; rfl, by simp [houtcome', Outcome.early, hstops], fun _ => by rw [houtcome']; rfl,
      fun _ w' words' path hwords' => ?_⟩
    have hlogging' : Request.logging { r with config := path } = .error (.config reason) := hlogging
    rw [run_of_ofWords hwords', Request.run_of_unknown hlogging', houtcome']
    rfl

/-- An update in an empty directory stops at its configuration file. With the connection string of a database in the environment it stops
because there is nothing to connect with, as it does with another file named that holds settings. -/
theorem run_updateDb_without_support :
    let words := ["update-db", "--scripts-dir=scripts"]
    let words' := ["--config=other.yaml", "update-db", "--scripts-dir=scripts"]
    let empty : World Unit := ⟨FileTree.fresh [], ()⟩
    let withFile : World Unit := ⟨(FileTree.fresh []).insert ["other.yaml"] (.file (.text "log:")), ()⟩
    (run none none ⟨"", 0⟩ words empty).exitCode = 7 ∧ (run none (some "database=a.fdb") ⟨"", 0⟩ words empty).exitCode = 1 ∧
      run none (some "database=a.fdb") ⟨"", 0⟩ words' withFile =
        { run none (some "database=a.fdb") ⟨"", 0⟩ words empty with world := withFile } := by
  intro words words' empty withFile
  have hwords : Request.ofWords none words = .ok ⟨"config.yaml", none, false, "text", "info", .updateDb "scripts"⟩ :=
    Action.eq_ok_of_toOption (by decide +kernel)
  have hstring : Request.ofWords (some "database=a.fdb") words =
      .ok ⟨"config.yaml", some "database=a.fdb", false, "text", "info", .updateDb "scripts"⟩ :=
    Action.eq_ok_of_toOption (by decide +kernel)
  have hother : Request.ofWords (some "database=a.fdb") words' =
      .ok ⟨"other.yaml", some "database=a.fdb", false, "text", "info", .updateDb "scripts"⟩ :=
    Action.eq_ok_of_toOption (by decide +kernel)
  have hstops : StopsAtFile none words ⟨"config.yaml", none, false, "text", "info", .updateDb "scripts"⟩ empty.files :=
    ⟨by decide +kernel, by decide, rfl, by simp [words, Names, longName?], _, rfl⟩
  obtain ⟨-, hcode, -, -⟩ := run_without_support ⟨"", 0⟩ empty hwords trivial
  obtain ⟨-, hcode', hone, hsame⟩ := run_without_support ⟨"", 0⟩ empty hstring trivial
  have hnot : (run none (some "database=a.fdb") ⟨"", 0⟩ words empty).exitCode ≠ 7 :=
    fun h => Option.some_ne_none _ (hcode'.mp h).environment
  exact ⟨hcode.mpr hstops, hone hnot, hsame (.inl (Option.some_ne_none _)) withFile words' "other.yaml" hother⟩

end

end CommandLine

end SchemaScript
