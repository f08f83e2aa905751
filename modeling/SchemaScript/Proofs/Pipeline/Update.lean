import SchemaScript.CommandLine.Run
import SchemaScript.Pipeline.Update
import SchemaScript.Proofs.Apply.Protocol
import SchemaScript.Proofs.World

/-!
# What an update runs

An update that finds no script, or cannot read the one that it found, fails so before it makes any call. With a script it makes the
calls of running the split statements and ends as that run does (`on_updateDatabase`). The report counts the statements of the script,
and a statement that failed is the one that the tool prints under the same number when it is asked to split the script
(`updateDatabase_runs_script`). A begin or a commit of the executor may itself fail with the failure of a statement: the update then
passes it on as it is, and its number means nothing here (`updateDatabase_borrowing`). No file is changed in any case.
-/

namespace SchemaScript

variable {σ τ η : Type}

/-! ## Loading a script -/

namespace Script

/-- A script is found and then read. -/
theorem load_eq (t : FileTree) (directory : String) :
    load t directory =
      match find t directory with
      | .error f => .error f
      | .ok path =>
        match t.readText path with
        | .error fault => .error (.file (.unreadable path fault))
        | .ok text => .ok (path, text) := by
  rw [load]
  cases find t directory with
  | error f => rfl
  | ok path =>
    change ((t.readText path).mapError _ >>= _) = _
    dsimp only
    cases t.readText path <;> rfl

/-- A script that is found is read, and if that fails the failure names it. -/
theorem load_of_find {t : FileTree} {directory path : String} (h : find t directory = .ok path) :
    load t directory =
      match t.readText path with
      | .error fault => .error (.file (.unreadable path fault))
      | .ok text => .ok (path, text) := by
  rw [load_eq, h]

/-- A script that is loaded is reported; no file is changed. -/
theorem on_read (directory : String) (j : Journal (World τ)) :
    Action.on (read directory) j =
      match load j.state.files directory with
      | .error f => (.error f, j)
      | .ok script => (.ok script, { j with log := j.log ++
          [⟨.debug, "Loaded script " ++ script.1 ++ " (" ++ toString script.2.utf8ByteSize ++ " bytes)"⟩] }) := by
  rw [read, Action.on_bind, World.on_askFiles]
  cases load j.state.files directory <;> rfl

theorem shows_read (view : σ → τ) (directory : String) : Action.Shows (World.under view) (read directory) (read directory) :=
  .bind (World.shows_askFiles _) fun _ => .bind (.note _ _) fun _ => .pure _

end Script

/-! ## Running it -/

/-- What completes no statement of a script is reported. -/
def Script.reportRest (path : String) (split : Script.Split) : Action σ Unit :=
  match split.discarded? with
  | some rest => Action.note .warn ("Discarding unterminated text at end of " ++ path ++ ": '" ++ rest ++ "'")
  | none => return ()

/-- Reporting the rest of a script changes nothing but the log. -/
theorem Script.on_reportRest (path : String) (split : Script.Split) (j : Journal σ) :
    ∃ log, Action.on (reportRest path split) j = (.ok (), ⟨j.state, log⟩) := by
  unfold reportRest
  cases split.discarded? with
  | none => exact ⟨_, rfl⟩
  | some rest => exact ⟨_, rfl⟩

/-- The report of an update whose statements all ran. -/
def UpdateReport.ofRun (path : String) (split : Script.Split) (timing : Timing) (r : ApplyReport) : UpdateReport :=
  ⟨path, split.statements.length, r.executed, r.skipped, split.discarded?.isSome, timing⟩

/-- What an update does with a split script. -/
def Executor.runScript (e : Executor τ η) (path : String) (split : Script.Split) (timing : Timing) :
    Action (World τ) UpdateReport := do
  Action.note .info ("Split " ++ path ++ " into " ++ toString split.statements.length ++ " statements")
  Action.note .info "Phase 2: Applying statements"
  let report ← World.withPeer (e.apply split.statements)
  Action.note .info ("Update completed: " ++ toString report.executed ++ " statements executed in " ++
    Decimal.fixed 1 timing.seconds ++ "s")
  return .ofRun path split timing report

/-- The parts of an update. -/
theorem updateDatabase_eq (e : Executor τ η) (directory : String) (timing : Timing) :
    updateDatabase e directory timing = (do
      Action.note .info ("Phase 1: Loading script from " ++ directory)
      let script ← Script.read directory
      Script.reportRest script.1 (Script.split script.2)
      e.runScript script.1 (Script.split script.2) timing) := by
  unfold updateDatabase
  refine congrArg (Action.note .info ("Phase 1: Loading script from " ++ directory) >>= ·) (funext fun _ => ?_)
  refine congrArg (Script.read directory >>= ·) (funext fun script => ?_)
  unfold Script.reportRest Executor.runScript UpdateReport.ofRun
  dsimp only
  cases (Script.split script.2).discarded? with
  | none => rfl
  | some rest => rfl

/-- The statements of a split script are run, and what that gives is reported; the files are left as they were. -/
theorem on_runScript (e : Executor τ η) (path : String) (split : Script.Split) (timing : Timing) (j : Journal (World τ)) :
    ∃ before run after, Action.on (e.apply split.statements) ⟨j.state.peer, before⟩ = run ∧
      Action.on (e.runScript path split timing) j =
        (run.1.map (.ofRun path split timing), ⟨{ j.state with peer := run.2.state }, after⟩) := by
  rw [Executor.runScript, Action.on_bind_ok (Action.on_note ..), Action.on_bind_ok (Action.on_note ..), Action.on_bind,
    World.on_withPeer]
  dsimp only
  generalize hbefore : j.log ++ _ ++ _ = before
  rcases hrun : Action.on (e.apply split.statements) ⟨j.state.peer, before⟩ with ⟨_ | report, k⟩
  · exact ⟨before, _, k.log, hrun, rfl⟩
  · exact ⟨before, _, _, hrun, rfl⟩

/-- An update fails as the loading of the script does, before it does anything else. With a script it runs the statements, and ends as
the run does. -/
theorem on_updateDatabase (e : Executor τ η) (directory : String) (timing : Timing) (j : Journal (World τ)) :
    match Script.load j.state.files directory with
    | .error f => ∃ log, Action.on (updateDatabase e directory timing) j = (.error f, ⟨j.state, log⟩)
    | .ok (path, text) => ∃ before run after, Action.on (e.apply (Script.split text).statements) ⟨j.state.peer, before⟩ = run ∧
        Action.on (updateDatabase e directory timing) j =
          (run.1.map (.ofRun path (Script.split text) timing), ⟨{ j.state with peer := run.2.state }, after⟩) := by
  rw [updateDatabase_eq, Action.on_bind_ok (Action.on_note ..), Action.on_bind, Script.on_read]
  dsimp only
  cases Script.load j.state.files directory with
  | error f => exact ⟨_, rfl⟩
  | ok script =>
    obtain ⟨log, hrest⟩ := Script.on_reportRest script.1 (Script.split script.2) (⟨j.state, _⟩ : Journal (World τ))
    dsimp only
    rw [Action.on_bind_ok hrest]
    exact on_runScript e script.1 (Script.split script.2) timing ⟨j.state, log⟩

/-- Updates through executors that show each other show each other. -/
theorem Executor.Shows.update {view : σ → τ} {e : Executor σ η} {e' : Executor τ η} (h : e.Shows view e') (directory : String)
    (timing : Timing) :
    Action.Shows (World.under view) (updateDatabase e directory timing) (updateDatabase e' directory timing) := by
  rw [updateDatabase_eq, updateDatabase_eq]
  refine .bind (.note _ _) fun _ => .bind (Script.shows_read view directory) fun script => .bind ?_ fun _ => ?_
  · unfold Script.reportRest
    cases (Script.split script.2).discarded? with
    | none => exact .pure _
    | some rest => exact .note _ _
  · exact .bind (.note _ _) fun _ => .bind (.note _ _) fun _ => .bind (World.shows_withPeer (h.apply _)) fun _ =>
      .bind (.note _ _) fun _ => .pure _

/-- An update through an executor that shows another one ends like the update through the other one, with the same files. -/
theorem Executor.Shows.start_update {view : σ → τ} {e : Executor σ η} {e' : Executor τ η} (h : e.Shows view e')
    (directory : String) (timing : Timing) (t : FileTree) (peer : σ) :
    match Script.load t directory with
    | .error f => ∃ log,
        Action.start (updateDatabase e directory timing) ⟨t, peer⟩ = (.error f, ⟨⟨t, peer⟩, log⟩) ∧
        Action.start (updateDatabase e' directory timing) ⟨t, view peer⟩ = (.error f, ⟨⟨t, view peer⟩, log⟩)
    | .ok (path, text) => ∃ before run after,
        Action.on (e.apply (Script.split text).statements) ⟨peer, before⟩ = run ∧
        Action.start (updateDatabase e directory timing) ⟨t, peer⟩ =
          (run.1.map (.ofRun path (Script.split text) timing), ⟨⟨t, run.2.state⟩, after⟩) ∧
        Action.start (updateDatabase e' directory timing) ⟨t, view peer⟩ =
          (run.1.map (.ofRun path (Script.split text) timing), ⟨⟨t, view run.2.state⟩, after⟩) := by
  have hrun := on_updateDatabase e directory timing ⟨⟨t, peer⟩, []⟩
  have hshows : Action.start (updateDatabase e' directory timing) ⟨t, view peer⟩ = _ := h.update directory timing ⟨⟨t, peer⟩, []⟩
  dsimp only at hrun
  rw [hshows]
  cases hload : Script.load t directory with
  | error f =>
    rw [hload] at hrun
    obtain ⟨log, hrun⟩ := hrun
    rw [hrun]
    exact ⟨log, hrun, rfl⟩
  | ok script =>
    rw [hload] at hrun
    obtain ⟨before, run, after, happly, hrun⟩ := hrun
    dsimp only
    rw [hrun]
    exact ⟨before, run, after, happly, hrun, rfl⟩

/-! ## Printing its statements -/

namespace CommandLine

/-- Whether every request to split the script of a directory succeeds and prints these statements, in the form that it asks for, as
those of the script at a path. -/
def Prints (t : FileTree) (directory path : String) (listed : List Statement) : Prop :=
  ∀ {σ : Type} (support? : Option (Connector σ)) (timing : Timing) (peer : σ) (r : Request) (logging : Logging),
    r.job = .split directory → r.logging = .ok logging →
    (r.run support? timing ⟨t, peer⟩).exitCode = 0 ∧
    (r.run support? timing ⟨t, peer⟩).output = r.report (statementsJson listed) (statementsText path listed)

/-- What is reported of a script that is loaded and split: that it was loaded, and what completes no statement of it. -/
def splitLog (path text : String) : List Entry :=
  ⟨.debug, "Loaded script " ++ path ++ " (" ++ toString text.utf8ByteSize ++ " bytes)"⟩ ::
    (Script.split text).discarded?.toList.map fun rest =>
      ⟨.warn, "Unterminated text at end of " ++ path ++ " would be discarded: '" ++ rest ++ "'"⟩

/-- A request to split the script of a directory gives the report of its statements and logs what is reported of it. -/
theorem Request.on_splitScript (r : Request) {directory path text : String} {j : Journal (World τ)}
    (h : Script.load j.state.files directory = .ok (path, text)) :
    Action.on (r.splitScript directory) j =
      (.ok (r.report (statementsJson (Script.split text).statements) (statementsText path (Script.split text).statements)),
        { j with log := j.log ++ splitLog path text }) := by
  unfold splitScript splitLog
  rw [Action.on_bind, Script.on_read, h]
  dsimp only
  cases (Script.split text).discarded? with
  | none => rfl
  | some rest =>
    rw [Action.on_bind_ok (Action.on_note ..), Action.on_pure, List.append_assoc]
    rfl

/-- A request to split the script of a directory prints its statements, in the form that it asks for; what is reported goes to the log,
and nothing is changed. -/
theorem Request.run_split {r : Request} {directory path text : String} {logging : Logging} (support? : Option (Connector τ))
    (timing : Timing) (w : World τ) (hjob : r.job = .split directory) (hlogging : r.logging = .ok logging)
    (hload : Script.load w.files directory = .ok (path, text)) :
    r.run support? timing w =
      ⟨0, r.report (statementsJson (Script.split text).statements) (statementsText path (Script.split text).statements), "",
        logging.format, logging.select (splitLog path text), w⟩ := by
  have hperform : r.perform support? timing = r.splitScript directory := by
    rw [Request.perform, hjob]
  have hsplit := r.on_splitScript (j := ⟨w, []⟩) hload
  rw [Request.run, hlogging, hperform, Action.start_eq_on, hsplit]
  rfl

/-- The statements of a script that is loaded are printed. -/
theorem prints_of_load {t : FileTree} {directory path text : String} (h : Script.load t directory = .ok (path, text)) :
    Prints t directory path (Script.split text).statements := by
  intro σ support? timing peer r logging hjob hlogging
  rw [Request.run_split support? timing ⟨t, peer⟩ hjob hlogging h]
  exact ⟨rfl, rfl⟩

end CommandLine

/-! ## The whole update -/

namespace Executor

open Watched

/-- The calls that an update makes, in order. -/
def updateEvents (e : Executor τ η) (directory : String) (timing : Timing) (w : World τ) : List Event :=
  (Action.start (updateDatabase e.watched directory timing) ⟨w.files, ⟨w.peer, []⟩⟩).2.state.peer.events

/-- What an update does with a script that was found and read: the calls it makes and how it ends. -/
structure Applies (e : Executor τ η) (path : String) (split : Script.Split) (s : τ) (events : List Event)
    (result : Except Failure UpdateReport) : Prop where
  /-- The calls are those of running the statements, and the update fails exactly if the run does, with its failure. -/
  runs : ∃ log, events = e.eventsBehind log split.statements s ∧
    failure? result = failure? (Action.on (e.apply split.statements) ⟨s, log⟩).1
  /-- A report names the script and accounts for each of its statements and for what completes none. -/
  reports : ∀ r, result = .ok r → r.scriptPath = path ∧ r.statements = split.statements.length ∧
    r.statements = r.executed + r.skipped ∧ (r.discarded = true ↔ ∃ rest, split.discarded? = some rest)
  /-- A failed statement is named by its place, unless the failure is one that the executor itself gave to its begin or its commit. -/
  names : ∀ f index text cause rollback?, result = .error f → f = .statement index text cause rollback? →
    split.statements[index]? = some ⟨text⟩ ∨ ⟨.begin, some f⟩ ∈ events ∨ ⟨.commit, some f⟩ ∈ events

/-- Whatever course the run of a script takes, the update applies the script. -/
theorem applies_of_takes (e : Executor τ η) (path : String) (split : Script.Split) (timing : Timing) (s : τ) (log : List Entry) :
    e.Applies path split s (e.eventsBehind log split.statements s)
      ((Action.on (e.apply split.statements) ⟨s, log⟩).1.map (.ofRun path split timing)) := by
  obtain ⟨c, hc, hevents, hresult⟩ := e.on_apply_takes split.statements s log
  rw [hresult]
  refine ⟨⟨log, rfl, ?_⟩, ?_, ?_⟩
  · rw [hresult, failure?_map]
  · intro r hr
    cases c with
    | committed =>
      obtain rfl := Except.ok.inj hr
      refine ⟨rfl, rfl, (ApplyReport.executed_add_skipped split.statements).symm, ?_⟩
      exact Option.isSome_iff_exists
    | _ => cases hr
  · intro f index text cause rollback? hf hstatement
    rw [hevents]
    cases c with
    | refused f' =>
      obtain rfl := Except.error.inj hf
      exact .inr (.inl (by simp [Course.events]))
    | committed => cases hf
    | uncommitted f' rollback =>
      obtain rfl := Except.error.inj hf
      exact .inr (.inr (by simp [Course.events]))
    | stopped stop =>
      obtain rfl := Except.error.inj hf
      obtain ⟨rfl, rfl, -, -⟩ := Failure.statement.inj hstatement
      refine .inl ?_
      rw [Nat.zero_add]
      exact stop.getElem?_of_possible hc

/-- An update leaves every file as it was. If its script is not found or not read it fails so and makes no call; otherwise it applies
the statements of the script, which are those that the tool prints for the same directory. -/
theorem updateDatabase_runs_script (e : Executor τ η) (directory : String) (timing : Timing) (w : World τ) :
    (Action.start (updateDatabase e directory timing) w).2.state.files = w.files ∧
    match Script.find w.files directory with
    | .error f =>
      (Action.start (updateDatabase e directory timing) w).1 = .error f ∧ e.updateEvents directory timing w = []
    | .ok path =>
      match w.files.readText path with
      | .error fault =>
        (Action.start (updateDatabase e directory timing) w).1 = .error (.file (.unreadable path fault)) ∧
        e.updateEvents directory timing w = []
      | .ok text =>
        e.Applies path (Script.split text) w.peer (e.updateEvents directory timing w)
          (Action.start (updateDatabase e directory timing) w).1 ∧
        CommandLine.Prints w.files directory path (Script.split text).statements := by
  have hrun := e.watched_shows.start_update directory timing w.files ⟨w.peer, []⟩
  rw [Script.load_eq] at hrun
  rw [updateEvents]
  cases hfind : Script.find w.files directory with
  | error f =>
    rw [hfind] at hrun
    obtain ⟨log, hwatched, hplain⟩ := hrun
    rw [hwatched, hplain]
    exact ⟨rfl, rfl, rfl⟩
  | ok path =>
    rw [hfind] at hrun
    dsimp only at hrun ⊢
    cases hread : w.files.readText path with
    | error fault =>
      rw [hread] at hrun
      obtain ⟨log, hwatched, hplain⟩ := hrun
      rw [hwatched, hplain]
      exact ⟨rfl, rfl, rfl⟩
    | ok text =>
      rw [hread] at hrun
      obtain ⟨before, run, after, happly, hwatched, hplain⟩ := hrun
      have hload : Script.load w.files directory = .ok (path, text) := by
        rw [Script.load_of_find hfind, hread]
      have hshown : Action.on (e.apply (Script.split text).statements) ⟨w.peer, before⟩ = _ :=
        e.watched_apply _ ⟨⟨w.peer, []⟩, before⟩
      have happlies := e.applies_of_takes path (Script.split text) timing w.peer before
      rw [eventsBehind, hshown, happly] at happlies
      rw [hwatched, hplain]
      exact ⟨rfl, happlies, CommandLine.prints_of_load hload⟩

/-- A directory `s` that holds the script `a.sql`. -/
def scriptFolder (content : Content) : World Unit :=
  ⟨((FileTree.fresh []).insert ["s"] .directory).insert ["s", "a.sql"] (.file content), ()⟩

/-- An executor whose begin fails as a statement of another script did. -/
def borrowing : Executor Unit Unit where
  begin := throw (.statement 0 "X" "down" none)
  execute _ _ := return ()
  commit _ := return ()
  rollback _ := return ()
  release _ := return ()

/-- A begin that fails as a statement of another script did makes the update fail so, with a statement that is not the one printed
under its number. An update that cannot read its script does not fail with the error of reading alone: the path stands before it. -/
theorem updateDatabase_borrowing :
    ((Action.start (updateDatabase borrowing "s" ⟨"", 0⟩) (scriptFolder (.text "A;"))).1 = .error (.statement 0 "X" "down" none) ∧
      CommandLine.Prints (scriptFolder (.text "A;")).files "s" "s/a.sql" [⟨"A"⟩] ∧
      ([⟨"A"⟩] : List Statement)[0]? ≠ some ⟨"X"⟩) ∧
    (Script.find (scriptFolder (.raw [0xff])).files "s" = .ok "s/a.sql" ∧
      (scriptFolder (.raw [0xff])).files.readText "s/a.sql" = .error .notUtf8 ∧
      (Action.start (updateDatabase borrowing "s" ⟨"", 0⟩) (scriptFolder (.raw [0xff]))).1 =
        .error (.file (.unreadable "s/a.sql" .notUtf8)) ∧
      (Action.start (updateDatabase borrowing "s" ⟨"", 0⟩) (scriptFolder (.raw [0xff]))).1 ≠ .error (.file .notUtf8)) := by
  constructor
  · have hload : Script.load (scriptFolder (.text "A;")).files "s" = .ok ("s/a.sql", "A;") :=
      Action.eq_ok_of_toOption (by decide +kernel)
    have hsplit : (Script.split "A;").statements = [⟨"A"⟩] := by decide +kernel
    have hupdate := on_updateDatabase borrowing "s" ⟨"", 0⟩ ⟨scriptFolder (.text "A;"), []⟩
    rw [hload] at hupdate
    obtain ⟨before, run, after, happly, hrun⟩ := hupdate
    have hbegin : Action.on (borrowing.apply (Script.split "A;").statements) ⟨(), before⟩ =
        (.error (.statement 0 "X" "down" none), ⟨(), before⟩) := Action.on_bind_error rfl
    refine ⟨?_, hsplit ▸ CommandLine.prints_of_load hload, by decide⟩
    rw [Action.start_eq_on, hrun, ← happly, hbegin]
    rfl
  · have hfind : Script.find (scriptFolder (.raw [0xff])).files "s" = .ok "s/a.sql" :=
      Action.eq_ok_of_toOption (by decide +kernel)
    have hlocate : (scriptFolder (.raw [0xff])).files.locate "s/a.sql" = .ok (["s", "a.sql"], .file (.raw [0xff])) :=
      Action.eq_ok_of_toOption (by decide +kernel)
    have hread : (scriptFolder (.raw [0xff])).files.readText "s/a.sql" = .error .notUtf8 := by
      rw [FileTree.readText, hlocate]
      rfl
    have hload : Script.load (scriptFolder (.raw [0xff])).files "s" = .error (.file (.unreadable "s/a.sql" .notUtf8)) := by
      rw [Script.load_of_find hfind, hread]
    have hupdate := on_updateDatabase borrowing "s" ⟨"", 0⟩ ⟨scriptFolder (.raw [0xff]), []⟩
    rw [hload] at hupdate
    obtain ⟨log, hrun⟩ := hupdate
    have hfails := congrArg Prod.fst hrun
    exact ⟨hfind, hread, hfails, fun h => nomatch hfails.symm.trans h⟩

end Executor

end SchemaScript
