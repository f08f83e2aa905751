import SchemaScript.Apply.Rehearsal
import SchemaScript.Proofs.Apply.Protocol
import SchemaScript.Script.Split

/-!
# All statements of a run or none

A collecting executor gathers the statements that it executes in the transaction and adds them to the committed ones when the
transaction commits (`Collecting`); which of its calls fail is left open, and may change between two runs. Whatever fails, a
run that returns a report commits its executable statements and the report counts them, and a run that returns a failure commits
nothing (`apply_ensures`). So what is committed behind any sequence of runs is what the successful ones committed, in order
(`run_commits`). A rehearsal is a collecting executor (`Rehearsal.collecting`).
-/

namespace SchemaScript

open SchemaScript.Action (Ensures)

/-- The texts of the statements that are executed, in order. -/
def Statement.executableTexts (ss : List Statement) : List String := (ss.filter Statement.isExecutable).map Statement.text

namespace Statement

/-- The text of an executable statement comes first. -/
theorem executableTexts_cons_of_executable {s : Statement} (h : s.isExecutable = true) (ss : List Statement) :
    executableTexts (s :: ss) = s.text :: executableTexts ss := by
  simp [executableTexts, h]

/-- A skipped statement adds no text. -/
theorem executableTexts_cons_of_not_executable {s : Statement} (h : s.isExecutable = false) (ss : List Statement) :
    executableTexts (s :: ss) = executableTexts ss := by
  simp [executableTexts, h]

/-- The report of statements that all ran counts the executable ones. -/
theorem executed_count (ss : List Statement) : (ApplyReport.zero.count ss).executed = (executableTexts ss).length := by
  simp [ApplyReport.count, ApplyReport.zero, executableTexts, List.countP_eq_length_filter]

end Statement

/-- An executor that collects the statements of a transaction in its handle, and adds them to the committed ones when the
transaction commits and not otherwise. -/
structure Collecting (τ η : Type) where
  executor : Executor τ η
  /-- The statements committed so far. -/
  committed : τ → List String
  /-- The statements that a transaction holds. -/
  collected : η → List String
  begin_ensures (cs : List String) : Ensures (committed · = cs) executor.begin fun r t =>
    committed t = cs ∧ ∀ handle, r = .ok handle → collected handle = []
  execute_ensures (cs : List String) (sql : String) (handle : η) :
    Ensures (committed · = cs) (executor.execute sql handle) fun r t =>
      committed t = cs ∧ ∀ handle', r = .ok handle' → collected handle' = collected handle ++ [sql]
  commit_ensures (cs : List String) (handle : η) : Ensures (committed · = cs) (executor.commit handle) fun r t =>
    committed t = match r with
      | .ok _ => cs ++ collected handle
      | .error _ => cs
  rollback_ensures (cs : List String) (handle : η) :
    Ensures (committed · = cs) (executor.rollback handle) fun _ t => committed t = cs
  release_ensures (cs : List String) (handle : η) :
    Ensures (committed · = cs) (executor.release handle) fun _ t => committed t = cs

namespace Collecting

variable {τ η : Type} (c : Collecting τ η)

/-! ## One run -/

/-- Going back commits nothing. -/
theorem retreat_ensures (cs : List String) (handle : η) :
    Ensures (c.committed · = cs) (c.executor.retreat handle) fun _ t => c.committed t = cs := by
  unfold Executor.retreat
  refine .note_bind (.outcome_bind (c.rollback_ensures cs handle) (fun _ => ?_) fun _ => ?_)
  · exact .pure fun _ h => h
  · exact .note_bind (.pure fun _ h => h)

/-- A statement that runs is collected, and nothing is committed. -/
theorem runOne_ensures (cs : List String) (index : Nat) (s : Statement) (handle : η) :
    Ensures (c.committed · = cs) (c.executor.runOne index s handle) fun r t =>
      c.committed t = cs ∧ ∀ handle', r = .ok handle' → c.collected handle' = c.collected handle ++ [s.text] := by
  unfold Executor.runOne
  refine .note_bind (.outcome_bind (c.execute_ensures cs s.text handle) (fun handle' => ?_) fun f => ?_)
  · exact .pure fun t ht => ⟨ht.1, fun _ h => Except.ok.inj h ▸ ht.2 handle' rfl⟩
  · refine .note_bind (.assuming fun _ => .bind (c.retreat_ensures cs handle) (fun _ => ?_) fun _ t ht => ⟨ht, nofun⟩)
    exact .throw fun t ht => ⟨ht, nofun⟩

/-- Statements that all run are collected in order and counted, and nothing is committed before the end. -/
theorem runFrom_ensures (cs : List String) (ss : List Statement) : ∀ (index : Nat) (report : ApplyReport) (handle : η),
    Ensures (c.committed · = cs) (c.executor.runFrom index report handle ss) fun r t =>
      c.committed t = cs ∧ ∀ p, r = .ok p →
        p.1 = report.count ss ∧ c.collected p.2 = c.collected handle ++ Statement.executableTexts ss := by
  -- the induction is on the statements still to run; what the handle holds grows by one text for each executable one
  induction ss with
  | nil =>
    intro index report handle
    refine .pure fun t ht => ⟨ht, ?_⟩
    rintro _ ⟨⟩
    exact ⟨by simp [ApplyReport.count], by simp [Statement.executableTexts]⟩
  | cons s rest ih =>
    intro index report handle
    cases hs : s.isExecutable with
    | false =>
      rw [report.count_cons_of_not_executable hs, Statement.executableTexts_cons_of_not_executable hs]
      intro j hj
      obtain ⟨j', hj', heq⟩ := c.executor.runFrom_cons_of_not_executable index report handle hs rest j
      rw [heq]
      exact ih (index + 1) report.skip handle j' (hj' ▸ hj)
    | true =>
      rw [report.count_cons_of_executable hs, Statement.executableTexts_cons_of_executable hs,
        c.executor.runFrom_cons_of_executable index report handle hs rest]
      refine .bind (c.runOne_ensures cs index s handle) (fun handle' => .assuming fun hone => ?_) fun _ t ht => ?_
      · refine (ih (index + 1) report.execute handle').imp fun r t hend => ⟨hend.1, fun p hp => ?_⟩
        obtain ⟨hcount, hcollected⟩ := hend.2 p hp
        exact ⟨hcount, by rw [hcollected, hone handle' rfl, List.append_assoc, List.singleton_append]⟩
      · refine ⟨ht.1, ?_⟩
        rintro _ ⟨⟩

/-- A run that returns a report commits its executable statements and counts them; a run that fails commits nothing. -/
theorem apply_ensures (cs : List String) (ss : List Statement) :
    Ensures (c.committed · = cs) (c.executor.apply ss) fun r t =>
      match r with
      | .ok report => report = ApplyReport.zero.count ss ∧ c.committed t = cs ++ Statement.executableTexts ss
      | .error _ => c.committed t = cs := by
  unfold Executor.apply
  refine .bind (c.begin_ensures cs) (fun handle => .assuming fun hempty => ?_) fun _ _ ht => ht.1
  refine .bind (c.runFrom_ensures cs ss 0 .zero handle) (fun p => .assuming fun hrun => ?_) fun _ _ ht => ht.1
  obtain ⟨hreport, hcollected⟩ := hrun p rfl
  rw [hempty handle rfl, List.nil_append] at hcollected
  refine .outcome_bind (c.commit_ensures cs p.2) (fun handle' => ?_) fun f => ?_
  · dsimp only
    rw [hcollected]
    have hrelease := c.release_ensures (cs ++ Statement.executableTexts ss) handle'
    exact .note_bind (.outcome_bind hrelease (fun _ => .pure fun _ ht => ⟨hreport, ht⟩) fun _ => .pure fun _ ht => ⟨hreport, ht⟩)
  · exact .note_bind (.bind (c.retreat_ensures cs p.2) (fun _ => .throw fun _ ht => ht) fun _ _ ht => ht)

/-! ## A sequence of runs -/

/-- What happens to an executor: statements are run, or something about its peer changes, such as which calls fail, but not what
is committed. -/
inductive Step (c : Collecting τ η)
  | apply (ss : List Statement)
  | change (f : τ → τ) (committed_eq : ∀ t, c.committed (f t) = c.committed t)

/-- A script is split, and its statements are run. -/
def Step.script {c : Collecting τ η} (text : String) : c.Step := .apply (Script.split text).statements

/-- The statements that a step runs, if it is a run. -/
def Step.statements? {c : Collecting τ η} : c.Step → Option (List Statement)
  | apply ss => some ss
  | change .. => none

/-- A run as it is seen from outside: its statements, what it returned, and what was committed before it and after it. -/
structure Call where
  statements : List Statement
  result : Except Failure ApplyReport
  before : List String
  after : List String

/-- What a run has to commit: its executable statements if it returned a report, and nothing if it failed. -/
def Call.kept (call : Call) : List String :=
  match call.result with
  | .ok _ => Statement.executableTexts call.statements
  | .error _ => []

/-- Run statements, and keep what is seen of the run. -/
def call (ss : List Statement) (j : Journal τ) : Call × Journal τ :=
  let (r, k) := Action.on (c.executor.apply ss) j
  (⟨ss, r, c.committed j.state, c.committed k.state⟩, k)

/-- Take steps one after the other: the runs among them, and the journal behind them. -/
def run : List c.Step → Journal τ → List Call × Journal τ
  | [], j => ([], j)
  | .apply ss :: steps, j =>
    let (call, k) := c.call ss j
    let (calls, l) := run steps k
    (call :: calls, l)
  | .change f _ :: steps, j => run steps { j with state := f j.state }

/-- A run that succeeds commits its executable statements and reports their number; a run that fails commits nothing. -/
theorem call_commits (ss : List Statement) (j : Journal τ) :
    (c.call ss j).1.after = (c.call ss j).1.before ++ (c.call ss j).1.kept ∧
      ∀ report, (c.call ss j).1.result = .ok report → report.executed = (c.call ss j).1.kept.length := by
  have happly := c.apply_ensures (c.committed j.state) ss j rfl
  simp only [call, Call.kept]
  cases hr : (Action.on (c.executor.apply ss) j).1 with
  | error f =>
    rw [hr] at happly
    exact ⟨happly.trans (List.append_nil _).symm, nofun⟩
  | ok report =>
    rw [hr] at happly
    refine ⟨happly.2, ?_⟩
    rintro _ ⟨⟩
    rw [happly.1, Statement.executed_count]

/-- The runs are those that the steps ask for. -/
theorem run_statements (steps : List c.Step) (j : Journal τ) :
    (c.run steps j).1.map Call.statements = steps.filterMap Step.statements? := by
  induction steps generalizing j with
  | nil => rfl
  | cons step steps ih =>
    cases step with
    | apply ss => exact congrArg (ss :: ·) (ih (c.call ss j).2)
    | change f _ => exact ih _

/-- Whatever calls fail, and however that changes between the runs: the runs are those that the steps ask for; behind them exactly
those statements are committed in addition that the successful runs executed, in order; a run that fails adds none, and a report
counts what its run added. -/
theorem run_commits (steps : List c.Step) (j : Journal τ) :
    (c.run steps j).1.map Call.statements = steps.filterMap Step.statements? ∧
    c.committed (c.run steps j).2.state = c.committed j.state ++ (c.run steps j).1.flatMap Call.kept ∧
    ∀ call ∈ (c.run steps j).1, call.after = call.before ++ call.kept ∧
      ∀ report, call.result = .ok report → report.executed = call.kept.length := by
  refine ⟨c.run_statements steps j, ?_⟩
  induction steps generalizing j with
  | nil => exact ⟨(List.append_nil _).symm, nofun⟩
  | cons step steps ih =>
    cases step with
    | apply ss =>
      obtain ⟨hcommitted, hcalls⟩ := ih (c.call ss j).2
      have hcall := c.call_commits ss j
      refine ⟨?_, List.forall_mem_cons.mpr ⟨hcall, hcalls⟩⟩
      change c.committed (c.run steps (c.call ss j).2).2.state = (c.call ss j).1.before ++
        ((c.call ss j).1.kept ++ (c.run steps (c.call ss j).2).1.flatMap Call.kept)
      rw [hcommitted, ← List.append_assoc, ← hcall.1]
      rfl
    | change f hf =>
      obtain ⟨hcommitted, hcalls⟩ := ih { j with state := f j.state }
      refine ⟨?_, hcalls⟩
      change c.committed (c.run steps { j with state := f j.state }).2.state = _
      rw [hcommitted, hf]
      rfl

end Collecting

namespace Rehearsal

/-- A call that is told to fail does nothing else. -/
theorem on_failIf (condition : Bool) (reason : String) (j : Journal Rehearsal) :
    Action.on (failIf condition reason) j =
      (if condition then .error (j.state.settings.failure reason) else .ok (), j) := by
  cases condition <;> rfl

/-- A statement is noted, and joins the transaction unless it is refused. -/
theorem on_execute (sql : String) (handle : List String) (j : Journal Rehearsal) :
    Action.on (executor.execute sql handle) j =
      (if j.state.settings.refuses sql then .error (j.state.settings.failure ("cannot execute: " ++ sql))
        else .ok (handle ++ [sql]), ⟨{ j.state with calls := j.state.calls ++ ["exec:" ++ sql] }, j.log⟩) := by
  change Action.on (failIf (j.state.settings.refuses sql) _ >>= fun _ => pure (handle ++ [sql])) ⟨_, j.log⟩ = _
  rw [Action.on_bind, on_failIf]
  cases j.state.settings.refuses sql <;> rfl

/-- A rehearsal collects the statements of a transaction, whatever its settings are. -/
def collecting : Collecting Rehearsal (List String) where
  executor := executor
  committed := Rehearsal.committed
  collected := id
  begin_ensures cs := by
    rintro ⟨⟨⟨_, _, failBegin, _, _⟩, _, _⟩, _⟩ h
    cases failBegin with
    | true => exact ⟨h, nofun⟩
    | false => exact ⟨h, fun _ hr => (Except.ok.inj hr).symm⟩
  execute_ensures cs sql handle := by
    intro j h
    rw [on_execute]
    refine ⟨h, fun handle' hr => ?_⟩
    cases hrefuses : j.state.settings.refuses sql with
    | true => simp [hrefuses] at hr
    | false => simpa [hrefuses] using hr.symm
  commit_ensures cs handle := by
    rintro ⟨⟨⟨_, _, _, failCommit, _⟩, _, _⟩, _⟩ h
    cases failCommit with
    | true => exact h
    | false => exact congrArg (· ++ handle) h
  rollback_ensures cs handle := by
    rintro ⟨⟨⟨_, _, _, _, failRollback⟩, _, _⟩, _⟩ h
    cases failRollback <;> exact h
  release_ensures cs handle := fun _ h => h

/-- Other calls of the rehearsal fail from here on. -/
def changeSettings (settings : Settings) : collecting.Step := .change (fun r => { r with settings := settings }) fun _ => rfl

/-- Four runs: the second cannot commit, and the third has a statement that fails and cannot be rolled back. -/
def troubledRuns : List collecting.Step :=
  [.apply [⟨"A"⟩, ⟨" commit "⟩],
    changeSettings { Settings.quiet with failCommit := true }, .script "B;\n",
    changeSettings { Settings.quiet with failOn? := some "D", failRollback := true }, .apply [⟨"C"⟩, ⟨"D"⟩],
    .script "C;\n;\nROLLBACK;\nE;"]

/-- The first and the last run commit; the last one reports the two statements that it adds. -/
theorem run_troubledRuns :
    collecting.committed (collecting.run troubledRuns ⟨.start .quiet, []⟩).2.state = ["A", "C", "E"] ∧
    ∃ call ∈ (collecting.run troubledRuns ⟨.start .quiet, []⟩).1, call.result = .ok ⟨2, 1⟩ ∧
      2 = call.kept.length ∧ call.after = call.before ++ call.kept := by
  obtain ⟨-, hcommitted, hcalls⟩ := collecting.run_commits troubledRuns ⟨.start .quiet, []⟩
  have hresults : ((collecting.run troubledRuns ⟨.start .quiet, []⟩).1.map fun call => call.result.toOption) =
      [some ⟨1, 1⟩, none, none, some ⟨2, 1⟩] := by
    decide +kernel
  refine ⟨hcommitted.trans (by decide +kernel), ?_⟩
  generalize (collecting.run troubledRuns ⟨.start .quiet, []⟩).1 = calls at hcalls hresults
  have hlast : some ⟨2, 1⟩ ∈ calls.map fun call => call.result.toOption := by simp [hresults]
  obtain ⟨call, hcall, hresult⟩ := List.mem_map.mp hlast
  have hok := Action.eq_ok_of_toOption hresult
  exact ⟨call, hcall, hok, (hcalls call hcall).2 _ hok, (hcalls call hcall).1⟩

end Rehearsal

end SchemaScript
