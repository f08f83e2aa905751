import SchemaScript.Apply.Rehearsal
import SchemaScript.Proofs.Apply.Protocol

/-!
# What a run gives account of

What a run returns can be read off its calls (`Accounts`): a report when none of them failed, the failure of the begin or of the
commit as it is, and for a statement that failed its place among all statements, skipped ones counted, its text, the text of its
failure and that of the failed rollback behind it. This holds of every run (`Executor.apply_accounts`), because every course of a run
gives account of its statements (`Course.accounts`).
-/

namespace SchemaScript.Executor

variable {τ η : Type}

/-- The calls of a run that stopped at a statement which failed: every executable statement before it ran, and the rollback is the last
call. -/
def failedAt (ss : List Statement) (index : Nat) (sql : String) (f : Failure) (rollback? : Option Failure) : List Event :=
  ⟨.begin, none⟩ :: (executed (ss.take index) ++ [⟨.execute sql, some f⟩, ⟨.rollback, rollback?⟩])

/-- What a run returned gives account of its statements and its calls. -/
structure Accounts (ss : List Statement) (events : List Event) (result : Except Failure ApplyReport) : Prop where
  /-- There is a report exactly if no call failed. -/
  succeeds_iff : (∃ report, result = .ok report) ↔ ∀ event ∈ events, event.failure? = none
  /-- A report counts each statement once, and those as executed that are neither blank nor `COMMIT` nor `ROLLBACK`. -/
  counts : ∀ report, result = .ok report → report.executed + report.skipped = ss.length ∧
    report.executed = ss.countP fun s => !s.isBlank && !s.isTransactionControl
  /-- A call to execute that failed belongs to the first executable statement whose call failed; the failure gives the place of the
  statement in the whole list, its text, the text of what the executor failed with and that of what the rollback failed with. -/
  names : ∀ sql f, ⟨.execute sql, some f⟩ ∈ events → ∃ index rollback?,
    ss[index]? = some ⟨sql⟩ ∧ (⟨sql⟩ : Statement).isExecutable = true ∧ events = failedAt ss index sql f rollback? ∧
    result = .error (.statement index sql f.message (rollback?.map Failure.message))
  /-- A begin that failed is returned as it failed. -/
  returns_begin : ∀ f, ⟨.begin, some f⟩ ∈ events → result = .error f
  /-- A commit that failed is returned as it failed, whether the rollback behind it failed or not. -/
  returns_commit : ∀ f, ⟨.commit, some f⟩ ∈ events → result = .error f

/-- No call for statements that all run failed. -/
theorem failure?_of_mem_executed {ss : List Statement} {event : Event} (h : event ∈ executed ss) : event.failure? = none := by
  obtain ⟨s, -, rfl⟩ := List.mem_map.mp h
  rfl

namespace Course

/-- A run that opened no transaction returns the failure of the begin. -/
theorem refused_accounts (ss : List Statement) (f : Failure) : Accounts ss ((refused f).events ss) ((refused f).result ss) where
  succeeds_iff := by simp [events, result]
  counts := by simp [result]
  names := by simp [events]
  returns_begin := by simp [events, result]
  returns_commit := by simp [events]

/-- A run that committed returns a report, and none of its calls failed. -/
theorem committed_accounts (ss : List Statement) : Accounts ss (committed.events ss) (committed.result ss) := by
  have hnone : ∀ event ∈ committed.events ss, event.failure? = none := by
    intro event he
    simp only [events, List.mem_cons, List.mem_append, List.not_mem_nil, or_false] at he
    rcases he with rfl | he | rfl
    · rfl
    · exact failure?_of_mem_executed he
    · rfl
  have hfailed : ∀ call f, (⟨call, some f⟩ : Event) ∉ committed.events ss := by
    intro call f he
    exact absurd (hnone _ he) (Option.some_ne_none f)
  refine ⟨⟨fun _ => hnone, fun _ => ⟨_, rfl⟩⟩, ?_, fun _ _ he => absurd he (hfailed _ _), fun _ he => absurd he (hfailed _ _),
    fun _ he => absurd he (hfailed _ _)⟩
  intro report hreport
  obtain rfl := Except.ok.inj hreport
  exact ⟨ApplyReport.executed_add_skipped ss, Nat.zero_add _⟩

/-- A run that could not commit returns the failure of the commit. -/
theorem uncommitted_accounts (ss : List Statement) (f : Failure) (rollback? : Option Failure) :
    Accounts ss ((uncommitted f rollback?).events ss) ((uncommitted f rollback?).result ss) := by
  have hcommit : ⟨.commit, some f⟩ ∈ (uncommitted f rollback?).events ss := by simp [events]
  refine ⟨⟨by simp [result], fun hnone => absurd (hnone _ hcommit) (Option.some_ne_none f)⟩, by simp [result], ?_, ?_, ?_⟩
  · simp [events, executed]
  · simp [events, executed]
  · simp [events, executed, result]

/-- A run that stopped returns the failure of the statement at which it stopped. -/
theorem stopped_accounts {ss : List Statement} {stop : Stop} (h : stop.Possible ss) :
    Accounts ss ((stopped stop).events ss) ((stopped stop).result ss) := by
  have hexecute : ⟨.execute stop.statement.text, some stop.failure⟩ ∈ (stopped stop).events ss := by
    simp [events, Stop.events]
  refine ⟨⟨by simp [result], fun hnone => absurd (hnone _ hexecute) (Option.some_ne_none _)⟩, by simp [result],
    fun sql f he => ?_, ?_, ?_⟩
  · obtain ⟨rfl, rfl⟩ : sql = stop.statement.text ∧ f = stop.failure := by
      simpa [events, Stop.events, executed] using he
    refine ⟨stop.before.length, stop.rollback?, Stop.getElem?_of_possible h, h.2, ?_, ?_⟩
    · rw [failedAt, Stop.take_of_possible h]
      rfl
    · rw [result, Stop.error, Nat.zero_add]
  · simp [events, Stop.events, executed]
  · simp [events, Stop.events, executed]

/-- Every course gives account of its statements. -/
theorem accounts {ss : List Statement} {c : Course} (h : c.Possible ss) : Accounts ss (c.events ss) (c.result ss) := by
  cases c with
  | refused f => exact refused_accounts ss f
  | committed => exact committed_accounts ss
  | uncommitted f rollback? => exact uncommitted_accounts ss f rollback?
  | stopped stop => exact stopped_accounts h

end Course

/-- Whatever an executor does, what a run returns gives account of its statements: a report counts each of them, a statement that
failed is named by its place and its text together with the texts of what went wrong, and a begin or commit that failed is returned
as it failed. -/
theorem apply_accounts (e : Executor τ η) (ss : List Statement) (s : τ) :
    Accounts ss (e.events ss s) (Action.start (e.apply ss) s).1 := by
  obtain ⟨c, hc, hevents, hresult⟩ := e.start_takes ss s
  rw [hevents, hresult]
  exact Course.accounts hc

-- A blank statement and a `COMMIT` count for the place of the one that fails, and the rollback behind it fails as well.
example :
    let settings := { Rehearsal.Settings.quiet with failOn? := some "B", failRollback := true }
    (Action.start (Rehearsal.executor.apply [⟨" "⟩, ⟨"A"⟩, ⟨"commit"⟩, ⟨"B;"⟩, ⟨"C"⟩]) (.start settings)).1 =
      .error (.statement 3 "B;" (Failure.database "cannot execute: B;").message
        (some (Failure.database "rollback failed").message)) := by
  rfl

end SchemaScript.Executor
