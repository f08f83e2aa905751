import SchemaScript.Proofs.Apply.Watch

/-!
# The course of a run

Running statements has four courses (`Course`): no transaction is opened, every statement runs and the transaction is
committed, every statement runs and a failed commit is rolled back, or one statement fails and the transaction is rolled back.
A course says which calls are made (`Course.events`) and what the run returns (`Course.result`). Two courses that the same
statements allow differ in their calls (`Course.eq_of_events_eq`).
-/

namespace SchemaScript

/-- Whether running the statement calls the executor. -/
def Statement.isExecutable (s : Statement) : Bool := !s.isBlank && !s.isTransactionControl

/-- The report with statements counted that ran to their end. -/
def ApplyReport.count (r : ApplyReport) (ss : List Statement) : ApplyReport :=
  ⟨r.executed + ss.countP Statement.isExecutable, r.skipped + ss.countP fun s => !s.isExecutable⟩

namespace ApplyReport

/-- An executable statement counts as executed. -/
theorem count_cons_of_executable (r : ApplyReport) {s : Statement} (h : s.isExecutable = true) (ss : List Statement) :
    r.count (s :: ss) = r.execute.count ss := by
  simp only [count, execute, List.countP_cons, h, Bool.not_true, Bool.false_eq_true, if_true, if_false, mk.injEq]
  omega

/-- Any other statement counts as skipped. -/
theorem count_cons_of_not_executable (r : ApplyReport) {s : Statement} (h : s.isExecutable = false) (ss : List Statement) :
    r.count (s :: ss) = r.skip.count ss := by
  simp only [count, skip, List.countP_cons, h, Bool.not_false, Bool.false_eq_true, if_true, if_false, mk.injEq]
  omega

/-- The report of statements that all ran counts each of them once. -/
theorem executed_add_skipped (ss : List Statement) : (zero.count ss).executed + (zero.count ss).skipped = ss.length := by
  simp only [count, zero, Nat.zero_add]
  rw [ss.length_eq_countP_add_countP Statement.isExecutable]
  simp

end ApplyReport

namespace Executor

open Watched

/-- The calls for statements that all run: one for each executable statement, in order. -/
def executed (ss : List Statement) : List Event :=
  (ss.filter Statement.isExecutable).map fun s => ⟨.execute s.text, none⟩

/-- An executable statement is one call. -/
theorem executed_cons_of_executable {s : Statement} (h : s.isExecutable = true) (ss : List Statement) :
    executed (s :: ss) = [⟨.execute s.text, none⟩] ++ executed ss := by
  simp [executed, h]

/-- A skipped statement is no call. -/
theorem executed_cons_of_not_executable {s : Statement} (h : s.isExecutable = false) (ss : List Statement) :
    executed (s :: ss) = executed ss := by
  simp [executed, h]

/-- Where a run stopped: at a statement that failed, behind statements that did not. -/
structure Stop where
  before : List Statement
  statement : Statement
  failure : Failure
  rollback? : Option Failure

namespace Stop

/-- Whether the stop is at an executable statement of a script. -/
def Possible (ss : List Statement) (stop : Stop) : Prop :=
  stop.before ++ [stop.statement] <+: ss ∧ stop.statement.isExecutable = true

/-- The calls up to the stop: the statement's failed call and the rollback end them. -/
def events (stop : Stop) : List Event :=
  executed stop.before ++ [⟨.execute stop.statement.text, some stop.failure⟩, ⟨.rollback, stop.rollback?⟩]

/-- What a run returns that stopped, if its first statement has the index. -/
def error (index : Nat) (stop : Stop) : Failure :=
  .statement (index + stop.before.length) stop.statement.text stop.failure.message (stop.rollback?.map Failure.message)

/-- The stop as seen from one statement earlier. -/
def behind (s : Statement) (stop : Stop) : Stop := { stop with before := s :: stop.before }

/-- A stop stays possible behind one more statement. -/
theorem Possible.behind {ss : List Statement} {stop : Stop} (h : stop.Possible ss) (s : Statement) :
    (stop.behind s).Possible (s :: ss) :=
  ⟨List.cons_prefix_cons.mpr ⟨rfl, h.1⟩, h.2⟩

/-- The statement that failed is found at its place. -/
theorem getElem?_of_possible {ss : List Statement} {stop : Stop} (h : stop.Possible ss) :
    ss[stop.before.length]? = some stop.statement := by
  obtain ⟨rest, rfl⟩ := h.1
  simp

/-- The statements before the one that failed are those before its place. -/
theorem take_of_possible {ss : List Statement} {stop : Stop} (h : stop.Possible ss) : ss.take stop.before.length = stop.before := by
  obtain ⟨rest, rfl⟩ := h.1
  simp

/-- The call of an executable statement comes before those of the stop behind it. -/
theorem events_behind_of_executable {s : Statement} (h : s.isExecutable = true) (stop : Stop) :
    (stop.behind s).events = [⟨.execute s.text, none⟩] ++ stop.events := by
  simp [events, behind, executed_cons_of_executable h]

/-- A skipped statement adds no call before those of the stop behind it. -/
theorem events_behind_of_not_executable {s : Statement} (h : s.isExecutable = false) (stop : Stop) :
    (stop.behind s).events = stop.events := by
  simp [events, behind, executed_cons_of_not_executable h]

/-- Behind one more statement the failing statement has the next number. -/
theorem error_behind (stop : Stop) (index : Nat) (s : Statement) :
    (stop.behind s).error index = stop.error (index + 1) := by
  simp [error, behind, Nat.add_assoc, Nat.add_comm 1]

/-- No commit is tried before a stop. -/
theorem events_ne_commit (stop : Stop) (f? : Option Failure) (es es' : List Event) : stop.events ≠ es ++ ⟨.commit, f?⟩ :: es' := by
  intro h
  have hmem : ⟨.commit, f?⟩ ∈ stop.events := h ▸ List.mem_append_right es List.mem_cons_self
  simp [events, executed] at hmem

/-- A statement that ran cannot be one that failed: two stops with the same calls behind them are equally far. -/
theorem length_le_of_executed_eq {ss : List Statement} {stop stop' : Stop} (h : stop.Possible ss) (h' : stop'.Possible ss)
    (he : executed stop.before = executed stop'.before) : stop'.before.length ≤ stop.before.length := by
  refine Nat.le_of_not_lt fun hlt => ?_
  have hp : stop.before ++ [stop.statement] <+: stop'.before :=
    List.prefix_of_prefix_length_le h.1 ((List.prefix_append _ _).trans h'.1) (by rw [List.length_append, List.length_singleton]; omega)
  have hle := (hp.sublist.filter Statement.isExecutable).length_le
  have hlen := congrArg List.length he
  simp only [executed, List.length_map] at hlen
  rw [List.filter_append, List.filter_cons_of_pos h.2, List.length_append, List.length_cons] at hle
  omega

/-- The calls of a stop say where it is and what failed. -/
theorem eq_of_events_eq {ss : List Statement} {stop stop' : Stop} (h : stop.Possible ss) (h' : stop'.Possible ss)
    (he : stop.events = stop'.events) : stop = stop' := by
  obtain ⟨hx, hy⟩ := List.append_inj' he rfl
  have hbefore : stop.before = stop'.before := by
    have hlen := Nat.le_antisymm (length_le_of_executed_eq h' h hx.symm) (length_le_of_executed_eq h h' hx)
    have hp := List.prefix_of_prefix_length_le ((List.prefix_append _ _).trans h.1) ((List.prefix_append _ _).trans h'.1)
      (Nat.le_of_eq hlen)
    exact hp.eq_of_length hlen
  rcases stop with ⟨before, ⟨text⟩, failure, rollback?⟩
  rcases stop' with ⟨before', ⟨text'⟩, failure', rollback?'⟩
  simp_all

end Stop

/-- How a run can go. -/
inductive Course
  /-- No transaction was opened. -/
  | refused (f : Failure)
  /-- Every statement ran and the transaction was committed. -/
  | committed
  /-- Every statement ran, the commit failed, and the transaction was rolled back. -/
  | uncommitted (f : Failure) (rollback? : Option Failure)
  /-- A statement failed, and the transaction was rolled back. -/
  | stopped (stop : Stop)

namespace Course

/-- Whether statements allow the course. -/
def Possible (ss : List Statement) : Course → Prop
  | refused _ | committed | uncommitted .. => True
  | stopped stop => stop.Possible ss

/-- The calls of a course. -/
def events (ss : List Statement) : Course → List Event
  | refused f => [⟨.begin, some f⟩]
  | committed => ⟨.begin, none⟩ :: (executed ss ++ [⟨.commit, none⟩])
  | uncommitted f rollback? => ⟨.begin, none⟩ :: (executed ss ++ [⟨.commit, some f⟩, ⟨.rollback, rollback?⟩])
  | stopped stop => ⟨.begin, none⟩ :: stop.events

/-- What a run returns. -/
def result (ss : List Statement) : Course → Except Failure ApplyReport
  | refused f | uncommitted f _ => .error f
  | committed => .ok (ApplyReport.zero.count ss)
  | stopped stop => .error (stop.error 0)

/-- The calls of a run say which course it took. -/
theorem eq_of_events_eq {ss : List Statement} {c c' : Course} (h : c.Possible ss) (h' : c'.Possible ss)
    (he : c.events ss = c'.events ss) : c = c' := by
  cases c with
  | refused f => cases c' <;> simp_all [events]
  | committed =>
    cases c' with
    | stopped stop => exact absurd (List.cons.inj he).2.symm (stop.events_ne_commit _ _ _)
    | _ => simp_all [events]
  | uncommitted f rollback? =>
    cases c' with
    | stopped stop => exact absurd (List.cons.inj he).2.symm (stop.events_ne_commit _ _ _)
    | _ => simp_all [events]
  | stopped stop =>
    cases c' with
    | refused => simp [events] at he
    | committed => exact absurd (List.cons.inj he).2 (stop.events_ne_commit _ _ _)
    | uncommitted => exact absurd (List.cons.inj he).2 (stop.events_ne_commit _ _ _)
    | stopped stop' => rw [Stop.eq_of_events_eq h h' (List.cons.inj he).2]

end Course

end Executor

end SchemaScript
