import Mathlib.Data.List.Forall2
import SchemaScript.Database.Writer
import SchemaScript.Proofs.Database.Watch
import SchemaScript.Proofs.Pipeline.Update

/-!
# How a transaction is closed

The handle of a transaction tells whether the transaction is open. A commit that succeeds closes it, a rollback closes it before the
call is sent, and letting go of an open one rolls it back. A run lets go of a handle only behind a rollback or behind a commit that
succeeded, so nothing is sent then: every call of a run is one call on the connection, with the answer that the run sees
(`executor_maintains`). The calls on the connection are therefore those of the course of the run. A transaction that was begun is
closed by a commit that succeeds and is the last call, or by one rollback, which is the last call whatever its answer is
(`transaction_settled`).
-/

namespace SchemaScript

open SchemaScript.Action (Ensures Preserves)

/-! ## What a run keeps up -/

/-- An executor whose calls keep up a condition on the peer. Letting go of a handle has to keep it up only behind a commit that
succeeded, which leaves the handle closed. -/
structure Executor.Maintains {τ η : Type} (e : Executor τ η) (P : τ → Prop) (Closed : η → Prop) : Prop where
  begin : Preserves P e.begin
  execute (sql : String) (handle : η) : Preserves P (e.execute sql handle)
  commit (handle : η) : Ensures P (e.commit handle) fun r t => P t ∧ ∀ handle', r = .ok handle' → Closed handle'
  rollback (handle : η) : Preserves P (e.rollback handle)
  release (handle : η) (h : Closed handle) : Preserves P (e.release handle)

namespace Executor.Maintains

variable {τ η : Type} {e : Executor τ η} {P : τ → Prop} {Closed : η → Prop}

/-- Rolling back keeps what the executor maintains. -/
theorem retreat (h : e.Maintains P Closed) (handle : η) : Preserves P (e.retreat handle) := by
  unfold Executor.retreat
  refine .bind (.note _ _) fun _ => .bind (h.rollback handle).outcome fun r => ?_
  cases r with
  | ok => exact .pure _
  | error f => exact .bind (.note _ _) fun _ => .pure _

/-- Running one statement keeps what the executor maintains. -/
theorem runOne (h : e.Maintains P Closed) (index : Nat) (s : Statement) (handle : η) : Preserves P (e.runOne index s handle) := by
  unfold Executor.runOne
  refine .bind (.note _ _) fun _ => .bind (h.execute s.text handle).outcome fun r => ?_
  cases r with
  | ok => exact .pure _
  | error f => exact .bind (.note _ _) fun _ => .bind (h.retreat handle) fun _ => .throw _

/-- Running statements from a place on keeps what the executor maintains, by induction over the statements. -/
theorem runFrom (h : e.Maintains P Closed) (ss : List Statement) : ∀ (index : Nat) (report : ApplyReport) (handle : η),
    Preserves P (e.runFrom index report handle ss) := by
  induction ss with
  | nil => exact fun _ _ _ => .pure _
  | cons s rest ih =>
    intro index report handle
    unfold Executor.runFrom
    split
    · exact ih _ _ _
    split
    · exact .bind (.note _ _) fun _ => ih _ _ _
    · exact .bind (h.runOne index s handle) fun _ => ih _ _ _

/-- What every call keeps up, a run keeps up. -/
theorem apply (h : e.Maintains P Closed) (ss : List Statement) : Preserves P (e.apply ss) := by
  unfold Executor.apply
  refine .bind h.begin fun handle => .bind (h.runFrom ss 0 .zero handle) fun p => ?_
  -- the handle that is let go of is the one that the commit gave back
  refine .outcome_bind (h.commit p.2) (fun handle' => ?_) fun f => ?_
  · refine .assuming fun hclosed => Preserves.bind (.note _ _) fun _ => ?_
    exact Preserves.bind (h.release handle' (hclosed handle' rfl)).outcome fun _ => .pure _
  · exact .assuming fun _ => Preserves.bind (.note _ _) fun _ => .bind (h.retreat p.2) fun _ => .throw _

end Executor.Maintains

/-! ## What is sent -/

/-- The call on the connection that stands for a call of a run, with the answer to it. -/
def Executor.Call.sent : Executor.Call → Except ClientFault Unit → Client.Call
  | begin => .begin
  | execute sql => .execute sql
  | commit => .commit
  | rollback => .rollback

namespace Client

open Watched (failure?)

variable {τ α : Type}

/-- A call of a run stands for a call on the connection and failed exactly if that was answered with an error. -/
def Sent (event : Executor.Event) (call : Call) : Prop :=
  ∃ answer, call = event.call.sent answer ∧ event.failure? = failure? (answer.mapError Failure.client)

/-- Whether the calls on the connection are those of the run so far, one for each. -/
def InStep (w : Watched (Overheard τ)) : Prop := List.Forall₂ Sent w.events w.peer.calls

/-- Work with an overheard peer that makes one call on the connection and ends as that is answered, with a value if it succeeds. -/
def Sends (call : Executor.Call) (a : Action (Overheard τ) α) (x : α) : Prop :=
  ∀ j, ∃ answer, (Action.on a j).1 = (answer.mapError Failure.client).map (fun _ => x) ∧
    (Action.on a j).2.state.calls = j.state.calls ++ [call.sent answer]

/-- A call of a run that makes one call on the connection stays in step with it. -/
theorem Sends.inStep {call : Executor.Call} {a : Action (Overheard τ) α} {x : α} (h : Sends call a x) :
    Ensures InStep (Watched.watch call a) fun r w => InStep w ∧ ∀ y, r = .ok y → y = x := by
  intro j hj
  obtain ⟨answer, hresult, hcalls⟩ := h (Watched.unwatched j)
  constructor
  · have hsent : Sent ⟨call, failure? (Action.on a (Watched.unwatched j)).1⟩ (call.sent answer) := by
      refine ⟨answer, rfl, ?_⟩
      rw [hresult]
      cases answer <;> rfl
    have hstep := List.rel_append hj (List.Forall₂.cons hsent .nil)
    change List.Forall₂ Sent _ (Action.on a (Watched.unwatched j)).2.state.calls
    rw [hcalls]
    exact hstep
  · intro y hy
    have hy' : (Action.on a (Watched.unwatched j)).1 = .ok y := hy
    rw [hresult] at hy'
    cases answer with
    | error fault => nomatch hy'
    | ok => exact (Except.ok.inj hy').symm

/-- A kept call behind which nothing is sent. -/
theorem sends_keep {call : Executor.Call} (exchange : Exchange τ Unit) {f : Unit → Action (Overheard τ) α} {x : α}
    (hf : ∀ k, (Action.on (f ()) k).1 = .ok x ∧ (Action.on (f ()) k).2.state = k.state) :
    Sends call ((Overheard.keep call.sent exchange).toAction .client >>= f) x := by
  intro j
  obtain ⟨answer, k, hon, hcalls⟩ : ∃ answer k,
      Action.on ((Overheard.keep call.sent exchange).toAction .client) j = (answer.mapError .client, k) ∧
        k.state.calls = j.state.calls ++ [call.sent answer] := ⟨_, _, rfl, rfl⟩
  refine ⟨answer, ?_⟩
  cases answer with
  | error fault =>
    rw [Action.on_bind_error hon]
    exact ⟨rfl, hcalls⟩
  | ok =>
    obtain ⟨hresult, hstate⟩ := hf k
    rw [Action.on_bind_ok hon]
    exact ⟨hresult, hstate ▸ hcalls⟩

/-- Letting go of a closed handle sends nothing. -/
theorem letGo_of_closed (c : Client τ) {handle : Transaction} (h : handle.isOpen = false) : c.letGo handle = return () := by
  rw [letGo, h]
  rfl

variable (c : Client τ)

/-- A begin is one call on the connection, and opens the handle. -/
theorem begin_sends : Sends .begin c.overheard.executor.begin ⟨true⟩ := sends_keep c.begin fun _ => ⟨rfl, rfl⟩

/-- Executing a statement is one call on the connection, and keeps the handle. -/
theorem execute_sends (sql : String) (handle : Transaction) :
    Sends (.execute sql) (c.overheard.executor.execute sql handle) handle :=
  sends_keep (c.execute sql) fun _ => ⟨rfl, rfl⟩

/-- A commit that succeeds closes the handle. -/
theorem commit_sends (handle : Transaction) : Sends .commit (c.overheard.executor.commit handle) { handle with isOpen := false } :=
  sends_keep c.commit fun _ => ⟨rfl, rfl⟩

/-- A rollback is one call, whether it fails or not: its handle is closed when it is let go of. -/
theorem rollback_sends (handle : Transaction) : Sends .rollback (c.overheard.executor.rollback handle) () := by
  have heq : c.overheard.executor.rollback handle =
      Action.outcome (c.overheard.rollback.toAction .client) >>= fun answer => Action.ofExcept answer := by
    change Action.outcome _ >>= (fun answer => c.overheard.letGo _ >>= fun _ => Action.ofExcept answer) = _
    rw [letGo_of_closed _ rfl]
    rfl
  intro j
  rw [heq, Action.on_bind_ok (Action.on_outcome _ j)]
  refine ⟨((ExceptT.run c.rollback).run j.state.peer).1, ?_, rfl⟩
  change ((ExceptT.run c.rollback).run j.state.peer).1.mapError Failure.client = _
  cases ((ExceptT.run c.rollback).run j.state.peer).1 <;> rfl

/-- A run sends its calls one for one. -/
theorem executor_maintains : c.overheard.executor.watched.Maintains InStep (·.isOpen = false) where
  begin := c.begin_sends.inStep.imp fun _ _ h => h.1
  execute sql handle := (c.execute_sends sql handle).inStep.imp fun _ _ h => h.1
  commit handle := (c.commit_sends handle).inStep.imp fun _ _ h => ⟨h.1, fun handle' hr => h.2 handle' hr ▸ rfl⟩
  rollback handle := (c.rollback_sends handle).inStep.imp fun _ _ h => h.1
  release handle h := by
    change Preserves InStep (Watched.aside (c.overheard.letGo handle))
    rw [letGo_of_closed _ h]
    exact fun j hj => hj

/-- The overheard connection runs statements as the connection does. -/
theorem overheard_shows : c.overheard.executor.Shows Overheard.peer c.executor where
  begin := .bind (fun _ => rfl) fun _ => .bind (.note _ _) fun _ => .pure _
  execute _ _ := .bind (fun _ => rfl) fun _ => .pure _
  commit _ := .bind (fun _ => rfl) fun _ => .pure _
  rollback handle := .bind (Action.Shows.outcome fun _ => rfl) fun _ => by
    refine .bind ?_ fun _ => .ofExcept _
    rw [letGo_of_closed _ rfl, letGo_of_closed _ rfl]
    exact .pure _
  release handle := by
    change Action.Shows Overheard.peer (c.overheard.letGo handle) (c.letGo handle)
    unfold letGo
    split
    · refine .bind (.note _ _) fun _ => .bind (Action.Shows.outcome fun _ => rfl) fun r => ?_
      cases r with
      | ok => exact .pure _
      | error f => exact .note _ _
    · exact .pure _

/-! ## How a run is settled -/

/-- The calls for statements that all ran. -/
def ran (ss : List Statement) : List Call := (ss.filter Statement.isExecutable).map fun s => .execute s.text (.ok ())

/-- The calls that a run over statements makes on the connection, and the failure that it ends with if it fails. A transaction that
was begun is closed once, by the last call: by a commit that succeeded or by a rollback, whatever that is answered. -/
inductive Settled (ss : List Statement) : List Call → Option Failure → Prop
  /-- No transaction was begun. -/
  | refused (fault : ClientFault) : Settled ss [.begin (.error fault)] (some (.client fault))
  /-- Every statement ran and the transaction was committed. -/
  | committed : Settled ss (.begin (.ok ()) :: (ran ss ++ [.commit (.ok ())])) none
  /-- Every statement ran, the commit failed, and the transaction was rolled back. -/
  | uncommitted (fault : ClientFault) (answer : Except ClientFault Unit) :
    Settled ss (.begin (.ok ()) :: (ran ss ++ [.commit (.error fault), .rollback answer])) (some (.client fault))
  /-- A statement failed, and the transaction was rolled back. -/
  | stopped (before : List Statement) (s : Statement) (fault : ClientFault) (answer : Except ClientFault Unit)
      (hbefore : before ++ [s] <+: ss) (hs : s.isExecutable = true) :
    Settled ss (.begin (.ok ()) :: (ran before ++ [.execute s.text (.error fault), .rollback answer]))
      (some (.statement before.length s.text (Failure.client fault).message
        ((failure? (answer.mapError Failure.client)).map Failure.message)))

/-- A call of a run that succeeded is sent as a call that succeeded. -/
theorem sent_none_iff {call : Executor.Call} {sent : Call} : Sent ⟨call, none⟩ sent ↔ sent = call.sent (.ok ()) := by
  constructor
  · rintro ⟨_ | _, rfl, h⟩
    · nomatch h
    · rfl
  · exact fun h => ⟨.ok (), h, rfl⟩

/-- A call of a run that failed is sent as a call that failed, with the fault that the failure stands for. -/
theorem sent_some_iff {call : Executor.Call} {f : Failure} {sent : Call} :
    Sent ⟨call, some f⟩ sent ↔ ∃ fault, sent = call.sent (.error fault) ∧ f = .client fault := by
  constructor
  · rintro ⟨fault | _, rfl, h⟩
    · exact ⟨fault, rfl, Option.some.inj h⟩
    · nomatch h
  · rintro ⟨fault, rfl, rfl⟩
    exact ⟨.error fault, rfl, rfl⟩

/-- Statements that ran were sent one by one, and the calls behind them follow. -/
theorem forall₂_sent_executed {ss : List Statement} {es : List Executor.Event} {calls : List Call}
    (h : List.Forall₂ Sent (Executor.executed ss ++ es) calls) :
    ∃ rest, calls = ran ss ++ rest ∧ List.Forall₂ Sent es rest := by
  unfold Executor.executed at h
  unfold ran
  generalize ss.filter Statement.isExecutable = executable at h ⊢
  induction executable generalizing calls with
  | nil => exact ⟨calls, rfl, h⟩
  | cons s executable ih =>
    obtain ⟨sent, calls, hsent, htail, rfl⟩ := List.forall₂_cons_left_iff.mp h
    obtain ⟨rest, rfl, hrest⟩ := ih htail
    exact ⟨rest, by rw [sent_none_iff.mp hsent]; rfl, hrest⟩

/-- A call that failed and the rollback behind it. -/
theorem forall₂_sent_rollback {call : Executor.Call} {f : Failure} {rollback? : Option Failure} {calls : List Call}
    (h : List.Forall₂ Sent [⟨call, some f⟩, ⟨.rollback, rollback?⟩] calls) :
    ∃ fault answer, calls = [call.sent (.error fault), .rollback answer] ∧ f = .client fault ∧
      rollback? = failure? (answer.mapError Failure.client) := by
  obtain ⟨sent, rest, hfailed, hrest, rfl⟩ := List.forall₂_cons_left_iff.mp h
  obtain ⟨sent', rest, ⟨answer, rfl, hanswer⟩, hnil, rfl⟩ := List.forall₂_cons_left_iff.mp hrest
  obtain ⟨fault, rfl, hf⟩ := sent_some_iff.mp hfailed
  rw [List.forall₂_nil_left_iff.mp hnil]
  exact ⟨fault, answer, rfl, hf, hanswer⟩

/-- The calls on the connection of a course. -/
theorem settled_of_course {ss : List Statement} {course : Executor.Course} (hc : course.Possible ss) {calls : List Call}
    (h : List.Forall₂ Sent (course.events ss) calls) : Settled ss calls (failure? (course.result ss)) := by
  -- the calls of each course are taken off the connection from the front, until none is left
  cases course with
  | refused f =>
    obtain ⟨sent, rest, hsent, hnil, rfl⟩ := List.forall₂_cons_left_iff.mp h
    obtain ⟨fault, rfl, rfl⟩ := sent_some_iff.mp hsent
    rw [List.forall₂_nil_left_iff.mp hnil]
    exact .refused fault
  | committed =>
    obtain ⟨begun, calls, hbegun, hcalls, rfl⟩ := List.forall₂_cons_left_iff.mp h
    obtain ⟨rest, rfl, hrest⟩ := forall₂_sent_executed hcalls
    obtain ⟨sent, rest, hsent, hnil, rfl⟩ := List.forall₂_cons_left_iff.mp hrest
    rw [sent_none_iff.mp hbegun, sent_none_iff.mp hsent, List.forall₂_nil_left_iff.mp hnil]
    exact .committed
  | uncommitted f rollback? =>
    obtain ⟨begun, calls, hbegun, hcalls, rfl⟩ := List.forall₂_cons_left_iff.mp h
    obtain ⟨rest, rfl, hrest⟩ := forall₂_sent_executed hcalls
    obtain ⟨fault, answer, rfl, rfl, -⟩ := forall₂_sent_rollback hrest
    rw [sent_none_iff.mp hbegun]
    exact .uncommitted fault answer
  | stopped stop =>
    obtain ⟨before, s, f, rollback?⟩ := stop
    obtain ⟨begun, calls, hbegun, hcalls, rfl⟩ := List.forall₂_cons_left_iff.mp h
    obtain ⟨rest, rfl, hrest⟩ := forall₂_sent_executed hcalls
    obtain ⟨fault, answer, rfl, rfl, rfl⟩ := forall₂_sent_rollback hrest
    rw [sent_none_iff.mp hbegun, Executor.Course.result, Executor.Stop.error, Nat.zero_add]
    exact .stopped before s fault answer hc.1 hc.2

/-- The calls that running statements makes on the connection, in order. -/
def applyCalls (ss : List Statement) (s : τ) : List Call :=
  (Action.start (c.overheard.executor.apply ss) ⟨s, []⟩).2.state.calls

/-- The calls that an update makes on the connection, in order. -/
def updateCalls (directory : String) (timing : Timing) (w : World τ) : List Call :=
  (Action.start (updateDatabase c.overheard.executor directory timing) ⟨w.files, ⟨w.peer, []⟩⟩).2.state.peer.calls

/-- A run is settled, whatever was reported before. -/
theorem on_apply_settles (ss : List Statement) (s : τ) (log : List Entry) :
    Settled ss (Action.on (c.overheard.executor.apply ss) ⟨⟨s, []⟩, log⟩).2.state.calls
      (failure? (Action.on (c.overheard.executor.apply ss) ⟨⟨s, []⟩, log⟩).1) := by
  obtain ⟨course, hc, k, hk, hevents⟩ := c.overheard.executor.apply_makes ss ⟨⟨⟨s, []⟩, []⟩, log⟩
  have hstep := c.executor_maintains.apply ss ⟨⟨⟨s, []⟩, []⟩, log⟩ .nil
  have hshown : Action.on (c.overheard.executor.apply ss) ⟨⟨s, []⟩, log⟩ = _ :=
    c.overheard.executor.watched_apply ss ⟨⟨⟨s, []⟩, []⟩, log⟩
  rw [hk] at hstep hshown
  rw [hshown]
  refine settled_of_course hc ?_
  change List.Forall₂ Sent k.state.events k.state.peer.calls at hstep
  rw [hevents] at hstep
  exact hstep

/-- A run over statements is settled at the connection. -/
theorem applyCalls_settled (ss : List Statement) (s : τ) :
    Settled ss (c.applyCalls ss s) (failure? (Action.start (c.executor.apply ss) s).1) := by
  have hsettles := c.on_apply_settles ss s []
  have hshown : Action.start (c.executor.apply ss) s = _ := c.overheard_shows.apply ss ⟨⟨s, []⟩, []⟩
  rw [hshown]
  exact hsettles

/-- An update is settled as the run of its script is; without a script it calls nothing. -/
theorem updateCalls_settled (directory : String) (timing : Timing) (w : World τ) :
    match Script.load w.files directory with
    | .error _ => c.updateCalls directory timing w = []
    | .ok (_, text) => Settled (Script.split text).statements (c.updateCalls directory timing w)
        (failure? (Action.start (updateDatabase c.executor directory timing) w).1) := by
  have hrun := c.overheard_shows.start_update directory timing w.files ⟨w.peer, []⟩
  unfold updateCalls
  cases hload : Script.load w.files directory with
  | error f =>
    rw [hload] at hrun
    obtain ⟨log, hoverheard, -⟩ := hrun
    rw [hoverheard]
  | ok script =>
    rw [hload] at hrun
    obtain ⟨before, run, after, happly, hoverheard, hplain⟩ := hrun
    have hsettles := c.on_apply_settles (Script.split script.2).statements w.peer before
    rw [happly] at hsettles
    change Action.start (updateDatabase c.executor directory timing) w = _ at hplain
    dsimp only
    rw [hoverheard, hplain]
    dsimp only
    rw [Watched.failure?_map]
    exact hsettles

/-- Whatever the connection answers, a run and an update are settled; an update without a script calls nothing. -/
theorem transaction_settled :
    (∀ ss s, Settled ss (c.applyCalls ss s) (failure? (Action.start (c.executor.apply ss) s).1)) ∧
    ∀ directory timing w,
      match Script.load w.files directory with
      | .error _ => c.updateCalls directory timing w = []
      | .ok (_, text) => Settled (Script.split text).statements (c.updateCalls directory timing w)
          (failure? (Action.start (updateDatabase c.executor directory timing) w).1) :=
  ⟨c.applyCalls_settled, c.updateCalls_settled⟩

end Client

end SchemaScript
