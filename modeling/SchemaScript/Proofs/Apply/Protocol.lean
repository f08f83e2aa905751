import Mathlib.Logic.ExistsUnique
import SchemaScript.Proofs.Apply.Course

/-!
# The transaction protocol

Whatever an executor does, the calls that a run makes and its result are those of one course that its statements allow
(`Executor.start_takes`). The statements are followed one by one (`runFrom_makes`): what is kept of a part of a run is the
calls it adds, its result and the journal that the next part starts from (`Makes`).
-/

namespace SchemaScript

open Executor

namespace Watched

variable {τ α β : Type}

/-- Watched work that makes some calls, ends with a result and leaves a journal. -/
def Makes (a : Action (Watched τ) α) (j : Journal (Watched τ)) (es : List Event) (r : Except Failure α)
    (k : Journal (Watched τ)) : Prop :=
  Action.on a j = (r, k) ∧ k.state.events = j.state.events ++ es

namespace Makes

variable {a : Action (Watched τ) α} {f : α → Action (Watched τ) β} {j k l : Journal (Watched τ)} {es es' : List Event}

theorem pure (x : α) (j : Journal (Watched τ)) : Makes (Pure.pure x) j [] (.ok x) j :=
  ⟨Action.on_pure x j, (List.append_nil _).symm⟩

theorem throw (e : Failure) (j : Journal (Watched τ)) : Makes (MonadExcept.throw e : Action (Watched τ) α) j [] (.error e) j :=
  ⟨Action.on_throw e j, (List.append_nil _).symm⟩

/-- Taking the outcome of an action makes its calls. -/
theorem outcome {r : Except Failure α} (h : Makes a j es r k) : Makes (Action.outcome a) j es (.ok r) k :=
  ⟨by rw [Action.on_outcome, h.1], h.2⟩

/-- A sequence makes the calls of its first part and then those of its second part. -/
theorem bind {x : α} {r : Except Failure β} (h : Makes a j es (.ok x) k) (h' : Makes (f x) k es' r l) :
    Makes (a >>= f) j (es ++ es') r l :=
  ⟨by rw [Action.on_bind_ok h.1, h'.1], by rw [h'.2, h.2, List.append_assoc]⟩

/-- A sequence that ends in its first part makes the calls of that part. -/
theorem bind_error {e : Failure} (h : Makes a j es (.error e) k) : Makes (a >>= f) j es (.error e) k :=
  ⟨Action.on_bind_error h.1, h.2⟩

/-- What is reported first is not a call. -/
theorem note_bind {level : Level} {text : String} {f : Unit → Action (Watched τ) β} {r : Except Failure β}
    (h : Makes (f ()) ⟨j.state, j.log ++ [⟨level, text⟩]⟩ es r k) : Makes (Action.note level text >>= f) j es r k :=
  ⟨by rw [Action.on_bind_ok (Action.on_note ..), h.1], h.2⟩

/-- What only the log tells apart makes the same calls. -/
theorem of_eq {b : Action (Watched τ) α} {j' : Journal (Watched τ)} {r : Except Failure α} (h : Makes b j' es r k)
    (heq : Action.on a j = Action.on b j') (hj : j'.state = j.state) : Makes a j es r k :=
  ⟨heq.trans h.1, hj ▸ h.2⟩

end Makes

/-- Work that is watched is one call, whether it fails or not. -/
theorem makes_watch (call : Call) (a : Action τ α) (j : Journal (Watched τ)) :
    ∃ r k, Makes (watch call a) j [⟨call, failure? r⟩] r k :=
  ⟨_, _, rfl, rfl⟩

/-- Work aside is no call. -/
theorem makes_aside (a : Action τ α) (j : Journal (Watched τ)) : ∃ r k, Makes (aside a) j [] r k :=
  ⟨_, _, rfl, (List.append_nil _).symm⟩

end Watched

namespace Executor

open Watched

variable {τ η : Type} (e : Executor τ η)

/-- A statement that is not executable is at most reported. -/
theorem runFrom_cons_of_not_executable (index : Nat) (report : ApplyReport) (handle : η) {s : Statement}
    (hs : s.isExecutable = false) (rest : List Statement) (j : Journal τ) :
    ∃ j' : Journal τ, j'.state = j.state ∧
      Action.on (e.runFrom index report handle (s :: rest)) j =
        Action.on (e.runFrom (index + 1) report.skip handle rest) j' := by
  rw [runFrom]
  cases hb : s.isBlank with
  | true => exact ⟨j, rfl, rfl⟩
  | false =>
    have hc : s.isTransactionControl = true := by simpa [Statement.isExecutable, hb] using hs
    rw [if_neg Bool.false_ne_true, if_pos hc]
    refine ⟨_, ?_, Action.on_bind_ok (Action.on_note _ _ j)⟩
    rfl

/-- A statement that is executable is run. -/
theorem runFrom_cons_of_executable (index : Nat) (report : ApplyReport) (handle : η) {s : Statement}
    (hs : s.isExecutable = true) (rest : List Statement) :
    e.runFrom index report handle (s :: rest) =
      e.runOne index s handle >>= fun handle => e.runFrom (index + 1) report.execute handle rest := by
  simp only [Statement.isExecutable, Bool.and_eq_true, Bool.not_eq_true'] at hs
  rw [runFrom, hs.1, hs.2, if_neg Bool.false_ne_true, if_neg Bool.false_ne_true]

/-- Going back is one rollback and never fails. -/
theorem retreat_makes (handle : η) (j : Journal (Watched τ)) :
    ∃ rollback? k, Makes (e.watched.retreat handle) j [⟨.rollback, rollback?⟩] (.ok (rollback?.map Failure.message)) k := by
  obtain ⟨r, k, hr⟩ := makes_watch .rollback (e.rollback handle) ⟨j.state, j.log ++ [⟨.info, "Rolling back transaction"⟩]⟩
  cases r with
  | ok => exact ⟨none, k, .note_bind (hr.outcome.bind (.pure _ _))⟩
  | error f => exact ⟨some f, _, .note_bind (hr.outcome.bind (.note_bind (.pure _ _)))⟩

/-- A statement is one call; if that fails, a rollback follows and ends the run. -/
theorem runOne_makes (index : Nat) (s : Statement) (handle : η) (j : Journal (Watched τ)) :
    (∃ handle' k, Makes (e.watched.runOne index s handle) j [⟨.execute s.text, none⟩] (.ok handle') k) ∨
      ∃ f rollback? k, Makes (e.watched.runOne index s handle) j
        [⟨.execute s.text, some f⟩, ⟨.rollback, rollback?⟩]
        (.error (.statement index s.text f.message (rollback?.map Failure.message))) k := by
  obtain ⟨r, k, hr⟩ := makes_watch (.execute s.text) (e.execute s.text handle)
    ⟨j.state, j.log ++ [⟨.debug, "Executing statement " ++ toString index⟩]⟩
  cases r with
  | ok handle' => exact .inl ⟨handle', k, .note_bind (hr.outcome.bind (.pure _ _))⟩
  | error f =>
    obtain ⟨rollback?, l, hl⟩ := e.retreat_makes handle
      ⟨k.state, k.log ++ [⟨.error, "Statement " ++ toString index ++ " failed: " ++ f.message⟩]⟩
    exact .inr ⟨f, rollback?, l, .note_bind (hr.outcome.bind (.note_bind (hl.bind (.throw _ _))))⟩

/-- Statements run to their end with one call for each executable one, or stop at the first that fails. -/
theorem runFrom_makes (ss : List Statement) : ∀ (index : Nat) (report : ApplyReport) (handle : η) (j : Journal (Watched τ)),
    (∃ handle' k, Makes (e.watched.runFrom index report handle ss) j (executed ss) (.ok (report.count ss, handle')) k) ∨
      ∃ stop : Stop, stop.Possible ss ∧
        ∃ k, Makes (e.watched.runFrom index report handle ss) j stop.events (.error (stop.error index)) k := by
  -- the induction is on the statements still to run; a stop among the later ones is that stop seen from one earlier
  induction ss with
  | nil => exact fun _ report handle j => .inl ⟨handle, j, .pure _ _⟩
  | cons s rest ih =>
    intro index report handle j
    cases hs : s.isExecutable with
    | false =>
      obtain ⟨j', hj', heq⟩ := e.watched.runFrom_cons_of_not_executable index report handle hs rest j
      rw [executed_cons_of_not_executable hs, report.count_cons_of_not_executable hs]
      rcases ih (index + 1) report.skip handle j' with ⟨handle', k, h⟩ | ⟨stop, hstop, k, h⟩
      · exact .inl ⟨handle', k, h.of_eq heq hj'⟩
      · refine .inr ⟨stop.behind s, hstop.behind s, k, ?_⟩
        rw [stop.events_behind_of_not_executable hs, stop.error_behind]
        exact h.of_eq heq hj'
    | true =>
      rw [executed_cons_of_executable hs, report.count_cons_of_executable hs,
        e.watched.runFrom_cons_of_executable index report handle hs rest]
      rcases e.runOne_makes index s handle j with ⟨handle', k, h⟩ | ⟨f, rollback?, k, h⟩
      · rcases ih (index + 1) report.execute handle' k with ⟨handle'', l, h'⟩ | ⟨stop, hstop, l, h'⟩
        · exact .inl ⟨handle'', l, h.bind h'⟩
        · refine .inr ⟨stop.behind s, hstop.behind s, l, ?_⟩
          rw [stop.events_behind_of_executable hs, stop.error_behind]
          exact h.bind h'
      · exact .inr ⟨⟨[], s, f, rollback?⟩, ⟨⟨rest, rfl⟩, hs⟩, k, h.bind_error⟩

/-- A run takes a course that its statements allow: it makes the calls of the course and returns its result. -/
theorem apply_makes (ss : List Statement) (j : Journal (Watched τ)) :
    ∃ c : Course, c.Possible ss ∧ ∃ k, Makes (e.watched.apply ss) j (c.events ss) (c.result ss) k := by
  obtain ⟨r, k, hr⟩ := makes_watch .begin e.begin j
  cases r with
  | error f => exact ⟨.refused f, trivial, k, hr.bind_error⟩
  | ok handle =>
    rcases e.runFrom_makes ss 0 .zero handle k with ⟨handle', l, h⟩ | ⟨stop, hstop, l, h⟩
    · obtain ⟨r, m, hm⟩ := makes_watch .commit (e.commit handle') l
      cases r with
      | ok handle'' =>
        obtain ⟨_, n, hn⟩ := makes_aside (e.release handle'') ⟨m.state, m.log ++ [⟨.info, _⟩]⟩
        exact ⟨.committed, trivial, n, hr.bind (h.bind (hm.outcome.bind (.note_bind (hn.outcome.bind (.pure _ _)))))⟩
      | error f =>
        obtain ⟨rollback?, n, hn⟩ := e.retreat_makes handle' ⟨m.state, m.log ++ [⟨.error, _⟩]⟩
        exact ⟨.uncommitted f rollback?, trivial, n,
          hr.bind (h.bind (hm.outcome.bind (.note_bind (hn.bind (.throw _ _)))))⟩
    · exact ⟨.stopped stop, hstop, l, hr.bind h.bind_error⟩

/-- What a run calls and what it returns belong to one course, whatever was reported before. -/
theorem on_apply_takes (ss : List Statement) (s : τ) (log : List Entry) :
    ∃ c : Course, c.Possible ss ∧ e.eventsBehind log ss s = c.events ss ∧
      (Action.on (e.apply ss) ⟨s, log⟩).1 = c.result ss := by
  obtain ⟨c, hc, k, h⟩ := e.apply_makes ss ⟨⟨s, []⟩, log⟩
  have happly : Action.on (e.apply ss) ⟨s, log⟩ = _ := e.watched_apply ss ⟨⟨s, []⟩, log⟩
  refine ⟨c, hc, ?_, ?_⟩
  · rw [eventsBehind, h.1]
    simpa using h.2
  · rw [happly, h.1]

/-- What a run calls and what it returns belong to one course. -/
theorem start_takes (ss : List Statement) (s : τ) :
    ∃ c : Course, c.Possible ss ∧ e.events ss s = c.events ss ∧ (Action.start (e.apply ss) s).1 = c.result ss :=
  e.on_apply_takes ss s []

/-- Whatever an executor does, the calls of a run are those of exactly one course that its statements allow, and the run
returns a report exactly if that is the course that commits. -/
theorem events_follow_one_course (ss : List Statement) (s : τ) :
    (∃! c : Course, c.Possible ss ∧ e.events ss s = c.events ss) ∧
      ((∃ report, (Action.start (e.apply ss) s).1 = .ok report) ↔ e.events ss s = Course.committed.events ss) := by
  obtain ⟨c, hc, hevents, hresult⟩ := e.start_takes ss s
  refine ⟨⟨c, ⟨hc, hevents⟩, fun c' h => Course.eq_of_events_eq h.1 hc (h.2.symm.trans hevents)⟩, ?_⟩
  rw [hevents, hresult]
  constructor
  · rintro ⟨report, h⟩
    cases c with
    | committed => rfl
    | _ => cases h
  · intro h
    have hcommitted : Course.committed.Possible ss := trivial
    rw [Course.eq_of_events_eq hc hcommitted h]
    exact ⟨_, rfl⟩

end Executor

end SchemaScript
