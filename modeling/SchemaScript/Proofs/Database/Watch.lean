import SchemaScript.Database.Reader
import SchemaScript.Proofs.Action

/-!
# Overhearing a client

An overheard client does what the client does and keeps every call with its answer. Nothing else changes: what is read through it
is what the client gives, and the peer and the log are left as the client leaves them (`Client.overheard_loadSchema`). So the calls
that reading a schema makes are those that the overheard client keeps (`Client.loadCalls`).
-/

namespace SchemaScript

open Catalog (Query ProcedureRow)

/-- Reporting some events leaves the state as it is. -/
theorem Action.exists_on_noteAll {σ : Type} (entries : List Entry) (j : Journal σ) :
    ∃ k, Action.on (Action.noteAll entries) j = (.ok (), k) ∧ k.state = j.state := by
  induction entries generalizing j with
  | nil => exact ⟨j, rfl, rfl⟩
  | cons e entries ih =>
    obtain ⟨k, hk, hstate⟩ := ih ⟨j.state, j.log ++ [⟨e.level, e.text⟩]⟩
    exact ⟨k, (Action.on_bind_ok (Action.on_note e.level e.text j)).trans hk, hstate⟩

/-- A call of a client and the answer to it. -/
inductive Client.Call
  | query (q : Query) (answer : Except ClientFault (List q.Row))
  | begin (answer : Except ClientFault Unit)
  | execute (sql : String) (answer : Except ClientFault Unit)
  | commit (answer : Except ClientFault Unit)
  | rollback (answer : Except ClientFault Unit)

/-- A peer and the calls made to it so far. -/
structure Overheard (τ : Type) where
  peer : τ
  calls : List Client.Call

/-- A call that is kept with its answer. -/
def Overheard.keep {τ α : Type} (call : Except ClientFault α → Client.Call) (x : Exchange τ α) : Exchange (Overheard τ) α :=
  ExceptT.mk fun w =>
    let (r, s) := (ExceptT.run x).run w.peer
    (r, ⟨s, w.calls ++ [call r]⟩)

namespace Client

variable {τ : Type} (c : Client τ)

/-- The client that keeps its calls. -/
def overheard : Client (Overheard τ) where
  query q := Overheard.keep (.query q) (c.query q)
  begin := Overheard.keep .begin c.begin
  execute sql := Overheard.keep (.execute sql) (c.execute sql)
  commit := Overheard.keep .commit c.commit
  rollback := Overheard.keep .rollback c.rollback

/-- The calls that reading the schema makes, in order. -/
def loadCalls (s : τ) : List Call := (Action.start c.overheard.source.loadSchema ⟨s, []⟩).2.state.calls

/-! ## Nothing else changes -/

open SchemaScript.Action (Shows)

/-- Reports show each other. -/
theorem shows_noteAll {σ : Type} {view : σ → τ} (entries : List Entry) :
    Shows view (Action.noteAll entries) (Action.noteAll entries) := by
  induction entries with
  | nil => exact .pure _
  | cons e entries ih => exact .bind (.note _ _) fun _ => ih

theorem overheard_ask (q : Query) : Shows Overheard.peer (c.overheard.ask q) (c.ask q) := fun _ => rfl

theorem overheard_domains : Shows Overheard.peer c.overheard.domains c.domains :=
  .bind (c.overheard_ask _) fun _ => .bind (.note _ _) fun _ => .bind (shows_noteAll _) fun _ => .pure _

theorem overheard_columns (table : String) : Shows Overheard.peer (c.overheard.columns table) (c.columns table) :=
  .bind (c.overheard_ask _) fun _ => .bind (.note _ _) fun _ => .bind (shows_noteAll _) fun _ => .pure _

/-- Listening does not change how tables are read, by induction over their names. -/
theorem overheard_tablesNamed (names : List String) :
    Shows Overheard.peer (c.overheard.tablesNamed names) (c.tablesNamed names) := by
  induction names with
  | nil => exact .pure _
  | cons name names ih => exact .bind (c.overheard_columns _) fun _ => .bind ih fun _ => .pure _

/-- Listening does not change how procedures are read, by induction over their rows. -/
theorem overheard_proceduresOf (rows : List ProcedureRow) :
    Shows Overheard.peer (c.overheard.proceduresOf rows) (c.proceduresOf rows) := by
  induction rows with
  | nil => exact .pure _
  | cons row rows ih =>
    exact .bind (c.overheard_ask _) fun _ => .bind (shows_noteAll _) fun _ => .bind ih fun _ => .pure _

/-- What is read through the overheard client is what the client gives. -/
theorem overheard_loadSchema : Shows Overheard.peer c.overheard.source.loadSchema c.source.loadSchema :=
  .bind c.overheard_domains fun _ =>
    .bind (.bind (c.overheard_ask _) c.overheard_tablesNamed) fun _ =>
      .bind (.bind (c.overheard_ask _) c.overheard_proceduresOf) fun _ => .pure _

end Client

end SchemaScript
