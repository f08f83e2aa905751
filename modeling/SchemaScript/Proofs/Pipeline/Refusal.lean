import SchemaScript.Proofs.Apply.Watch
import SchemaScript.Proofs.Pipeline.Reload

/-!
# Inputs that fail write nothing

A source that is asked keeps the parts of the schema that it was asked for, each with its failure if it failed, and gives what the
source gives (`Source.asked_shows`). An export asks for the domains, the tables and the procedures, in this order, and stops at the
first part that fails: it fails with this failure, and the files are as they were. A snapshot that cannot be read, that is no schema or
that is not accepted fails its rendering in the same way (`failing_input_writes_nothing`).
-/

namespace SchemaScript

open SchemaScript.Action (Ensures Preserves Shows)
open Watched (failure?)

variable {σ τ α : Type}

/-! ## What a source is asked for -/

namespace Source

/-- A part of a schema. -/
inductive Part
  | domains
  | tables
  | procedures
  deriving DecidableEq, Repr

/-- The parts in the order in which they are asked for. -/
def Part.all : List Part := [domains, tables, procedures]

/-- A part that a source was asked for, and the failure if it failed. -/
structure Ask where
  part : Part
  failure? : Option Failure

/-- Parts that a source gave. -/
def given (parts : List Part) : List Ask := parts.map fun part => ⟨part, none⟩

/-- What a source is asked for: all parts in order, or the parts in order up to the first that fails. -/
inductive InOrder : List Ask → Prop
  | complete : InOrder (given Part.all)
  | stopped (done rest : List Part) (part : Part) (f : Failure) (h : done ++ part :: rest = Part.all) :
    InOrder (given done ++ [⟨part, some f⟩])

end Source

/-- A peer and what its source was asked for so far. -/
structure Asked (τ : Type) where
  peer : τ
  asks : List Source.Ask

/-- Work on the peer that gives a part. -/
def Asked.keep (part : Source.Part) (a : Action τ α) : Action (Asked τ) α :=
  ExceptT.mk fun j =>
    let (r, k) := Action.on a ⟨j.state.peer, j.log⟩
    (r, ⟨⟨k.state, j.state.asks ++ [⟨part, failure? r⟩]⟩, k.log⟩)

namespace Source

/-- The source that keeps what it is asked for. -/
def asked (source : Source τ) : Source (Asked τ) where
  domains := Asked.keep .domains source.domains
  tables := Asked.keep .tables source.tables
  procedures := Asked.keep .procedures source.procedures

/-- What an export asks its source for, in order. -/
def exportAsks (source : Source τ) (directory : String) (options : ExportOptions) (timing : Timing) (w : World τ) : List Ask :=
  (Action.start (exportScripts source.asked directory options timing) ⟨w.files, ⟨w.peer, []⟩⟩).2.state.peer.asks

/-- The source that keeps what it is asked for gives what the source gives. -/
theorem asked_shows (source : Source τ) : Shows Asked.peer source.asked.loadSchema source.loadSchema :=
  .bind (fun _ => rfl) fun _ => .bind (fun _ => rfl) fun _ => .bind (fun _ => rfl) fun _ => .pure _

/-- How work ends that asks for parts: they were asked for in order, and the work failed with the failure of one that failed. -/
def Ends (r : Except Failure α) (s : Asked τ) : Prop :=
  InOrder s.asks ∧ ∀ ask ∈ s.asks, ∀ e, ask.failure? = some e → r = .error e

/-- Asking for the next part ends the work if that fails, and hands the part on if it does not. -/
theorem keep_ends {done rest : List Part} {part : Part} (h : done ++ part :: rest = Part.all) (a : Action τ α)
    {β : Type} {f : α → Action (Asked τ) β} (hf : ∀ x, Ensures (fun s => s.asks = given (done ++ [part])) (f x) Ends) :
    Ensures (fun s => s.asks = given done) (Asked.keep part a >>= f) Ends := by
  intro j hj
  obtain ⟨r, k, hon, hasks⟩ : ∃ r k, Action.on (Asked.keep part a) j = (r, k) ∧
      k.state.asks = j.state.asks ++ [⟨part, failure? r⟩] := ⟨_, _, rfl, rfl⟩
  rw [hj] at hasks
  cases r with
  | error e =>
    rw [Action.on_bind_error hon]
    refine ⟨hasks ▸ .stopped done rest part e h, fun ask hask e' he' => ?_⟩
    rw [hasks, List.mem_append, List.mem_singleton] at hask
    rcases hask with hgiven | rfl
    · obtain ⟨part', -, rfl⟩ := List.mem_map.mp hgiven
      nomatch he'
    · exact congrArg Except.error (Option.some.inj he')
  | ok x =>
    rw [Action.on_bind_ok hon]
    refine hf x k (hasks.trans ?_)
    rw [given, given, List.map_append]
    rfl

/-- When all parts were given, the work is done. -/
theorem pure_ends (x : α) : Ensures (fun s : Asked τ => s.asks = given Part.all) (Pure.pure x) Ends := by
  refine .pure fun s hs => ⟨hs ▸ .complete, fun ask hask e he => ?_⟩
  rw [hs] at hask
  obtain ⟨part, -, rfl⟩ := List.mem_map.mp hask
  nomatch he

/-- Loading a schema asks in order, and fails with the failure of a part that fails. -/
theorem loadSchema_ends (source : Source τ) : Ensures (fun s => s.asks = []) source.asked.loadSchema Ends := by
  have hdomains : [] ++ Part.domains :: [.tables, .procedures] = Part.all := rfl
  have htables : [Part.domains] ++ .tables :: [.procedures] = Part.all := rfl
  have hprocedures : [Part.domains, .tables] ++ .procedures :: [] = Part.all := rfl
  exact keep_ends hdomains _ fun _ => keep_ends htables _ fun _ => keep_ends hprocedures _ fun _ => pure_ends _

end Source

/-! ## Exports -/

/-- Work on the files leaves the peer as it was. -/
theorem World.onFiles_keeps_peer (a : FileAction α) (peer : τ) :
    Preserves (fun w : World τ => w.peer = peer) (World.onFiles a) := fun _ hj => hj

/-- Writing files does not touch the peer. -/
theorem writeScripts_keeps_peer (schema : Schema) (directory : String) (options : ExportOptions) (peer : τ) :
    Preserves (fun w : World τ => w.peer = peer) (writeScripts schema directory options) := by
  unfold writeScripts
  refine .bind (.note _ _) fun _ => .bind (World.onFiles_keeps_peer _ _) fun _ => .bind (World.onFiles_keeps_peer _ _) fun _ => ?_
  split
  · exact .bind (World.onFiles_keeps_peer _ _) fun _ => .pure _
  · exact .pure _

/-- An export leaves the peer as loading the schema leaves it. If the loading fails, the export fails so, and the files are as they
were. -/
theorem exportScripts_loads (source : Source τ) (directory : String) (options : ExportOptions) (timing : Timing) (w : World τ) :
    ∃ r l, Action.on source.loadSchema ⟨w.peer, [⟨.info, "Phase 1: Reading metadata"⟩]⟩ = (r, l) ∧
      (Action.start (exportScripts source directory options timing) w).2.state.peer = l.state ∧
      ∀ e, r = .error e → (Action.start (exportScripts source directory options timing) w).1 = .error e ∧
        (Action.start (exportScripts source directory options timing) w).2.state.files = w.files := by
  rw [Action.start_eq_on, exportScripts, Action.on_bind_ok (Action.on_note ..), List.nil_append]
  rcases hload : Action.on source.loadSchema ⟨w.peer, [⟨.info, "Phase 1: Reading metadata"⟩]⟩ with ⟨r, l⟩
  refine ⟨r, l, rfl, ?_⟩
  have hpeer : Action.on (World.withPeer source.loadSchema) ⟨w, [⟨.info, "Phase 1: Reading metadata"⟩]⟩ =
      (r, ⟨{ w with peer := l.state }, l.log⟩) := by
    rw [World.on_withPeer, hload]
  cases r with
  | error e =>
    rw [Action.on_bind_error hpeer]
    exact ⟨rfl, fun e' he' => ⟨congrArg _ (Except.error.inj he'), rfl⟩⟩
  | ok schema =>
    rw [Action.on_bind_ok hpeer]
    refine ⟨?_, fun e he => by cases he⟩
    refine Preserves.bind (P := fun w : World τ => w.peer = l.state) (.note _ _) (fun _ => ?_) _ rfl
    exact .bind (writeScripts_keeps_peer schema directory options l.state) fun _ => .bind (.note _ _) fun _ => .pure _

/-! ## Inputs that fail -/

/-- A snapshot is loaded in three steps, each of which may fail. -/
theorem loadSnapshot_eq (t : FileTree) (path : String) :
    loadSnapshot t path =
      match t.readText path with
      | .error fault => .error (.file fault)
      | .ok text =>
        match Json.readDocument (Json.readRecord Schema.shape) text with
        | .error fault => .error (.json fault)
        | .ok schema => schema.validate := by
  rw [loadSnapshot]
  cases t.readText path with
  | error fault => rfl
  | ok text =>
    change Schema.ofSnapshot text = _
    rw [Schema.ofSnapshot]
    dsimp only
    cases Json.readDocument (Json.readRecord Schema.shape) text <;> rfl

section

variable (directory : String) (options : ExportOptions) (timing : Timing) (w : World τ)

/-- An export asks its source in order, and fails with the failure of a part that fails before anything is written. -/
theorem exportAsks_inOrder (source : Source τ) :
    Source.InOrder (source.exportAsks directory options timing w) ∧
    ∀ ask ∈ source.exportAsks directory options timing w, ∀ e, ask.failure? = some e →
      (Action.start (exportScripts source directory options timing) w).1 = .error e ∧
      (Action.start (exportScripts source directory options timing) w).2.state.files = w.files := by
  obtain ⟨r, l, hasked, hpeer, -⟩ := exportScripts_loads source.asked directory options timing ⟨w.files, ⟨w.peer, []⟩⟩
  obtain ⟨r', l', hload, -, hfails⟩ := exportScripts_loads source directory options timing w
  obtain ⟨horder, hfailed⟩ := source.loadSchema_ends ⟨⟨w.peer, []⟩, [⟨.info, "Phase 1: Reading metadata"⟩]⟩ rfl
  have hshown := source.asked_shows ⟨⟨w.peer, []⟩, [⟨.info, "Phase 1: Reading metadata"⟩]⟩
  rw [hasked] at horder hfailed hshown
  have hresult : r' = r := congrArg Prod.fst (hload.symm.trans hshown)
  have hasks : source.exportAsks directory options timing w = l.state.asks := congrArg Asked.asks hpeer
  rw [hasks]
  exact ⟨horder, fun ask hask e he => hfails e (hresult.trans (hfailed ask hask e he))⟩

/-- Rendering a snapshot that is not loaded fails as the loading does, and the files are as they were. -/
theorem renderSnapshot_of_loadSnapshot {path : String} {e : Failure} (h : loadSnapshot w.files path = .error e) :
    (Action.start (renderSnapshot path directory options timing) w).1 = .error e ∧
    (Action.start (renderSnapshot path directory options timing) w).2.state.files = w.files := by
  rw [Action.start_eq_on, on_renderSnapshot, h]
  exact ⟨rfl, rfl⟩

end

/-- What a source is asked for is in order, and an export whose source fails at a part fails so and leaves the files as they were.
Rendering a snapshot fails so if its file is not read, if it holds no schema, or if its schema has a defect; otherwise it goes on with
the export of that schema. -/
theorem failing_input_writes_nothing (directory : String) (options : ExportOptions) (timing : Timing) (w : World τ) :
    (∀ source : Source τ,
      Source.InOrder (source.exportAsks directory options timing w) ∧
      ∀ ask ∈ source.exportAsks directory options timing w, ∀ e, ask.failure? = some e →
        (Action.start (exportScripts source directory options timing) w).1 = .error e ∧
        (Action.start (exportScripts source directory options timing) w).2.state.files = w.files) ∧
    ∀ path,
      let run := Action.start (renderSnapshot path directory options timing) w
      match w.files.readText path with
      | .error fault => run.1 = .error (.file fault) ∧ run.2.state.files = w.files
      | .ok text =>
        match Json.readDocument (Json.readRecord Schema.shape) text with
        | .error fault => run.1 = .error (.json fault) ∧ run.2.state.files = w.files
        | .ok schema =>
          match schema.defect? with
          | some defect => run.1 = .error (.config defect.message) ∧ run.2.state.files = w.files
          | none => run = Action.on (exportScripts (.ofSchema schema) directory options timing)
              ⟨w, [⟨.info, "Loading snapshot " ++ path⟩]⟩ := by
  refine ⟨exportAsks_inOrder directory options timing w, fun path => ?_⟩
  have hload := loadSnapshot_eq w.files path
  cases htext : w.files.readText path with
  | error fault =>
    rw [htext] at hload
    exact renderSnapshot_of_loadSnapshot directory options timing w hload
  | ok text =>
    rw [htext] at hload
    dsimp only at hload ⊢
    cases hschema : Json.readDocument (Json.readRecord Schema.shape) text with
    | error fault =>
      rw [hschema] at hload
      exact renderSnapshot_of_loadSnapshot directory options timing w hload
    | ok schema =>
      rw [hschema] at hload
      dsimp only [Schema.validate] at hload ⊢
      cases hdefect : schema.defect? with
      | some defect =>
        rw [hdefect] at hload
        exact renderSnapshot_of_loadSnapshot directory options timing w hload
      | none =>
        rw [hdefect] at hload
        rw [Action.start_eq_on, on_renderSnapshot, hload]
        rfl

/-- A source that fails at its tables. -/
def tableless : Source Unit := ⟨pure oneDomain.domains, throw (.source "tables query failed"), pure []⟩

/-- It is not asked for its procedures, and not even the directory of its export is created. -/
theorem exportTableless_writes_nothing :
    tableless.exportAsks "out" .default ⟨"", 0⟩ workWorld = [⟨.domains, none⟩, ⟨.tables, some (.source "tables query failed")⟩] ∧
    (Action.start (exportScripts tableless "out" .default ⟨"", 0⟩) workWorld).1 = .error (.source "tables query failed") ∧
    (Action.start (exportScripts tableless "out" .default ⟨"", 0⟩) workWorld).2.state.files = workWorld.files := by
  have hasks : tableless.exportAsks "out" .default ⟨"", 0⟩ workWorld =
      [⟨.domains, none⟩, ⟨.tables, some (.source "tables query failed")⟩] := rfl
  obtain ⟨-, hfails⟩ := (failing_input_writes_nothing "out" .default ⟨"", 0⟩ workWorld).1 tableless
  rw [hasks] at hfails
  exact ⟨hasks, hfails _ (List.mem_cons_of_mem _ List.mem_cons_self) _ rfl⟩

end SchemaScript
