import SchemaScript.Proofs.Catalog.Direction
import SchemaScript.Proofs.Database.Watch

/-!
# Reading a catalog

What a catalog holds (`Catalog.Contents`) says which queries read it and what they are answered (`Contents.answers`), and which schema
it describes (`Contents.schema`). Reading the schema of a database asks the queries of some contents in order, one after the other. It
either gets all answers and gives their schema, or ends at the first query that fails with the failure of that query
(`Client.loadSchema_reads`). The readings of the parts are put together by `Reads.bind`: what has been read before a query fails stays
read, and the query that fails is the one that the contents would have answered next.
-/

namespace SchemaScript

namespace Catalog

/-- A query and its rows. -/
structure Answer where
  query : Query
  rows : List query.Row

/-- The call that got the answer. -/
def Answer.call (a : Answer) : Client.Call := .query a.query (.ok a.rows)

/-- The domain of a record; a missing scale counts as zero. -/
def domainOf (r : DomainRecord) : Domain :=
  DomainRow.toDomain ⟨r.name, ⟨r.code, r.length, r.scale?.getD 0, r.subType?⟩, r.nullFlag?, r.default?, r.check?⟩

/-- The column of a record; a missing scale counts as zero. -/
def columnOf (r : ColumnRecord) : Column :=
  ColumnRow.toColumn ⟨r.name, r.fieldSource, ⟨r.code, r.length, r.scale?.getD 0, r.subType?⟩, r.nullFlag?, r.default?⟩

/-- The parameter of a record; a missing code, length or scale counts as zero. -/
def parameterOf (r : ParameterRecord) : Parameter :=
  ParameterRow.toParameter
    ⟨r.name, r.directionCode, r.fieldSource, ⟨r.code?.getD 0, r.length?.getD 0, r.scale?.getD 0, r.subType?⟩⟩

/-- The parameters of the records with a direction code, in the order of the records. -/
def parametersOf (code : Int16) (records : List ParameterRecord) : List Parameter :=
  (records.filter (·.directionCode = code)).map parameterOf

/-- A name of a table as the catalog gives it, and the records of its columns. -/
structure TableContents where
  name : String
  columns : List ColumnRecord

/-- The table with a column for each record. -/
def TableContents.table (t : TableContents) : Table := ⟨Text.trimmed t.name, t.columns.map columnOf⟩

/-- The query for the columns and its rows. -/
def TableContents.answer (t : TableContents) : Answer := ⟨.columns (Text.trimmed t.name), t.columns⟩

/-- The row of a procedure and the records of its parameters. -/
structure ProcedureContents where
  row : ProcedureRow
  parameters : List ParameterRecord

/-- The procedure with an input for each record of code 0 and an output for each of code 1. -/
def ProcedureContents.procedure (p : ProcedureContents) : Procedure :=
  ⟨Text.trimmed p.row.name, p.row.body, parametersOf 0 p.parameters, parametersOf 1 p.parameters⟩

/-- The query for the parameters and its rows. -/
def ProcedureContents.answer (p : ProcedureContents) : Answer := ⟨.parameters (Text.trimmed p.row.name), p.parameters⟩

/-- What a catalog holds. -/
structure Contents where
  domains : List DomainRecord
  tables : List TableContents
  procedures : List ProcedureContents

namespace Contents

/-- The queries that read the catalog and their rows, in order. -/
def answers (c : Contents) : List Answer :=
  ⟨.domains, c.domains⟩ ::
    (⟨.tables, c.tables.map TableContents.name⟩ :: c.tables.map TableContents.answer) ++
    (⟨.procedures, c.procedures.map ProcedureContents.row⟩ :: c.procedures.map ProcedureContents.answer)

/-- The schema that the catalog describes. -/
def schema (c : Contents) : Schema :=
  ⟨c.domains.map domainOf, c.tables.map TableContents.table, c.procedures.map ProcedureContents.procedure⟩

end Contents

/-- How a reading that would get some answers and give a value ends, with the calls it made: with all answers, or at a query that
failed in the place of its answer. -/
inductive Reading {α : Type} (answers : List Answer) (x : α) : List Client.Call → Except Failure α → Prop
  | complete : Reading answers x (answers.map Answer.call) (.ok x)
  | stopped {done rest : List Answer} {missed : Answer} (fault : ClientFault) (h : answers = done ++ missed :: rest) :
    Reading answers x (done.map Answer.call ++ [.query missed.query (.error fault)])
      (.error (.source ("catalog query failed: " ++ fault.message)))

/-- The parameters of one direction are those of the records with its code. -/
theorem select_eq_parametersOf {d : Direction} {code : Int16} (h : ∀ c, Direction.ofCode? c = some d ↔ c = code)
    (records : List ParameterRecord) :
    ParameterRow.select d (records.map ParameterRecord.toRow) = parametersOf code records := by
  rw [ParameterRow.select_eq_map_filter h, List.filter_map, List.map_map, parametersOf]
  rfl

/-- The procedure of a row and its records. -/
theorem toProcedure_eq (row : ProcedureRow) (records : List ParameterRecord) :
    row.toProcedure (records.map ParameterRecord.toRow) = (ProcedureContents.mk row records).procedure := by
  rw [ProcedureRow.toProcedure, select_eq_parametersOf Direction.ofCode?_eq_input_iff,
    select_eq_parametersOf Direction.ofCode?_eq_output_iff]
  rfl

end Catalog

namespace Overheard

open Catalog

variable {τ α β : Type}

/-- Work with an overheard peer that reads a value out of some answers, whatever was called before. -/
def Reads (a : Action (Overheard τ) α) (Full : List Answer → α → Prop) : Prop :=
  ∀ j, ∃ answers x calls, Full answers x ∧ Reading answers x calls (Action.on a j).1 ∧
    (Action.on a j).2.state.calls = j.state.calls ++ calls

namespace Reads

variable {a : Action (Overheard τ) α} {f : α → Action (Overheard τ) β} {Full Full' : List Answer → α → Prop}

theorem pure (x : α) : Reads (τ := τ) (Pure.pure x) fun answers y => answers = [] ∧ y = x :=
  fun _ => ⟨[], x, [], ⟨rfl, rfl⟩, .complete, (List.append_nil _).symm⟩

/-- What is read may be said more weakly. -/
theorem imp (h : Reads a Full) (hFull : ∀ answers x, Full answers x → Full' answers x) : Reads a Full' := by
  intro j
  obtain ⟨answers, x, calls, hfull, hreading⟩ := h j
  exact ⟨answers, x, calls, hFull _ _ hfull, hreading⟩

/-- What is read first comes first; if it is not read to its end, nothing else is asked. -/
theorem bind {Next : α → List Answer → β → Prop} (h : Reads a Full) (hf : ∀ x, Reads (f x) (Next x)) :
    Reads (a >>= f) fun answers y => ∃ first x second, Full first x ∧ Next x second y ∧ answers = first ++ second := by
  intro j
  obtain ⟨first, x, calls, hfull, hreading, hcalls⟩ := h j
  rcases hr : Action.on a j with ⟨r, k⟩
  rw [hr] at hreading hcalls
  obtain ⟨second, y, calls', hnext, hreading', hcalls'⟩ := hf x k
  refine ⟨first ++ second, y, ?_⟩
  cases hreading with
  | complete =>
    rw [Action.on_bind_ok hr]
    refine ⟨first.map Answer.call ++ calls', ⟨first, x, second, hfull, hnext, rfl⟩, ?_, ?_⟩
    · generalize (Action.on (f x) k).1 = r' at hreading' ⊢
      cases hreading' with
      | complete =>
        rw [← List.map_append]
        exact .complete
      | stopped fault hdone =>
        rw [← List.append_assoc, ← List.map_append]
        exact .stopped fault (by rw [hdone, List.append_assoc])
    · rw [hcalls', hcalls, List.append_assoc]
  | @stopped done rest missed fault hdone =>
    have hanswers : first ++ second = done ++ missed :: (rest ++ second) := by
      rw [hdone, List.append_assoc, List.cons_append]
    rw [Action.on_bind_error hr]
    exact ⟨_, ⟨first, x, second, hfull, hnext, rfl⟩, .stopped fault hanswers, hcalls⟩

/-- What is reported asks nothing. -/
theorem note_bind {level : Level} {text : String} (h : Reads a Full) : Reads (Action.note level text >>= fun _ => a) Full := by
  intro j
  rw [Action.on_bind_ok (Action.on_note level text j)]
  exact h ⟨j.state, j.log ++ [⟨level, text⟩]⟩

/-- What is reported of several objects asks nothing. -/
theorem noteAll_bind (entries : List Entry) (h : Reads a Full) : Reads (Action.noteAll entries >>= fun _ => a) Full := by
  intro j
  obtain ⟨k, hk, hstate⟩ := Action.exists_on_noteAll entries j
  rw [Action.on_bind_ok hk, ← hstate]
  exact h k

end Reads

end Overheard

namespace Client

open Catalog
open Overheard (Reads)

variable {τ : Type} (c : Client τ)

/-- A query is one call, and its failure is that of the catalog. -/
theorem ask_reads (q : Query) : Reads (c.overheard.ask q) fun answers rows => answers = [⟨q, rows⟩] := by
  intro j
  rcases hr : (ExceptT.run (c.query q)).run j.state.peer with ⟨r, s⟩
  have hon : Action.on (c.overheard.ask q) j =
      (r.mapError catalogFailure, ⟨⟨s, j.state.calls ++ [.query q r]⟩, j.log⟩) := by
    change (((ExceptT.run (c.query q)).run j.state.peer).1.mapError catalogFailure,
      (⟨⟨((ExceptT.run (c.query q)).run j.state.peer).2, j.state.calls ++
        [.query q ((ExceptT.run (c.query q)).run j.state.peer).1]⟩, j.log⟩ : Journal (Overheard τ))) = _
    rw [hr]
  rw [hon]
  cases r with
  | ok rows => exact ⟨[⟨q, rows⟩], rows, _, rfl, .complete, rfl⟩
  | error fault =>
    have hmissed : [Answer.mk q []] = [] ++ Answer.mk q [] :: [] := rfl
    exact ⟨[⟨q, []⟩], [], _, rfl, .stopped fault hmissed, rfl⟩

/-- Reading the domains asks one query and gives a domain for each record. -/
theorem domains_reads : Reads c.overheard.domains fun answers domains =>
    ∃ records : List DomainRecord, answers = [⟨.domains, records⟩] ∧ domains = records.map domainOf := by
  refine ((c.ask_reads .domains).bind fun records => .note_bind (.noteAll_bind _ (.pure _))).imp ?_
  rintro _ _ ⟨_, records, _, rfl, ⟨rfl, rfl⟩, rfl⟩
  exact ⟨records, rfl, List.map_map⟩

/-- Reading the columns of a table asks one query and gives a column for each record. -/
theorem columns_reads (table : String) : Reads (c.overheard.columns table) fun answers columns =>
    ∃ records : List ColumnRecord, answers = [⟨.columns table, records⟩] ∧ columns = records.map columnOf := by
  refine ((c.ask_reads (.columns table)).bind fun records => .note_bind (.noteAll_bind _ (.pure _))).imp ?_
  rintro _ _ ⟨_, records, _, rfl, ⟨rfl, rfl⟩, rfl⟩
  exact ⟨records, rfl, List.map_map⟩

/-- The columns of each table are asked for in the order of the names. -/
theorem tablesNamed_reads (names : List String) : Reads (c.overheard.tablesNamed names) fun answers tables =>
    ∃ contents : List TableContents, contents.map TableContents.name = names ∧
      answers = contents.map TableContents.answer ∧ tables = contents.map TableContents.table := by
  induction names with
  | nil =>
    refine Reads.imp (.pure _) ?_
    rintro _ _ ⟨rfl, rfl⟩
    exact ⟨[], rfl, rfl, rfl⟩
  | cons name names ih =>
    refine ((c.columns_reads _).bind fun columns => ih.bind fun tables => .pure _).imp ?_
    rintro _ _ ⟨_, _, _, ⟨records, rfl, rfl⟩, ⟨_, _, _, ⟨contents, rfl, rfl, rfl⟩, ⟨rfl, rfl⟩, rfl⟩, rfl⟩
    exact ⟨⟨name, records⟩ :: contents, rfl, by simp [TableContents.answer], rfl⟩

/-- The parameters of each procedure are asked for in the order of the rows. -/
theorem proceduresOf_reads (rows : List ProcedureRow) : Reads (c.overheard.proceduresOf rows) fun answers procedures =>
    ∃ contents : List ProcedureContents, contents.map ProcedureContents.row = rows ∧
      answers = contents.map ProcedureContents.answer ∧ procedures = contents.map ProcedureContents.procedure := by
  induction rows with
  | nil =>
    refine Reads.imp (.pure _) ?_
    rintro _ _ ⟨rfl, rfl⟩
    exact ⟨[], rfl, rfl, rfl⟩
  | cons row rows ih =>
    refine ((c.ask_reads _).bind fun records => .noteAll_bind _ (ih.bind fun procedures => .pure _)).imp ?_
    rintro _ _ ⟨_, records, _, rfl, ⟨_, _, _, ⟨contents, rfl, rfl, rfl⟩, ⟨rfl, rfl⟩, rfl⟩, rfl⟩
    refine ⟨⟨row, records⟩ :: contents, rfl, by simp [ProcedureContents.answer], ?_⟩
    rw [List.map_cons, toProcedure_eq]

/-- The whole schema is read: domains, then tables, then procedures. -/
theorem source_reads : Reads c.overheard.source.loadSchema fun answers schema =>
    ∃ contents : Contents, answers = contents.answers ∧ schema = contents.schema := by
  have htables := (c.ask_reads .tables).bind c.tablesNamed_reads
  have hprocedures := (c.ask_reads .procedures).bind c.proceduresOf_reads
  refine (c.domains_reads.bind fun domains => htables.bind fun tables => hprocedures.bind fun procedures => .pure _).imp ?_
  rintro _ _ ⟨_, _, _, ⟨records, rfl, rfl⟩, ⟨_, _, _, ⟨_, _, _, rfl, ⟨tables, rfl, rfl, rfl⟩, rfl⟩,
    ⟨_, _, _, ⟨_, _, _, rfl, ⟨procedures, rfl, rfl, rfl⟩, rfl⟩, ⟨rfl, rfl⟩, rfl⟩, rfl⟩, rfl⟩
  exact ⟨⟨records, tables, procedures⟩, by simp [Contents.answers], rfl⟩

/-- Whatever a client answers, reading the schema makes the calls of a reading of some contents and ends like it: with the schema of
these contents, or at the first query that fails, with its failure. -/
theorem loadSchema_reads (s : τ) :
    ∃ contents : Contents,
      Reading contents.answers contents.schema (c.loadCalls s) (Action.start c.source.loadSchema s).1 := by
  obtain ⟨answers, schema, calls, ⟨contents, rfl, rfl⟩, hreading, hcalls⟩ := c.source_reads ⟨⟨s, []⟩, []⟩
  have hresult : (Action.start c.source.loadSchema s).1 = (Action.on c.overheard.source.loadSchema ⟨⟨s, []⟩, []⟩).1 :=
    congrArg Prod.fst (c.overheard_loadSchema ⟨⟨s, []⟩, []⟩)
  refine ⟨contents, ?_⟩
  rw [loadCalls, Action.start_eq_on, hcalls, hresult]
  exact hreading

end Client

end SchemaScript
