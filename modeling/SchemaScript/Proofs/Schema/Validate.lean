import SchemaScript.Proofs.Action
import SchemaScript.Proofs.FirstUnmet
import SchemaScript.Proofs.Text.Trim
import SchemaScript.Schema.Json

/-!
# Which schemas can be scripted

`Schema.Scriptable` says it object by object. `Schema.requirements` lists what is required of a schema, object by object in the order
in which they are scripted, with what is said if it is not so. The defect of a schema is that of the first requirement that is not met
(`Schema.reports_requirements`), and the object that the message names as the owner is known by then to have a legible name. So a
schema is accepted exactly if it can be scripted, and refused with the message of the first requirement that it does not meet
(`Schema.validate_reports_first`).
-/

namespace SchemaScript

open Text (Legible)

/-- A schema that can be scripted: every name and every type is legible, and every table has a column. -/
structure Schema.Scriptable (s : Schema) : Prop where
  domains : ∀ d ∈ s.domains, Legible d.name ∧ Legible d.type
  tables : ∀ t ∈ s.tables, Legible t.name ∧ t.columns ≠ [] ∧ ∀ c ∈ t.columns, Legible c.name ∧ Legible c.type
  procedures : ∀ p ∈ s.procedures, Legible p.name ∧ ∀ q ∈ p.inputs ++ p.outputs, Legible q.name ∧ Legible q.type

/-! ## Requirements -/

namespace Schema

/-- Something that is required of a schema, what is said if it is not so, and the object that is then named as the owner. -/
structure Requirement where
  holds : Prop
  message : String
  owner? : Option String

namespace Requirement

/-- An object has to have a legible name. -/
def named (what name : String) : Requirement := ⟨Legible name, "snapshot " ++ what ++ " is empty", none⟩

/-- A text of an object has to be legible. -/
def owned (what text owner : String) : Requirement :=
  ⟨Legible text, "snapshot " ++ what ++ " is empty in '" ++ owner ++ "'", some owner⟩

/-- A table has to have a column. -/
def columned (t : Table) : Requirement := ⟨t.columns ≠ [], "snapshot table '" ++ t.name ++ "' has no columns", some t.name⟩

end Requirement

end Schema

open Schema (Requirement)

/-- What is required of a domain: its name, then its type. -/
def Domain.requirements (d : Domain) : List Requirement := [.named "domain name" d.name, .owned "domain type" d.type d.name]

/-- What is required of a column of a table: its name, then its type. -/
def Column.requirements (table : String) (c : Column) : List Requirement :=
  [.owned "column name" c.name table, .owned "column type" c.type table]

/-- What is required of a table: its name, then that it has a column, then what is required of the columns in order. -/
def Table.requirements (t : Table) : List Requirement :=
  .named "table name" t.name :: .columned t :: t.columns.flatMap (·.requirements t.name)

/-- What is required of a parameter of a procedure: its name, then its type. -/
def Parameter.requirements (procedure : String) (q : Parameter) : List Requirement :=
  [.owned "parameter name" q.name procedure, .owned "parameter type" q.type procedure]

/-- What is required of a procedure: its name, then what is required of its inputs and behind them of its outputs. -/
def Procedure.requirements (p : Procedure) : List Requirement :=
  .named "procedure name" p.name :: (p.inputs ++ p.outputs).flatMap (·.requirements p.name)

/-- All that is required of a schema: of its domains, then of its tables, then of its procedures. -/
def Schema.requirements (s : Schema) : List Requirement :=
  s.domains.flatMap (·.requirements) ++ (s.tables.flatMap (·.requirements) ++ s.procedures.flatMap (·.requirements))

/-- A domain meets its requirements exactly if its name and its type are legible. -/
theorem Domain.forall_requirements {d : Domain} : (∀ r ∈ d.requirements, r.holds) ↔ Legible d.name ∧ Legible d.type := by
  simp only [requirements, Requirement.named, Requirement.owned, List.forall_mem_cons, List.not_mem_nil, false_imp_iff, implies_true,
    and_true]

/-- A table meets its requirements exactly if its name is legible, it has a column, and the names and types of its columns are
legible. -/
theorem Table.forall_requirements {t : Table} :
    (∀ r ∈ t.requirements, r.holds) ↔ Legible t.name ∧ t.columns ≠ [] ∧ ∀ c ∈ t.columns, Legible c.name ∧ Legible c.type := by
  simp only [requirements, Column.requirements, Requirement.named, Requirement.owned, Requirement.columned, List.forall_mem_cons,
    List.forall_mem_flatMap, List.not_mem_nil, false_imp_iff, implies_true, and_true]

/-- A procedure meets its requirements exactly if its name and the names and types of its parameters are legible. -/
theorem Procedure.forall_requirements {p : Procedure} :
    (∀ r ∈ p.requirements, r.holds) ↔ Legible p.name ∧ ∀ q ∈ p.inputs ++ p.outputs, Legible q.name ∧ Legible q.type := by
  simp only [requirements, Parameter.requirements, Requirement.named, Requirement.owned, List.forall_mem_cons, List.forall_mem_flatMap,
    List.not_mem_nil, false_imp_iff, implies_true, and_true]

/-- A schema can be scripted exactly if it meets all requirements. -/
theorem Schema.scriptable_iff {s : Schema} : s.Scriptable ↔ ∀ r ∈ s.requirements, r.holds := by
  rw [requirements, List.forall_mem_append, List.forall_mem_append, List.forall_mem_flatMap, List.forall_mem_flatMap,
    List.forall_mem_flatMap]
  simp only [Domain.forall_requirements, Table.forall_requirements, Procedure.forall_requirements]
  exact ⟨fun h => ⟨h.domains, h.tables, h.procedures⟩, fun ⟨hdomains, htables, hprocedures⟩ => ⟨hdomains, htables, hprocedures⟩⟩

/-! ## What the defects report -/

namespace Schema

/-- Whether a defect is what is said where a requirement is not met, and the object that is named as the owner has a legible name. -/
def Defect.Tells (defect : Defect) (r : Requirement) : Prop :=
  defect.message = r.message ∧ ∀ owner ∈ r.owner?, Legible owner

/-- A defect is that of the first one of some requirements that is not met, or there is no defect and all of them are met. -/
abbrev Reports (rs : List Requirement) (defect? : Option Defect) : Prop := Finds Requirement.holds Defect.Tells rs defect?

/-- A name is missed without an owner. -/
theorem reports_named (part : Part) (name : String) : Reports [.named part.label name] (blankDefect? part name "") :=
  .ite Text.allBlank_eq_true_iff ⟨rfl, nofun⟩

/-- A text is missed with its owner, whose name is legible and so not empty. -/
theorem reports_owned (part : Part) (text : String) {owner : String} (howner : Legible owner) :
    Reports [.owned part.label text owner] (blankDefect? part text owner) := by
  have hne : owner ≠ "" := by
    rintro rfl
    obtain ⟨c, hc, -⟩ := howner
    nomatch hc
  refine .ite Text.allBlank_eq_true_iff ⟨if_neg hne, fun o ho => ?_⟩
  obtain rfl := Option.some.inj ho
  exact howner

end Schema

open Schema (Reports)

/-- The defect of a domain is that of its first requirement that is not met. -/
theorem Domain.reports (d : Domain) : Reports d.requirements d.defect? :=
  (Schema.reports_named .domainName d.name).append fun hname =>
    Schema.reports_owned .domainType d.type (hname _ List.mem_cons_self)

theorem Column.reports {table : String} (htable : Legible table) (c : Column) : Reports (c.requirements table) (c.defect? table) :=
  (Schema.reports_owned .columnName c.name htable).append fun _ => Schema.reports_owned .columnType c.type htable

/-- The defect of a table is that of its first requirement that is not met; by then its name is known to be legible. -/
theorem Table.reports (t : Table) : Reports t.requirements t.defect? := by
  have hcolumns : t.defect? = (Schema.blankDefect? .tableName t.name "").or
      ((if t.columns.isEmpty = true then some (.noColumns t.name) else none).or (t.columns.findSome? (·.defect? t.name))) := by
    rw [defect?]
    split <;> rfl
  rw [hcolumns]
  refine (Schema.reports_named .tableName t.name).append fun hname => ?_
  have howner : Legible t.name := hname _ List.mem_cons_self
  have hcolumned : Reports [.columned t] (if t.columns.isEmpty = true then some (.noColumns t.name) else none) := by
    refine .ite ?_ ⟨rfl, fun o ho => ?_⟩
    · rw [List.isEmpty_iff, Requirement.columned, not_not]
    · obtain rfl := Option.some.inj ho
      exact howner
  exact hcolumned.append fun _ => .flatMap (Column.reports howner) t.columns

theorem Parameter.reports {procedure : String} (hprocedure : Legible procedure) (q : Parameter) :
    Reports (q.requirements procedure) (q.defect? procedure) :=
  (Schema.reports_owned .parameterName q.name hprocedure).append fun _ => Schema.reports_owned .parameterType q.type hprocedure

/-- The defect of a procedure is that of its first requirement that is not met; by then its name is known to be legible. -/
theorem Procedure.reports (p : Procedure) : Reports p.requirements p.defect? :=
  (Schema.reports_named .procedureName p.name).append fun hname =>
    .flatMap (Parameter.reports (hname _ List.mem_cons_self)) (p.inputs ++ p.outputs)

/-- The defect of a schema is that of the first requirement that it does not meet. -/
theorem Schema.reports_requirements (s : Schema) : Reports s.requirements s.defect? :=
  (Finds.flatMap Domain.reports s.domains).append fun _ =>
    (Finds.flatMap Table.reports s.tables).append fun _ => .flatMap Procedure.reports s.procedures

/-! ## Objects without a defect -/

/-- A domain has no defect exactly if its name and its type are legible. -/
theorem Domain.defect?_eq_none_iff {d : Domain} : d.defect? = none ↔ Legible d.name ∧ Legible d.type :=
  d.reports.eq_none_iff.trans forall_requirements

/-- A table has no defect exactly if its name is legible, it has a column, and the names and types of its columns are legible. -/
theorem Table.defect?_eq_none_iff {t : Table} :
    t.defect? = none ↔ Legible t.name ∧ t.columns ≠ [] ∧ ∀ c ∈ t.columns, Legible c.name ∧ Legible c.type :=
  t.reports.eq_none_iff.trans forall_requirements

/-- A procedure has no defect exactly if its name and the names and types of its parameters are legible. -/
theorem Procedure.defect?_eq_none_iff {p : Procedure} :
    p.defect? = none ↔ Legible p.name ∧ ∀ q ∈ p.inputs ++ p.outputs, Legible q.name ∧ Legible q.type :=
  p.reports.eq_none_iff.trans forall_requirements

/-- A schema has no defect exactly if none of its objects has one. -/
theorem Schema.defect?_eq_none_iff {s : Schema} :
    s.defect? = none ↔ (∀ d ∈ s.domains, d.defect? = none) ∧ (∀ t ∈ s.tables, t.defect? = none) ∧
      ∀ p ∈ s.procedures, p.defect? = none := by
  simp only [defect?, Option.or_eq_none_iff, List.findSome?_eq_none_iff]

/-- A schema is accepted exactly if it has no defect. -/
theorem Schema.validate_eq_ok_iff {s : Schema} : s.validate = .ok s ↔ s.defect? = none := by
  rw [validate]
  cases s.defect? with
  | none => exact iff_of_true rfl rfl
  | some defect => exact iff_of_false nofun nofun

/-! ## Validation -/

/-- A schema is accepted exactly if it can be scripted. Otherwise it is refused with the message of the first requirement that it does
not meet, and the object that the message names as the owner has a legible name. -/
theorem Schema.validate_reports_first (s : Schema) :
    (s.validate = .ok s ↔ s.Scriptable) ∧
    (¬s.Scriptable → ∃ r, FirstUnmet Requirement.holds s.requirements r ∧ s.validate = .error (.config r.message) ∧
      ∀ owner ∈ r.owner?, Legible owner) := by
  have hreports := s.reports_requirements
  refine ⟨?_, fun hunscriptable => ?_⟩
  · rw [validate_eq_ok_iff, hreports.eq_none_iff, scriptable_iff]
  · rw [scriptable_iff, ← hreports.eq_none_iff] at hunscriptable
    obtain ⟨defect, hdefect⟩ := Option.ne_none_iff_exists'.mp hunscriptable
    rw [hdefect] at hreports
    obtain ⟨r, hr, hmessage, howner⟩ := hreports
    exact ⟨r, hr, by rw [validate, hdefect, ← hmessage], howner⟩

/-- A table with a column whose type is blank, and a procedure without a name behind it. -/
def Schema.blankColumn : Schema := ⟨[], [⟨"T", [⟨"A", " ", true, none⟩]⟩], [⟨"", "", [], []⟩]⟩

/-- The blank type is reported with its table, before the name of the procedure. -/
theorem Schema.validate_blankColumn :
    ¬blankColumn.Scriptable ∧ (∃ r, FirstUnmet Requirement.holds blankColumn.requirements r ∧
      blankColumn.validate = .error (.config r.message) ∧ ∀ owner ∈ r.owner?, Legible owner) ∧
    blankColumn.validate = .error (.config "snapshot column type is empty in 'T'") := by
  have hvalidate : blankColumn.validate = .error (.config "snapshot column type is empty in 'T'") :=
    Action.eq_error_of_refusal? (by decide +kernel)
  obtain ⟨hok, hfirst⟩ := validate_reports_first blankColumn
  have hunscriptable : ¬blankColumn.Scriptable := by
    rw [← hok, hvalidate]
    nofun
  exact ⟨hunscriptable, hfirst hunscriptable, hvalidate⟩

end SchemaScript
