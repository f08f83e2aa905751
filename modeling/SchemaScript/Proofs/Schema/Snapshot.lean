import SchemaScript.Ddl.Render
import SchemaScript.Proofs.Action
import SchemaScript.Proofs.Json.Record
import SchemaScript.Schema.Json

/-!
# Snapshots

Every object of a schema is read back from its printed form, whatever its texts hold (`Schema.reads`): the fields that are
written follow the shape that is read, and what is left out is what the shape starts from. So a snapshot gives the schema
itself if it can be scripted, and otherwise the failure that says why not (`Schema.ofSnapshot_snapshot`).
-/

namespace SchemaScript

open Json (Value Reads Follows)

/-- An optional field that is left out when there is no text follows one that reads an optional text. -/
theorem Json.Follows.optionalField {δ : Type} {fields : List (Field δ)} {entries : List (String × Value)} {others : δ → δ}
    (h : Follows fields entries others) (name : String) (text : Option String) (store : Option String → δ → δ) :
    Follows (.of name false (readOptional readString) store :: fields) (Json.optionalField name text ++ entries)
      (others ∘ if text.isSome then store text else id) := by
  cases text with
  | none => exact .omitted rfl h
  | some t => exact .stored ((Json.reads_text t).optional.field ..) h

/-- A domain is read back from its JSON. -/
theorem Domain.reads (d : Domain) : Reads (Json.readRecord shape) d.toJson d := by
  rw [toJson, List.append_assoc, ← List.append_nil (Json.optionalField "check_constraint" _)]
  refine Follows.reads (.stored ((Json.reads_text d.name).field ..) <| .stored ((Json.reads_text d.type).field ..) <|
    .stored ((Json.reads_flag d.notNull).field ..) <| (Follows.nil.optionalField _ d.check? _).optionalField _ d.default? _)
    (by decide) ?_
  rcases d with ⟨_, _, _, _ | _, _ | _⟩ <;> rfl

theorem Column.reads (c : Column) : Reads (Json.readRecord shape) c.toJson c := by
  rw [toJson, ← List.append_nil (Json.optionalField "default_expression" _)]
  refine Follows.reads (.stored ((Json.reads_text c.name).field ..) <| .stored ((Json.reads_text c.type).field ..) <|
    .stored ((Json.reads_flag c.nullable).field ..) <| Follows.nil.optionalField _ c.default? _) (by decide) ?_
  rcases c with ⟨_, _, _, _ | _⟩ <;> rfl

theorem Table.reads (t : Table) : Reads (Json.readRecord shape) t.toJson t :=
  Follows.reads (.stored ((Json.reads_text t.name).field ..) <| .stored ((Reads.map Column.reads t.columns).field ..) .nil)
    (by decide) rfl

theorem Parameter.reads (p : Parameter) : Reads (Json.readRecord shape) p.toJson p :=
  Follows.reads (.stored ((Json.reads_text p.name).field ..) <| .stored ((Json.reads_text p.type).field ..) .nil) (by decide) rfl

theorem Procedure.reads (p : Procedure) : Reads (Json.readRecord shape) p.toJson p :=
  Follows.reads (.stored ((Json.reads_text p.name).field ..) <| .stored ((Json.reads_text p.body).field ..) <|
    .stored ((Reads.map Parameter.reads p.inputs).field ..) <| .stored ((Reads.map Parameter.reads p.outputs).field ..) .nil)
    (by decide) rfl

/-- A schema is read back from its printed form. -/
theorem Schema.reads (s : Schema) : Reads (Json.readRecord shape) s.toJson s :=
  Follows.reads (.stored ((Reads.map Domain.reads s.domains).field ..) <| .stored ((Reads.map Table.reads s.tables).field ..) <|
    .stored ((Reads.map Procedure.reads s.procedures).field ..) .nil) (by decide) rfl

/-- A snapshot is validated as the schema that it was taken of. -/
theorem Schema.ofSnapshot_eq_validate (s : Schema) : ofSnapshot s.snapshot = s.validate := by
  rw [ofSnapshot, snapshot, s.reads.document]
  rfl

/-- Validation gives the schema itself or refuses it as a configuration. -/
theorem Schema.validate_eq (s : Schema) : s.validate = .ok s ∨ ∃ reason, s.validate = .error (.config reason) := by
  rw [validate]
  cases s.defect? with
  | none => exact .inl rfl
  | some defect => exact .inr ⟨_, rfl⟩

/-- What is loaded from a snapshot can be scripted. -/
theorem Schema.validate_of_ofSnapshot {text : String} {s : Schema} (h : ofSnapshot text = .ok s) : s.validate = .ok s := by
  obtain ⟨loaded, -, hloaded⟩ := Action.exists_of_bind_eq_ok h
  rcases loaded.validate_eq with hvalid | ⟨_, hinvalid⟩
  · obtain rfl : loaded = s := Except.ok.inj (hvalid.symm.trans hloaded)
    exact hvalid
  · rw [hinvalid] at hloaded
    nomatch hloaded

/-- A snapshot gives the schema that it was taken of if this can be scripted, and otherwise fails as its validation does. So
whatever text a schema was loaded from, its snapshot gives the same schema, and the same script. -/
theorem Schema.ofSnapshot_snapshot (s : Schema) :
    ofSnapshot s.snapshot = s.validate ∧ (s.validate = .ok s ∨ ∃ reason, s.validate = .error (.config reason)) ∧
    ∀ text, ofSnapshot text = .ok s →
      ofSnapshot s.snapshot = .ok s ∧ (ofSnapshot s.snapshot).map Ddl.schema = (ofSnapshot text).map Ddl.schema := by
  refine ⟨s.ofSnapshot_eq_validate, s.validate_eq, fun text htext => ?_⟩
  have hsnapshot : ofSnapshot s.snapshot = .ok s := s.ofSnapshot_eq_validate.trans (validate_of_ofSnapshot htext)
  exact ⟨hsnapshot, by rw [hsnapshot, htext]⟩

/-- A domain that is loaded from a list of its fields is written with their names, and loaded again. -/
theorem Schema.ofSnapshot_listedDomain :
    let text := "\x7b\"domains\": [[\"D\", \"DATE\", true, \"\"]]\x7d"
    let s : Schema := ⟨[⟨"D", "DATE", true, some "", none⟩], [], []⟩
    ofSnapshot text = .ok s ∧ ofSnapshot s.snapshot = .ok s ∧
      (ofSnapshot s.snapshot).map Ddl.schema = (ofSnapshot text).map Ddl.schema := by
  intro text s
  have htext : ofSnapshot text = .ok s := Action.eq_ok_of_toOption (by decide +kernel)
  exact ⟨htext, s.ofSnapshot_snapshot.2.2 text htext⟩

end SchemaScript
