import SchemaScript.Config.Yaml
import SchemaScript.Proofs.Config.Validate
import SchemaScript.Proofs.Yaml.Decode

/-!
# The sections of a configuration file

A configuration file has two readers: one that reads every section, and one that reads the section of the export alone. The second
shape is a part of the first (`ExportOptions.partOf_fileShape`), so whatever file the first reader accepts the second one accepts too,
with the same options. What the second reader makes of a file depends on the values under the name of its section only.
-/

namespace SchemaScript

open SchemaScript.Action (eq_ok_of_mapError exists_of_bind_eq_ok)
open Yaml

/-- The entries of a text that is one mapping whose keys are scalars. -/
def Yaml.topEntries? (text : String) : Option (List (String × Node Nat)) :=
  match Document.ofText text with
  | .ok ⟨.mapping _ _ pairs, _⟩ => entries? pairs
  | _ => none

/-- Whether two texts are mappings whose keys are scalars, and hold the same under a name, whatever else they hold. -/
def Yaml.agreeOn (name text text' : String) : Bool :=
  match topEntries? text, topEntries? text' with
  | some entries, some entries' => alikeItems (valuesAt name entries) (valuesAt name entries')
  | _, _ => false

/-- A failure without its place in a text. -/
def Failure.unplaced : Failure → Failure
  | yaml fault => .yaml fault.unplaced
  | failure => failure

/-- Values that hold the same, under keys that hold the same, are pairs that hold the same. -/
theorem Yaml.alikePairs_plainPair (name : String) {values values' : List (Node Nat)} (h : alikeItems values values' = true) :
    alikePairs (values.map (plainPair name)) (values'.map (plainPair name)) = true := by
  induction values generalizing values' with
  | nil =>
    cases values' with
    | nil => rfl
    | cons => nomatch h
  | cons value values ih =>
    match values', h with
    | value' :: values', h =>
      simp only [alikeItems, Bool.and_eq_true] at h
      simp [plainPair, alikePairs, Node.alike, h.1, ih h.2]

/-! ## The reader of one section -/

/-- The options of an export are read from what a node holds, wherever it stands. -/
theorem ExportOptions.placeless_shape : Placeless (readRecord ExportOptions.shape) := by
  refine placeless_readRecord fun f hf => ?_
  simp only [ExportOptions.shape, List.mem_cons, List.not_mem_nil, or_false] at hf
  rcases hf with rfl | rfl
  · exact placeless_of placeless_readText _ _ _
  · exact placeless_of placeless_readFlag _ _ _

/-- The section of the export is a part of the configuration file. -/
theorem ExportOptions.partOf_fileShape : ExportOptions.fileShape.PartOf Config.shape (·.exporting) where
  empty := rfl
  optional := by simp [fileShape, Field.of]
  shared := by
    intro name f hf
    obtain ⟨hname, rfl⟩ : "export" = name ∧ Field.of "export" false (readRecord shape) (fun v _ => v) = f := by
      simpa [fileShape, Field.of] using hf
    subst hname
    refine ⟨_, rfl, fun {i store} hstore => ?_⟩
    obtain ⟨options, hread, rfl⟩ := exists_of_read_of hstore
    exact ⟨fun _ => options, congrArg (Except.map _) hread, fun _ => rfl⟩
  other := by
    intro name g hf hg i store hstore draft
    have hname : "export" ≠ name := by simpa [fileShape, Field.of] using hf
    have hgname : g.name = name := by simpa using List.find?_some hg
    have hmem := List.mem_of_find?_eq_some hg
    simp only [Config.shape, List.mem_cons, List.not_mem_nil, or_false] at hmem
    rcases hmem with rfl | rfl | rfl
    · obtain ⟨_, -, rfl⟩ := exists_of_read_of hstore
      rfl
    · exact absurd hgname hname
    · obtain ⟨_, -, rfl⟩ := exists_of_read_of hstore
      rfl

/-- Of a mapping whose keys are scalars the reader of the export's section takes the values under the name of the section. -/
theorem ExportOptions.exists_read_of_topEntries {text : String} {entries : List (String × Yaml.Node Nat)}
    (h : topEntries? text = some entries) :
    ∃ i : Item, i.path = "" ∧ readDocument (readRecord fileShape) text =
      readPairs fileShape.fields i ((valuesAt "export" entries).map (plainPair "export")) [] fileShape.empty := by
  unfold topEntries? at h
  split at h
  · rename_i m a pairs anchors htext
    refine ⟨⟨⟨.mapping m a pairs, anchors⟩, "", .mapping m a pairs⟩, rfl, ?_⟩
    rw [readDocument, htext]
    exact readPairs_single _ h [] _
  · exact absurd h (Option.some_ne_none _).symm

/-- The reader of the export's section takes from two mappings the same, or refuses both for the same, if they agree on the section. -/
theorem ExportOptions.unplaced_read_of_agreeOn {text text' : String} (h : agreeOn "export" text text' = true) :
    unplaced (readDocument (readRecord fileShape) text) = unplaced (readDocument (readRecord fileShape) text') := by
  unfold agreeOn at h
  split at h
  · rename_i entries entries' hentries hentries'
    obtain ⟨i, hpath, hread⟩ := exists_read_of_topEntries hentries
    obtain ⟨i', hpath', hread'⟩ := exists_read_of_topEntries hentries'
    rw [hread, hread']
    refine readPairs_placeless (fun f hf => ?_) i i' (hpath.trans hpath'.symm) (alikePairs_plainPair "export" h) [] _
    obtain rfl := List.mem_singleton.mp hf
    exact placeless_of placeless_shape _ _ _
  · exact absurd h Bool.false_ne_true

/-- The two readers of a configuration file agree. Whenever the whole file is read, the section of the export is read from it alone,
and the options are the same. And what is read of this section alone does not depend on the rest of the file: of two mappings with
the same values under its name either both give the same options, or both are refused for the same reason, apart from its place. -/
theorem ExportOptions.ofYaml_reads_section :
    (∀ text config, Config.ofYaml text = .ok config → ExportOptions.ofYaml text = .ok config.exporting) ∧
    ∀ text text', agreeOn "export" text text' = true →
      (∃ options, ExportOptions.ofYaml text = .ok options ∧ ExportOptions.ofYaml text' = .ok options) ∨
      ∃ e e', ExportOptions.ofYaml text = .error e ∧ ExportOptions.ofYaml text' = .error e' ∧ e.unplaced = e'.unplaced := by
  refine ⟨fun text config h => ?_, fun text text' h => ?_⟩
  · obtain ⟨parsed, hparsed, hvalid⟩ := exists_of_bind_eq_ok h
    obtain ⟨rfl, husable⟩ := Config.validate_eq_ok_iff.mp hvalid
    have hsection : parsed.exporting.validate = .ok parsed.exporting := by
      rw [ExportOptions.validate, ExportOptions.defect?, fileNameDefect?_eq_none_iff.mpr husable.exportFile]
    rw [ExportOptions.ofYaml, partOf_fileShape.readDocument_of_whole (eq_ok_of_mapError hparsed)]
    exact hsection
  · unfold ExportOptions.ofYaml
    rcases eq_ok_or_error_of_unplaced (unplaced_read_of_agreeOn h) with ⟨options, hr, hr'⟩ | ⟨e, e', hr, hr', he⟩
    · rw [hr, hr']
      change (∃ o, options.validate = .ok o ∧ options.validate = .ok o) ∨
        ∃ e e', options.validate = .error e ∧ options.validate = .error e' ∧ _
      cases options.validate with
      | ok o => exact .inl ⟨o, rfl, rfl⟩
      | error e => exact .inr ⟨e, e, rfl, rfl, rfl⟩
    · rw [hr, hr']
      exact .inr ⟨.yaml e, .yaml e', rfl, rfl, congrArg Failure.yaml he⟩

/-- A configuration file with a name for the script. -/
def namedFile : String := "connection:\n  database: /data/a.fdb\nexport:\n  file_name: a.sql\n"

/-- A file with the same name for the script, beside sections that mean nothing. -/
def looseFile : String := "build: 7\n\"export\": {file_name: a.sql}\nconnection: [x]\n"

/-- The options of the first file are read from it, and so they are read from the second one, which is no configuration. -/
theorem ExportOptions.ofYaml_looseFile : agreeOn "export" namedFile looseFile = true ∧
    (Config.ofYaml namedFile).toOption.isSome = true ∧ (Config.ofYaml looseFile).toOption = none ∧
    ExportOptions.ofYaml looseFile = .ok ⟨"a.sql", false⟩ := by
  have hagree : agreeOn "export" namedFile looseFile = true := by decide +kernel
  have hconfig : Config.ofYaml namedFile =
      .ok ⟨{ Connection.default with database := "/data/a.fdb" }, ⟨"a.sql", false⟩, .default⟩ :=
    Action.eq_ok_of_toOption (by decide +kernel)
  have hread := ofYaml_reads_section.1 _ _ hconfig
  refine ⟨hagree, by rw [hconfig]; rfl, by decide +kernel, ?_⟩
  rcases ofYaml_reads_section.2 _ _ hagree with ⟨options, hr, hr'⟩ | ⟨e, -, hr, -⟩
  · rw [hr', ← hr, hread]
  · rw [hread] at hr
    nomatch hr

end SchemaScript
