import SchemaScript.Config.Validate
import SchemaScript.Proofs.FileTree.Place
import SchemaScript.Proofs.FirstUnmet

/-!
# Which settings can be used

`Config.Usable` says it field by field. `Config.checks` lists what is asked of the settings, in the order in which it is asked, with
what is said if it is not so; the defect of some settings is that of the first check that they break (`Config.reports_checks`). So
settings are accepted exactly if they are usable (`Config.validate_eq_ok_iff`), and refused with the message of the first check that
they break (`Config.validate_eq_error_iff`).
-/

namespace SchemaScript

/-- A name without separators that does not stand for a directory by itself. -/
structure Bare (name : String) : Prop where
  no_slash : '/' ∉ name.toList
  no_backslash : '\\' ∉ name.toList
  not_dot : name ≠ "."
  not_dots : name ≠ ".."

/-- The names that count as plain. -/
theorem isPlainName_iff {name : String} : isPlainName name = true ↔ Bare name := by
  simp only [isPlainName, Bool.and_eq_true, Bool.not_eq_true', bne_iff_ne, List.contains_eq_mem, decide_eq_false_iff_not]
  exact ⟨fun ⟨⟨⟨hslash, hback⟩, hdot⟩, hdots⟩ => ⟨hslash, hback, hdot, hdots⟩, fun h =>
    ⟨⟨⟨h.no_slash, h.no_backslash⟩, h.not_dot⟩, h.not_dots⟩⟩

/-- A bare name that is not empty is the name of something in a directory. -/
theorem Bare.isPlain {name : String} (h : Bare name) (hempty : name ≠ "") : FileTree.IsPlain name :=
  ⟨h.no_slash, hempty, by simp [FileTree.isDots, h.not_dot, h.not_dots]⟩

/-- A file name has no defect exactly if it is there and bare. -/
theorem fileNameDefect?_eq_none_iff {field name : String} : fileNameDefect? field name = none ↔ name ≠ "" ∧ Bare name := by
  rw [fileNameDefect?]
  split
  · rename_i hempty
    exact iff_of_false nofun fun h => h.1 hempty
  · rename_i hne
    split
    · rename_i hplain
      exact iff_of_true rfl ⟨hne, isPlainName_iff.mp hplain⟩
    · rename_i hplain
      exact iff_of_false nofun fun h => hplain (isPlainName_iff.mpr h.2)

namespace Config

/-- Settings that can be used: every field of the connection that has to be there is, the two file names are bare, and the page size
is one of the four that the server offers. -/
structure Usable (c : Config) : Prop where
  host : c.connection.host ≠ ""
  port : c.connection.port ≠ 0
  database : c.connection.database ≠ ""
  user : c.connection.user ≠ ""
  charset : c.connection.charset ≠ ""
  exportFile : c.exporting.fileName ≠ "" ∧ Bare c.exporting.fileName
  databaseFile : c.building.databaseFile ≠ "" ∧ Bare c.building.databaseFile
  pageSize : c.building.pageSize ∈ [4096, 8192, 16384, 32768]

/-! ## Checks -/

/-- Something that is asked of settings, and what is said of settings for which it is not so. -/
structure Check where
  holds : Config → Prop
  message : Config → String

/-- A text has to be there. -/
def Check.required (field : String) (value : Config → String) : Check := ⟨fun c => value c ≠ "", fun _ => field ++ " is required"⟩

/-- A file name has to be bare. -/
def Check.bare (field : String) (value : Config → String) : Check :=
  ⟨fun c => Bare (value c), fun c => field ++ " must be a plain file name, got '" ++ value c ++ "'"⟩

/-- A file name has to be there, and to be bare. -/
def Check.fileName (field : String) (value : Config → String) : List Check := [.required field value, .bare field value]

/-- What is asked of the connection. -/
def Check.connection : List Check := [
  .required "connection.host" (·.connection.host),
  ⟨fun c => c.connection.port ≠ 0, fun _ => "connection.port must not be 0"⟩,
  .required "connection.database" (·.connection.database),
  .required "connection.user" (·.connection.user),
  .required "connection.charset" (·.connection.charset)]

/-- What is asked of the page size. -/
def Check.pageSize : Check where
  holds c := c.building.pageSize ∈ [4096, 8192, 16384, 32768]
  message c := "build.page_size must be one of [4096, 8192, 16384, 32768], got " ++ toString c.building.pageSize.toNat

/-- All that is asked of settings: of the connection, of the file of an export, of the file of a new database, of the page size. -/
def checks : List Check :=
  Check.connection ++ (Check.fileName "export.file_name" (·.exporting.fileName) ++
    (Check.fileName "build.database_file" (·.building.databaseFile) ++ [Check.pageSize]))

/-- Settings can be used exactly if all checks hold. -/
theorem usable_iff {c : Config} : c.Usable ↔ ∀ check ∈ checks, check.holds c := by
  simp only [checks, Check.connection, Check.fileName, Check.required, Check.bare, Check.pageSize, List.forall_mem_append,
    List.forall_mem_cons, List.not_mem_nil, false_imp_iff, implies_true, and_true]
  constructor
  · intro h
    exact ⟨⟨h.host, h.port, h.database, h.user, h.charset⟩, h.exportFile, h.databaseFile, h.pageSize⟩
  · rintro ⟨⟨hhost, hport, hdatabase, huser, hcharset⟩, hexport, hfile, hsize⟩
    exact ⟨hhost, hport, hdatabase, huser, hcharset, hexport, hfile, hsize⟩

/-! ## What the defects report -/

/-- Whether a defect is what is said of settings that do not pass a check. -/
def Defect.Tells (c : Config) (defect : Defect) (check : Check) : Prop := defect.message = check.message c

/-- A defect is that of the first one of some checks that settings break, or there is no defect and all of them hold. -/
abbrev Reports (c : Config) (ks : List Check) (defect? : Option Defect) : Prop := Finds (·.holds c) (Defect.Tells c) ks defect?

variable {c : Config}

/-- A text that has to be there is reported if it is missing. -/
theorem reports_required (field : String) (value : Config → String) :
    Reports c [.required field value] (missingDefect? field (value c)) :=
  .ite Classical.not_not.symm rfl

/-- A file name is reported if it is missing, or else if it is not bare. -/
theorem reports_fileName (field : String) (value : Config → String) :
    Reports c (Check.fileName field value) (fileNameDefect? field (value c)) := by
  have hor : fileNameDefect? field (value c) =
      (missingDefect? field (value c)).or (if isPlainName (value c) then none else some (.notPlain field (value c))) := by
    rw [fileNameDefect?, missingDefect?]
    split <;> rfl
  rw [hor, ← ite_not]
  exact (reports_required field value).append fun _ => .ite (not_congr isPlainName_iff) rfl

/-- The defect of a connection is reported in the order of its checks. -/
theorem reports_connection : Reports c Check.connection c.connection.defect? := by
  have hport : Reports c [⟨fun c => c.connection.port ≠ 0, fun _ => "connection.port must not be 0"⟩]
      (if c.connection.port = 0 then some .zeroPort else none) := .ite Classical.not_not.symm rfl
  exact .cons (reports_required _ _) (.cons hport (.cons (reports_required _ _) (.cons (reports_required _ _)
    (.cons (reports_required _ _) (List.forall_mem_nil _)))))

/-- A page size is reported unless the server offers it. -/
theorem reports_pageSize : Reports c [Check.pageSize]
    (if BuildOptions.pageSizes.contains c.building.pageSize then none else some (.pageSize c.building.pageSize)) := by
  rw [← ite_not]
  exact .ite (not_congr List.contains_iff_mem) rfl

/-- The defect of settings is that of the first check that they break. -/
theorem reports_checks (c : Config) : Reports c checks c.defect? :=
  reports_connection.append fun _ => (reports_fileName _ _).append fun _ => (reports_fileName _ _).append fun _ => reports_pageSize

/-- Settings are accepted as they are exactly if they can be used. -/
theorem validate_eq_ok_iff {c c' : Config} : c.validate = .ok c' ↔ c = c' ∧ c.Usable := by
  rw [validate, usable_iff, ← (reports_checks c).eq_none_iff]
  cases c.defect? with
  | none => exact ⟨fun h => ⟨Except.ok.inj h, rfl⟩, fun ⟨h, _⟩ => congrArg Except.ok h⟩
  | some defect => exact ⟨nofun, nofun⟩

/-- Settings are refused with the message of the first check that they break. -/
theorem validate_eq_error_iff {c : Config} {e : Failure} :
    c.validate = .error e ↔ ∃ check, FirstUnmet (·.holds c) checks check ∧ e = .config (check.message c) := by
  have hreports := reports_checks c
  rw [validate]
  cases hdefect : c.defect? with
  | none =>
    rw [hdefect] at hreports
    exact ⟨nofun, fun ⟨_, hbroken, _⟩ => absurd hreports hbroken.not_forall⟩
  | some defect =>
    rw [hdefect] at hreports
    obtain ⟨check, hbroken, hmessage⟩ := hreports
    rw [Defect.Tells] at hmessage
    constructor
    · intro h
      exact ⟨check, hbroken, hmessage ▸ (Except.error.inj h).symm⟩
    · rintro ⟨check', hbroken', rfl⟩
      rw [hbroken'.unique hbroken, ← hmessage]

end Config

end SchemaScript
