import SchemaScript.Json.Fault
import SchemaScript.Yaml.Fault
import SchemaScript.FileTree.Fault

/-!
# Failure: why a command failed

A failure has a kind, a text and an exit code, and may be caused by an error, which may be caused by another one.
`Failure.detailed` prints the text, the error of a failed rollback if there is one, and then goes from cause to cause and prints
each with its number.
-/

namespace SchemaScript

/-- The errors of a database client. -/
inductive ClientFault
  | general (text : String)
  | sql (code : Int) (text : String)
  /-- Reading from the connection or writing to it failed. -/
  | connection (fault : FileFault)

namespace ClientFault

/-- The text of a client error. -/
def message : ClientFault → String
  | general text => "error: " ++ text
  | sql code text => "sql error " ++ toString code ++ ": " ++ text
  | connection fault => "io error: " ++ fault.message

/-- What caused a client error. -/
def cause? : ClientFault → Option FileFault
  | connection fault => some fault
  | _ => none

end ClientFault

/-- An error that caused a failure or another error. -/
inductive Cause
  | client (fault : ClientFault)
  | file (fault : FileFault)
  | yaml (fault : Yaml.Fault)
  | json (fault : Json.Fault)
  | reported (error : Reported)

namespace Cause

/-- The text of an error. -/
def message : Cause → String
  | client fault => fault.message
  | file fault => fault.message
  | yaml fault => fault.message
  | json fault => fault.message
  | reported error => error.text

/-- What caused an error, if anything did. -/
def cause? : Cause → Option Cause
  | client fault => fault.cause?.map file
  | file fault => fault.cause?.map reported
  | reported error => error.cause?.map reported
  | yaml _ | json _ => none

/-- What caused an error is a part of it. -/
theorem sizeOf_lt_of_cause? {c d : Cause} (h : c.cause? = some d) : sizeOf d < sizeOf c := by
  cases c with
  | client fault =>
    obtain ⟨cause, hcause, rfl⟩ := Option.map_eq_some_iff.mp h
    cases fault with
    | connection fault =>
      obtain rfl := Option.some.inj hcause
      simp only [client.sizeOf_spec, ClientFault.connection.sizeOf_spec, file.sizeOf_spec]
      omega
    | _ => exact absurd hcause nofun
  | file fault =>
    obtain ⟨cause, hcause, rfl⟩ := Option.map_eq_some_iff.mp h
    cases fault with
    | reported text causes =>
      have hlt := Reported.sizeOf_lt_of_cause? hcause
      simp only [file.sizeOf_spec, FileFault.reported.sizeOf_spec, reported.sizeOf_spec, Reported.mk.sizeOf_spec] at hlt ⊢
      omega
    | _ => exact absurd hcause nofun
  | reported error =>
    obtain ⟨cause, hcause, rfl⟩ := Option.map_eq_some_iff.mp h
    have hlt := Reported.sizeOf_lt_of_cause? hcause
    simp only [reported.sizeOf_spec]
    omega
  | _ => exact absurd h nofun

/-- Going from cause to cause comes to an end. -/
theorem sizeOf_cause?_lt (c : Cause) : sizeOf c.cause? < sizeOf (some c) := by
  cases h : c.cause? with
  | none => cases c <;> simp +arith
  | some cause =>
    have hlt := sizeOf_lt_of_cause? h
    simp only [Option.some.sizeOf_spec]
    omega

end Cause

/-- Why a command failed. -/
inductive Failure
  /-- The configuration or the snapshot is not acceptable. -/
  | config (reason : String)
  /-- The metadata source failed while it was read. -/
  | source (reason : String)
  /-- The database failed outside a statement of the script. -/
  | database (reason : String)
  /-- A statement of the script failed: its place in the script, its text, the error, and the error of the rollback if that
  failed as well. -/
  | statement (index : Nat) (text cause : String) (rollback : Option String)
  /-- The directory holds no script. -/
  | noScript (directory : String)
  | client (fault : ClientFault)
  | file (fault : FileFault)
  | yaml (fault : Yaml.Fault)
  | json (fault : Json.Fault)

namespace Failure

/-- The text of a failure. -/
def message : Failure → String
  | config reason => "Configuration error: " ++ reason
  | source reason => "Metadata source error: " ++ reason
  | database reason => "Database error: " ++ reason
  | statement index text cause _ =>
    "Statement " ++ toString index ++ " failed: " ++ cause ++ "\n  Statement: " ++ text
  | noScript directory => "No .sql file found in " ++ directory
  | client fault => "Firebird error: " ++ fault.message
  | file fault => "IO error: " ++ fault.message
  | yaml fault => "YAML error: " ++ fault.message
  | json fault => "JSON error: " ++ fault.message

/-- The exit code of a command that fails: 1 for the configuration, 2 for the database or the metadata source, 3 for a
statement that failed and was rolled back, 7 for files. -/
def exitCode : Failure → Nat
  | config _ | yaml _ => 1
  | source _ | database _ | client _ => 2
  | statement .. => 3
  | noScript _ | file _ | json _ => 7

/-- What caused a failure: the error of the client, of the file system or of a reader that it stands for. -/
def cause? : Failure → Option Cause
  | client fault => some (.client fault)
  | file fault => some (.file fault)
  | yaml fault => some (.yaml fault)
  | json fault => some (.json fault)
  | _ => none

/-- The error of the rollback that followed a failed statement, if the rollback failed as well. -/
def rollbackError? : Failure → Option String
  | statement _ _ _ rollback => rollback
  | _ => none

/-- A cause with its number, then what caused it with the next number, until nothing did. -/
def numberedCauses (n : Nat) : Option Cause → String
  | none => ""
  | some cause => "\nCaused by:\n  " ++ toString n ++ ": " ++ cause.message ++ numberedCauses (n + 1) cause.cause?
termination_by cause => sizeOf cause
decreasing_by exact cause.sizeOf_cause?_lt

/-- The failure with everything known about it. -/
def detailed (f : Failure) : String :=
  "Error: " ++ f.message ++ "\n" ++
    (match f.rollbackError? with
      | some error => "\nRollback also failed: " ++ error
      | none => "") ++
    numberedCauses 1 f.cause?

end Failure

end SchemaScript
