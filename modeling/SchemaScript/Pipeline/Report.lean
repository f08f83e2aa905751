import SchemaScript.Decimal.Fixed
import SchemaScript.Json.Number
import SchemaScript.Json.Value

/-!
# Pipeline.Report: what a command tells when it is done

The report of an export and the report of an update, with the time the command took.
-/

namespace SchemaScript

/-- When a command started, and how many milliseconds it took. -/
structure Timing where
  startedAt : String
  milliseconds : Nat
  deriving DecidableEq, Repr

namespace Timing

/-- The time in seconds. -/
def seconds (t : Timing) : Float := t.milliseconds.toUInt64.toFloat / 1000.0

/-- The fields of a report that tell the time. -/
def fields (t : Timing) : List (String × Json.Value) :=
  [("started_at", .text t.startedAt), ("duration_seconds", .float (Decimal.write Json.floatStyle t.seconds))]

end Timing

/-- The report of an export: the files written, and the number of objects of each kind. -/
structure ExportReport where
  scriptPath : String
  snapshotPath? : Option String
  domains : Nat
  tables : Nat
  procedures : Nat
  timing : Timing
  deriving DecidableEq, Repr

/-- The report of an export as JSON. -/
def ExportReport.toJson (r : ExportReport) : Json.Value :=
  .object ([("script_path", .text r.scriptPath), ("snapshot_path", (r.snapshotPath?.map Json.Value.text).getD .null),
    ("domains", .integer r.domains), ("tables", .integer r.tables), ("procedures", .integer r.procedures)] ++ r.timing.fields)

/-- The report of an update: the script, and what became of its statements. -/
structure UpdateReport where
  scriptPath : String
  statements : Nat
  executed : Nat
  skipped : Nat
  /-- Whether the script ended with text that completes no statement. -/
  discarded : Bool
  timing : Timing
  deriving DecidableEq, Repr

/-- The report of an update as JSON. -/
def UpdateReport.toJson (r : UpdateReport) : Json.Value :=
  .object ([("script_path", .text r.scriptPath), ("statements", .integer r.statements), ("executed", .integer r.executed),
    ("skipped", .integer r.skipped), ("discarded_trailing_text", .flag r.discarded)] ++ r.timing.fields)

end SchemaScript
