import SchemaScript.CommandLine.Request
import SchemaScript.Failure
import SchemaScript.Json.Value
import SchemaScript.Log
import SchemaScript.Text.CaseMap
import SchemaScript.Text.Quoted

/-!
# CommandLine.Logging: which events are shown, and how

The verbosity says which events are shown, and the format how: as lines of text, in which no control character reaches the
terminal, or as one JSON object a line.
-/

namespace SchemaScript.CommandLine

/-- The formats of the log. -/
inductive LogFormat
  | text
  | json
  deriving DecidableEq, Repr

/-- Which events are shown, and how. -/
structure Logging where
  limit : Level
  format : LogFormat
  deriving DecidableEq, Repr

/-- The level of a verbosity, in any letter case. -/
def levelOf (verbosity : String) : Except Failure Level :=
  match Text.lowercase verbosity with
  | "debug" => .ok .debug
  | "info" => .ok .info
  | "warn" => .ok .warn
  | "error" => .ok .error
  | other => .error (.config ("unknown verbosity '" ++ other ++ "'"))

/-- The format of a name. -/
def formatOf (name : String) : Except Failure LogFormat :=
  match name with
  | "text" => .ok .text
  | "json" => .ok .json
  | other => .error (.config ("unknown log format '" ++ other ++ "'"))

/-- The logging that a request asks for. -/
def Request.logging (r : Request) : Except Failure Logging := do
  return ⟨← levelOf r.verbosity, ← formatOf r.logFormat⟩

namespace Logging

/-- A character of an event in a line of text; the characters that control a terminal are shown as escapes. -/
def printable (c : Char) : List Char :=
  if c ∈ ['\x07', '\x08', '\x0c', '\x1b', '\x7f'] then
    ['\\', 'x', Text.hexDigit (c.toNat / 16), Text.hexDigit (c.toNat % 16)]
  else if 0x80 ≤ c.toNat ∧ c.toNat ≤ 0x9f then ['\\', 'u', '\x7b'] ++ Text.hexDigits c.toNat ++ ['\x7d']
  else [c]

/-- The text of an event as it is shown. -/
def shown (format : LogFormat) (text : String) : String :=
  match format with
  | .text => String.ofList (text.toList.flatMap printable)
  | .json => text

/-- The events that are shown, as they are shown. -/
def select (l : Logging) (log : List Entry) : List Entry :=
  (log.filter fun e => l.limit.shownAt e.level).map fun e => { e with text := shown l.format e.text }

/-- A shown event as a line, with the time at which it happened. -/
def line (format : LogFormat) (time : String) (e : Entry) : String :=
  match format with
  | .text => time ++ (if e.level.label.length < 5 then "  " else " ") ++ e.level.label ++ " " ++ e.text
  | .json => String.ofList
    (['\x7b'] ++ Json.encode "timestamp" ++ [':'] ++ Json.encode time ++ [','] ++ Json.encode "level" ++ [':'] ++
      Json.encode e.level.label ++ [','] ++ Json.encode "fields" ++ [':', '\x7b'] ++ Json.encode "message" ++ [':'] ++
      Json.encode e.text ++ ['\x7d', '\x7d'])

end Logging

end SchemaScript.CommandLine
