import SchemaScript.Action
import SchemaScript.Config.Validate
import SchemaScript.Text.Blank
import SchemaScript.Text.CaseMap
import SchemaScript.Text.Digits
import SchemaScript.Text.Search

/-!
# Config.ConnectionString: a connection in one line

A connection string is a list of settings `key=value` between semicolons. Keys are read in any letter case and have several
spellings; a later setting replaces an earlier one, and unknown keys are reported and change nothing.
-/

namespace SchemaScript

/-- One setting of a connection string. -/
inductive Setting
  | user (value : String)
  | password (value : String)
  | database (value : String)
  | host (value : String)
  | port (value : UInt16)
  | charset (value : String)
  /-- A key that means nothing, in lower case. -/
  | unknown (key : String)
  deriving DecidableEq, Repr

/-- The keys that have a meaning. -/
inductive Setting.Key
  | user
  | password
  | database
  | host
  | port
  | charset
  deriving DecidableEq, Repr

/-- The spellings of the keys, in lower case. -/
def Setting.spellings : List (String × Setting.Key) := [
  ("user", .user), ("userid", .user), ("user id", .user), ("username", .user),
  ("password", .password), ("pwd", .password),
  ("database", .database), ("initial catalog", .database),
  ("datasource", .host), ("data source", .host), ("server", .host), ("host", .host),
  ("port", .port),
  ("charset", .charset), ("character set", .charset)]

/-- Why a connection string cannot be read. -/
inductive Setting.Defect
  | noValue (segment : String)
  | badPort (value : String)
  deriving DecidableEq, Repr

/-- The text of a defect. -/
def Setting.Defect.message : Setting.Defect → String
  | noValue segment => "invalid connection string segment '" ++ segment ++ "'"
  | badPort value => "invalid port '" ++ value ++ "' in connection string"

/-- The port that a text writes: decimal digits below 65536, with an optional plus sign. -/
def parsePort? (value : String) : Option UInt16 :=
  let digits := match value.toList with
    | '+' :: rest => rest
    | cs => cs
  (Text.decimal? digits).bind fun n => if n < 65536 then some n.toUInt16 else none

namespace Setting

/-- The setting of a key in lower case and a value. -/
def make (key value : String) : Except Defect Setting :=
  match spellings.lookup key with
  | some .user => .ok (.user value)
  | some .password => .ok (.password value)
  | some .database => .ok (.database value)
  | some .host => .ok (.host value)
  | some .charset => .ok (.charset value)
  | some .port =>
    match parsePort? value with
    | some number => .ok (.port number)
    | none => .error (.badPort value)
  | none => .ok (.unknown key)

/-- The setting of a segment: what stands before and behind its first equals sign. -/
def ofSegment (segment : List Char) : Except Defect Setting :=
  match segment.dropWhile (· ≠ '=') with
  | [] => .error (.noValue (String.ofList segment))
  | _ :: value =>
    let key := segment.takeWhile (· ≠ '=')
    make (Text.lowercase (String.ofList (Text.trim key))) (String.ofList (Text.trim value))

end Setting

namespace Connection

/-- The connection with one setting changed. -/
def change (c : Connection) : Setting → Connection
  | .user value => { c with user := value }
  | .password value => { c with password := value }
  | .database value => { c with database := value }
  | .host value => { c with host := value }
  | .port value => { c with port := value }
  | .charset value => { c with charset := value }
  | .unknown _ => c

/-- The pieces of a connection string between its semicolons, trimmed, without the empty ones. -/
def segments (text : String) : List (List Char) :=
  ((Text.splitOn ';' text.toList).map Text.trim).filter (!·.isEmpty)

/-- What is reported about a setting. -/
def settingNotes : Setting → List Entry
  | .unknown key => [⟨.warn, "Ignoring connection string key '" ++ key ++ "'"⟩]
  | _ => []

/-- The connection with the settings of some segments, one after the other. -/
def changeAll (c : Connection) : List (List Char) → Action Unit Connection
  | [] => return c
  | segment :: rest => do
    match Setting.ofSegment segment with
    | .error defect => throw (.config defect.message)
    | .ok setting =>
      (settingNotes setting).forM fun e => Action.note e.level e.text
      (c.change setting).changeAll rest

/-- The connection that a connection string describes. -/
def ofString (text : String) : Action Unit Connection := Connection.default.changeAll (segments text)

end Connection

/-- The settings that a connection string describes, with defaults for the rest. -/
def Config.ofConnectionString (text : String) : Action Unit Config := do
  Action.ofExcept (Config.ofConnection (← Connection.ofString text)).validate

end SchemaScript
