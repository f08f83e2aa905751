import SchemaScript.Database.Client
import SchemaScript.Json.Any

/-!
# Database.Scripted: a database server for rehearsals

A scripted server keeps a database as a JSON file of catalog rows, and takes the errors that its calls raise from another file.
It notes every call before it answers. The rows of the file are converted value by value: the first value that does not fit the
column ends the query.
-/

namespace SchemaScript

open Json (Value)

/-- A scripted server: the database and the errors as they were when it was last connected to, whether the connection has its
transaction, and the calls so far. -/
structure Scripted where
  store : Value
  faults : Value
  begun : Bool
  calls : List (List Value)

namespace Scripted

/-- The file that holds the errors to raise. -/
def faultsFile : String := "server.json"

/-- A server that was not called yet. -/
def fresh : Scripted := ⟨.object [], .object [], false, []⟩

/-- The value in a file; anything else counts as an empty object. -/
def valueIn (t : FileTree) (path : String) : Value :=
  match t.readText path with
  | .ok text => (Value.ofText text).toOption.getD (.object [])
  | .error _ => .object []

/-- The error that a value describes. -/
def fault? : Value → Option ClientFault
  | .text reason => some (.general reason)
  | .object fields =>
    match Value.get? (.object fields) "io", Value.get? (.object fields) "code", Value.get? (.object fields) "msg" with
    | some (.text reason), _, _ => some (.connection (.reported reason []))
    | _, some (.integer code), some (.text reason) => some (.sql code reason)
    | _, _, _ => none
  | _ => none

/-- The error to raise at a call of the given name. -/
def raised? (faults : Value) (name : String) : Option ClientFault := (faults.get? name).bind fault?

/-- The error to raise at a statement: that of the first entry whose text starts the statement. -/
def refused? (faults : Value) (sql : String) : Option ClientFault :=
  match faults.get? "exec" with
  | some (.list entries) =>
    entries.findSome? (fun
      | .list [.text start, error] => if start.toList.isPrefixOf sql.toList then some (fault? error) else none
      | _ => none) |>.join
  | _ => none

/-- Note a call. -/
def record (call : List Value) : Exchange Scripted Unit := modify fun s => { s with calls := s.calls ++ [call] }

/-- Raise an error, if there is one. -/
def raise {σ : Type} : Option ClientFault → Exchange σ Unit
  | none => return ()
  | some fault => throw fault

/-- A call that is noted and then raises the error of its name. -/
def call (name : String) : Exchange Scripted Unit := do
  record [.text name]
  raise (raised? (← get).faults name)

/-- Begin the connection's transaction, unless it has one. -/
def ensureBegun : Exchange Scripted Unit := do
  if (← get).begun then return ()
  call "begin"
  modify fun s => { s with begun := true }

/-! ### Converting values -/

/-- The error of a value that is null where a type needs one. -/
def nullFault (type : String) : ClientFault :=
  .general ("This is a null value. Use the Option<" ++ type ++ "> to safe access this column and avoid errors")

/-- A value as text. -/
def toText : Value → Except ClientFault String
  | .text s => .ok s
  | .integer n => .ok (toString n)
  | .flag b => .ok (toString b)
  | _ => .error (nullFault "String")

/-- A value as a 16-bit word; larger integers wrap around. -/
def toWord : Value → Except ClientFault Int16
  | .integer n => .ok (Int16.ofInt n)
  | .text s => .error (.general ("Can't convert Text(" ++ Text.quoted s ++ ") column to i64"))
  | .flag b => .error (.general ("Can't convert Boolean(" ++ toString b ++ ") column to i64"))
  | _ => .error (nullFault "i64")

/-- A value that may be null. -/
def toOptional {α : Type} (convert : Value → Except ClientFault α) : Value → Except ClientFault (Option α)
  | .null => .ok none
  | v => (convert v).map some

/-- A reader of the values of a row from left to right; the state is what is left of the row. -/
abbrev RowReader (α : Type) := StateT (List Value) (Except ClientFault) α

/-- The next value of a row that had `width` values. -/
def next {α : Type} (width : Nat) (convert : Value → Except ClientFault α) : RowReader α := do
  match ← get with
  | [] => throw (.general ("The sql returned less columns than the " ++ toString width ++ " expected"))
  | v :: rest =>
    set rest
    convert v

/-- The record that a row with `width` values writes, by the query it answers. -/
def readRow (width : Nat) : (q : Catalog.Query) → RowReader q.Row
  | .domains => do
    return {
      name := ← next width toText
      code := ← next width toWord
      length := ← next width toWord
      scale? := ← next width (toOptional toWord)
      subType? := ← next width (toOptional toWord)
      nullFlag? := ← next width (toOptional toWord)
      default? := ← next width (toOptional toText)
      check? := ← next width (toOptional toText) }
  | .tables => next width toText
  | .columns _ => do
    return {
      name := ← next width toText
      fieldSource := ← next width toText
      code := ← next width toWord
      length := ← next width toWord
      scale? := ← next width (toOptional toWord)
      subType? := ← next width (toOptional toWord)
      nullFlag? := ← next width (toOptional toWord)
      default? := ← next width (toOptional toText) }
  | .procedures => do
    return { name := ← next width toText, body := ← next width toText }
  | .parameters _ => do
    return {
      name := ← next width toText
      directionCode := ← next width toWord
      fieldSource := ← next width toText
      code? := ← next width (toOptional toWord)
      length? := ← next width (toOptional toWord)
      scale? := ← next width (toOptional toWord)
      subType? := ← next width (toOptional toWord) }

/-- The record of a row; an error in the place of a row is raised. -/
def recordOf (q : Catalog.Query) : Value → Except ClientFault q.Row
  | .list cells => (readRow cells.length q).run' cells
  | v => .error ((fault? v).getD (.general "malformed row"))

/-! ### Answering -/

/-- The name of a query in the files of the server. -/
def queryName : Catalog.Query → String
  | .domains => "domains"
  | .tables => "tables"
  | .columns _ => "columns"
  | .procedures => "procedures"
  | .parameters _ => "parameters"

/-- The rows that answer a query. -/
def rowsOf (store : Value) (q : Catalog.Query) : List Value :=
  let found := match q.parameter? with
    | none => store.get? (queryName q)
    | some owner => (store.get? (queryName q)).bind (·.get? owner)
  match found with
  | some (.list rows) => rows
  | _ => []

/-- The calls on a connection of a scripted server. -/
def client : Client Scripted where
  query q := do
    ensureBegun
    record ([.text "query", .text (queryName q)] ++ (q.parameter?.map Value.text).toList)
    raise (raised? (← get).faults (queryName q))
    match (rowsOf (← get).store q).mapM (recordOf q) with
    | .ok records => return records
    | .error fault => throw fault
  begin := ensureBegun
  execute sql := do
    record [.text "exec", .text sql]
    raise (refused? (← get).faults sql)
  commit := call "commit"
  rollback := call "rollback"

/-- Note a call that needs no connection, with the settings of the connection and one value more. -/
def recordLogin (name : String) (c : Connection) (charset : Charset) (last : Value) : Exchange (World Scripted) Unit :=
  modify fun w => { w with peer := { w.peer with calls := w.peer.calls ++ [[.text name, .text c.host, .integer c.port.toNat,
    .text c.database, .text c.user, .text c.password, .text charset.label, last]] } }

/-- The error of a database file that cannot be opened or created. -/
def fileFault (operation path : String) : ClientFault :=
  .sql (-902) ("I/O error during \"" ++ operation ++ "\" operation for file \"" ++ path ++ "\"")

/-- A scripted server that keeps its databases among the files. -/
def connector : Connector Scripted where
  attach c charset := do
    recordLogin "attach" c charset .null
    let files := (← get).files
    let faults := valueIn files faultsFile
    raise (raised? faults "attach")
    if files.isFile c.database then
      modify fun w => { w with peer := { w.peer with store := valueIn files c.database, faults := faults, begun := false } }
    else throw (fileFault "open" c.database)
  create c charset pageSize := do
    recordLogin "create" c charset (.integer pageSize.toNat)
    let files := (← get).files
    raise (raised? (valueIn files faultsFile) "create")
    match files.written c.database (.text "\x7b\x7d") with
    | .ok files => modify fun w => { w with files := files }
    | .error _ => throw (fileFault "create" c.database)
  client := client

end Scripted

end SchemaScript
