import SchemaScript.Json.Text

/-!
# Json.Value: values and how they are printed

A value is null, a flag, a number, a text, a list or an object with its fields in order. `Value.pretty` prints one item a line,
indented by two spaces; empty lists and objects take no line.
-/

namespace SchemaScript.Json

/-- A value. -/
inductive Value
  | null
  | flag (value : Bool)
  | integer (value : Int)
  /-- A number with a point, as it is written. -/
  | float (written : String)
  | text (value : String)
  | list (items : List Value)
  | object (fields : List (String × Value))

/-- A new line at a depth. -/
def newLine (depth : Nat) : List Char := '\n' :: List.replicate (2 * depth) ' '

/-- Items that are printed already, one a line, between brackets. -/
def bracketed (opening closing : Char) (depth : Nat) (items : List (List Char)) : List Char :=
  if items.isEmpty then [opening, closing]
  else opening :: [','].intercalate (items.map (newLine (depth + 1) ++ ·)) ++ newLine depth ++ [closing]

/-- A field of an object whose value is printed already. -/
def printedField (name : String) (value : List Char) : List Char := encode name ++ [':', ' '] ++ value

namespace Value

mutual

/-- A value inside brackets of the given depth. -/
def print (depth : Nat) : Value → List Char
  | null => ['n', 'u', 'l', 'l']
  | flag true => ['t', 'r', 'u', 'e']
  | flag false => ['f', 'a', 'l', 's', 'e']
  | integer value => (toString value).toList
  | float written => written.toList
  | text value => encode value
  | list items => bracketed '[' ']' depth (printItems depth items)
  | object fields => bracketed '\x7b' '\x7d' depth (printFields depth fields)

/-- The items of a list, each printed. -/
def printItems (depth : Nat) : List Value → List (List Char)
  | [] => []
  | item :: rest => print (depth + 1) item :: printItems depth rest

/-- The fields of an object, each printed. -/
def printFields (depth : Nat) : List (String × Value) → List (List Char)
  | [] => []
  | (name, value) :: rest => printedField name (print (depth + 1) value) :: printFields depth rest

end

/-- A value over several lines. -/
def pretty (v : Value) : String := String.ofList (v.print 0)

/-- The value of a field of an object. -/
def get? (v : Value) (name : String) : Option Value :=
  match v with
  | object fields => (fields.reverse.find? (·.1 = name)).map (·.2)
  | _ => none

end Value

end SchemaScript.Json
