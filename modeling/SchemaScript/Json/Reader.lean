import SchemaScript.Json.Number
import SchemaScript.Json.Text

/-!
# Json.Reader: reading a text into an expected shape

A reader takes one value of a known shape: a text, a flag, a list of values of one shape, or a record. A record is an object
whose fields have names, or a list that holds the fields in their order; unknown fields of an object are skipped, and only their
form is checked. When the text is JSON of another shape, the fault says what was found and what was expected.
-/

namespace SchemaScript.Json

/-- The two kinds of brackets. -/
inductive Bracket
  | list
  | object
  deriving DecidableEq, Repr

namespace Bracket

/-- The character that closes a bracket. -/
def closing : Bracket → Char
  | list => ']'
  | object => '\x7d'

/-- The problem of a text that ends inside a bracket. -/
def endProblem : Bracket → Problem
  | list => .endInList
  | object => .endInObject

/-- The problem of an item that is followed by neither a comma nor the closing bracket. -/
def commaProblem : Bracket → Problem
  | list => .noCommaInList
  | object => .noCommaInObject

end Bracket

/-- The colon behind the name of a field. -/
def expectColon (c : Cursor) : Except Fault Cursor :=
  let c := c.skipSpaces
  match c.rest with
  | ':' :: rest => .ok (c.past ':' rest)
  | [] => .error (c.faultAhead .endInObject)
  | _ => .error (c.faultAhead .noColon)

/-! ### Skipping a value -/

/-- Close the brackets that end here, innermost first, up to a comma or the next item: the brackets still open, none when the
whole value ended. `afterItem` tells whether an item ended just before. -/
def closeBrackets : List Bracket → Bool → Cursor → Except Fault (List Bracket × Cursor)
  | [], _, c => .ok ([], c)
  | b :: outer, afterItem, c =>
    let c := c.skipSpaces
    match c.peek? with
    | none => .error (c.faultAhead b.endProblem)
    | some ch =>
      if ch = ',' ∧ afterItem then .ok (b :: outer, c.next)
      else if ch = b.closing then closeBrackets outer true c.next
      else if afterItem then .error (c.faultAhead b.commaProblem)
      else .ok (b :: outer, c)

/-- The name of the next field, when the innermost open bracket is an object's. -/
def skipName (b : Bracket) (c : Cursor) : Except Fault Cursor :=
  match b with
  | .list => .ok c
  | .object => do
    let c := c.skipSpaces
    match c.rest with
    | '"' :: rest => expectColon (← skipText (c.past '"' rest))
    | [] => .error (c.faultAhead .endInObject)
    | _ => .error (c.faultAhead .keyNotString)

/-- One token of a value that is skipped: the bracket that it opens, if it opens one. -/
def skipToken (c : Cursor) : Except Fault (Option Bracket × Cursor) :=
  match c.rest with
  | [] => .error (c.faultAhead .endInValue)
  | 'n' :: rest => do return (none, ← (c.past 'n' rest).keyword ['u', 'l', 'l'])
  | 't' :: rest => do return (none, ← (c.past 't' rest).keyword ['r', 'u', 'e'])
  | 'f' :: rest => do return (none, ← (c.past 'f' rest).keyword ['a', 'l', 's', 'e'])
  | '"' :: rest => do return (none, ← skipText (c.past '"' rest))
  | '[' :: rest => .ok (some .list, c.past '[' rest)
  | '\x7b' :: rest => .ok (some .object, c.past '\x7b' rest)
  | ch :: _ =>
    if ch = '-' ∨ ch.isDigit then do return (none, ← skipNumber c) else .error (c.faultAhead .noValue)

/-- The place behind a value inside open brackets and behind these; every step takes at least one character of the fuel. -/
def skipInside : Nat → List Bracket → Cursor → Except Fault Cursor
  | 0, _, c => .error (c.faultHere .endInValue)
  | fuel + 1, open_, c => do
    let (opened, c) ← skipToken c.skipSpaces
    let (open_, c) ← closeBrackets (opened.toList ++ open_) opened.isNone c
    match open_ with
    | [] => return c
    | b :: _ => skipInside fuel open_ (← skipName b c)

/-- The place behind a value of any shape; only its form is checked. -/
def skipValue (c : Cursor) : Except Fault Cursor := skipInside (c.rest.length + 1) [] c

/-! ### Values of another shape -/

/-- The fault of a value that is not what was expected; a value without parts is read first. -/
def unexpected (expected : String) (c : Cursor) : Fault :=
  let wrong (found : Found) (c : Cursor) := c.faultHere (.unfit (.wrongType found expected))
  let behind (found : Found) (r : Except Fault Cursor) : Fault :=
    match r with
    | .ok c => wrong found c
    | .error f => f
  match c.rest with
  | 'n' :: rest => behind (.nothing "null") ((c.past 'n' rest).keyword ['u', 'l', 'l'])
  | 't' :: rest => behind (.flag true) ((c.past 't' rest).keyword ['r', 'u', 'e'])
  | 'f' :: rest => behind (.flag false) ((c.past 'f' rest).keyword ['a', 'l', 's', 'e'])
  | '"' :: rest =>
    match readText (c.past '"' rest) with
    | .ok (s, c) => wrong (.text s) c
    | .error f => f
  | '[' :: _ => wrong .sequence c
  | '\x7b' :: _ => wrong .map c
  | [] => c.faultAhead .noValue
  | ch :: _ =>
    if ch = '-' ∨ ch.isDigit then
      match readNumber c with
      | .ok (n, c) => wrong n.found c
      | .error f => f
    else c.faultAhead .noValue

/-- The place of the next value. -/
def valueStart (c : Cursor) : Except Fault Cursor :=
  let c := c.skipSpaces
  if c.rest.isEmpty then .error (c.faultAhead .endInValue) else .ok c

/-! ### Readers of one shape -/

/-- A text. -/
def readString : Reader String := fun c => do
  let c ← valueStart c
  match c.rest with
  | '"' :: rest => readText (c.past '"' rest)
  | _ => .error (unexpected "a string" c)

/-- A flag. -/
def readFlag : Reader Bool := fun c => do
  let c ← valueStart c
  match c.rest with
  | 't' :: rest => return (true, ← (c.past 't' rest).keyword ['r', 'u', 'e'])
  | 'f' :: rest => return (false, ← (c.past 'f' rest).keyword ['a', 'l', 's', 'e'])
  | _ => .error (unexpected "a boolean" c)

/-- A value or null. -/
def readOptional {α : Type} (read : Reader α) : Reader (Option α) := fun c =>
  let c := c.skipSpaces
  match c.rest with
  | 'n' :: rest => do return (none, ← (c.past 'n' rest).keyword ['u', 'l', 'l'])
  | _ => (read c).map fun (a, c) => (some a, c)

/-- The place of the next item of a list, or nothing at the closing bracket; `first` tells that no item was read yet. -/
def nextItem? (first : Bool) (c : Cursor) : Except Fault (Option Cursor) :=
  let c := c.skipSpaces
  match c.rest with
  | [] => .error (c.faultAhead .endInList)
  | ']' :: _ => .ok none
  | ch :: rest =>
    if first then .ok (some c)
    else if ch = ',' then
      let c := (c.past ',' rest).skipSpaces
      match c.rest with
      | [] => .error (c.faultAhead .endInValue)
      | ']' :: _ => .error (c.faultAhead .trailingComma)
      | _ => .ok (some c)
    else .error (c.faultAhead .noCommaInList)

/-- The items of a list up to its closing bracket, which is not taken. -/
def readItems {α : Type} (read : Reader α) : Nat → Bool → Reader (List α)
  | 0, _, c => .error (c.faultHere .endInList)
  | fuel + 1, first, c => do
    match ← nextItem? first c with
    | none => return ([], c.skipSpaces)
    | some c =>
      let (item, c) ← read c
      let (items, c) ← readItems read fuel false c
      return (item :: items, c)

/-- The end of a bracket, once everything expected inside was read. -/
def closeBracket (b : Bracket) (c : Cursor) : Cursor × Option Problem :=
  let c := c.skipSpaces
  match c.rest with
  | [] => (c, some b.endProblem)
  | ch :: rest =>
    if ch = b.closing then (c.past ch rest, none)
    else if ch = ',' then
      match b with
      | .object => (c, some .trailingComma)
      | .list =>
        let c := (c.past ',' rest).skipSpaces
        (c, some (if c.peek? = some ']' then .trailingComma else .trailingText))
    else (c, some .trailingText)

/-- Take the end of a bracket. -/
def expectClose (b : Bracket) (c : Cursor) : Except Fault Cursor :=
  match closeBracket b c with
  | (c, none) => .ok c
  | (c, some problem) => .error (c.faultAhead problem)

/-- A list of values of one shape. -/
def readList {α : Type} (read : Reader α) : Reader (List α) := fun c => do
  let c ← valueStart c
  match c.rest with
  | '[' :: rest =>
    let (items, c) ← readItems read (rest.length + 1) true (c.past '[' rest)
    return (items, ← expectClose .list c)
  | _ => .error (unexpected "a sequence" c)

/-! ### Records -/

/-- A field of a record of type `δ`: its name, whether it may be left out, and how its value is stored. -/
structure Field (δ : Type) where
  name : String
  required : Bool
  read : Reader (δ → δ)

/-- A field by the reader of its value. -/
def Field.of {α δ : Type} (name : String) (required : Bool) (read : Reader α) (store : α → δ → δ) : Field δ :=
  ⟨name, required, fun c => (read c).map fun (a, c) => (store a, c)⟩

/-- Why reading stopped inside a record: at a fault that has its place, or at a mismatch, which is placed behind the end of the
record. -/
inductive Stop
  | placed (fault : Fault)
  | unplaced (mismatch : Mismatch) (c : Cursor)

/-- The name of the next field of an object, behind its quote, or nothing at the closing bracket. -/
def nextName? (first : Bool) (c : Cursor) : Except Fault (Option Cursor) :=
  let c := c.skipSpaces
  match c.rest with
  | [] => .error (c.faultAhead .endInObject)
  | '\x7d' :: _ => .ok none
  | ch :: rest =>
    if first then
      if ch = '"' then .ok (some (c.past ch rest)) else .error (c.faultAhead .keyNotString)
    else if ch = ',' then
      let c := (c.past ',' rest).skipSpaces
      match c.rest with
      | [] => .error (c.faultAhead .endInValue)
      | '"' :: rest => .ok (some (c.past '"' rest))
      | '\x7d' :: _ => .error (c.faultAhead .trailingComma)
      | _ => .error (c.faultAhead .keyNotString)
    else .error (c.faultAhead .noCommaInObject)

/-- Run a reader inside a record: its faults have their places. -/
def placed {α : Type} (r : Except Fault α) : Except Stop α := r.mapError .placed

/-- The fields of an object up to its closing bracket, stored in a draft; `seen` names the fields that were stored. -/
def readFields {δ : Type} (fields : List (Field δ)) : Nat → Bool → List String → δ → Cursor → Except Stop (δ × Cursor)
  | 0, _, _, _, c => .error (.placed (c.faultHere .endInObject))
  | fuel + 1, first, seen, draft, c => do
    match ← placed (nextName? first c) with
    | none =>
      match fields.find? fun f => f.required && !seen.contains f.name with
      | some f => .error (.unplaced (.missingField f.name) c)
      | none => return (draft, c)
    | some c =>
      let (name, c) ← placed (readText c)
      match fields.find? (·.name = name) with
      | none =>
        let c ← placed (do skipValue (← expectColon c))
        readFields fields fuel false seen draft c
      | some f =>
        if seen.contains name then .error (.unplaced (.duplicateField name) c)
        else
          let (store, c) ← placed (do f.read (← expectColon c))
          readFields fields fuel false (name :: seen) (store draft) c

/-- The fields of a record that is written as a list: each at its place, those that may be left out missing from the end. -/
def readPlaces {δ : Type} (expected : String) : List (Field δ) → Nat → δ → Cursor → Except Stop (δ × Cursor)
  | [], _, draft, c => .ok (draft, c)
  | f :: fields, place, draft, c => do
    match ← placed (nextItem? (place = 0) c) with
    | none =>
      if f.required then .error (.unplaced (.wrongLength place expected) c)
      else readPlaces expected fields (place + 1) draft c
    | some c =>
      let (store, c) ← placed (f.read c)
      readPlaces expected fields (place + 1) (store draft) c

/-- Take the end of a record; a mismatch inside is placed behind it. -/
def closeRecord {δ : Type} (b : Bracket) : Except Stop (δ × Cursor) → Except Fault (δ × Cursor)
  | .ok (draft, c) => (expectClose b c).map fun c => (draft, c)
  | .error (.placed f) => .error f
  | .error (.unplaced m c) => .error ((closeBracket b c).1.faultHere (.unfit m))

/-- A record: its name, its fields, and the draft that the fields are stored in. -/
structure Shape (δ : Type) where
  name : String
  fields : List (Field δ)
  empty : δ

/-- A record as an object or as a list. -/
def readRecord {δ : Type} (shape : Shape δ) : Reader δ := fun c => do
  let c ← valueStart c
  match c.rest with
  | '[' :: rest =>
    let expected := "struct " ++ shape.name ++ " with " ++ toString shape.fields.length ++ " elements"
    closeRecord .list (readPlaces expected shape.fields 0 shape.empty (c.past '[' rest))
  | '\x7b' :: rest =>
    closeRecord .object (readFields shape.fields (rest.length + 1) true [] shape.empty (c.past '\x7b' rest))
  | _ => .error (unexpected ("struct " ++ shape.name) c)

/-- Read a whole text: one value and nothing but blanks behind it. -/
def readDocument {α : Type} (read : Reader α) (text : String) : Except Fault α := do
  let (value, c) ← read (Cursor.start text.toList)
  let c := c.skipSpaces
  if c.rest.isEmpty then return value else throw (c.faultAhead .trailingText)

end SchemaScript.Json
