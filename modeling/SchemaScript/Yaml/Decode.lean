import SchemaScript.Yaml.Document
import SchemaScript.Yaml.ScalarValue

/-!
# Yaml.Decode: reading a document into an expected shape

A record is a mapping, or nothing at all. Its keys are scalars; unknown keys are passed over with their values, and a known key
may stand only once. What has another shape is refused with the path to it and its place.
-/

namespace SchemaScript.Yaml

/-- A node of a document and the path to it. -/
structure Item where
  document : Document
  path : String
  node : Node Nat

namespace Item

/-- The item with its alias followed; the path stays. -/
def followed (i : Item) : Item := { i with node := i.document.follow i.node }

/-- The place of an item. -/
def mark (i : Item) : Mark :=
  match i.node with
  | .scalar m .. | .sequence m .. | .mapping m .. | .alias m _ => m

/-- A fault at an item. -/
def unfit {α : Type} (i : Item) (m : Mismatch) : Except Fault α := .error (.unfit i.path m i.mark)

/-- The fault of an item that is not what was expected. -/
def unexpected {α : Type} (i : Item) (expected : String) : Except Fault α :=
  match i.node with
  | .scalar _ _ s =>
    match s.meaning with
    | .ok found => i.unfit (.wrongType found expected)
    | .error m => i.unfit m
  | .sequence .. => i.unfit (.wrongType .sequence expected)
  | .mapping .. => i.unfit (.wrongType .map expected)
  | .alias .. => i.unfit (.wrongType (.nothing "unit value") expected)

/-- The value of a key, which the path names if the key is a scalar. -/
def below (i : Item) (key value : Node Nat) : Item :=
  let name := match key with
    | .scalar _ _ s => s.text
    | _ => "?"
  { i with path := if i.path = "" then name else i.path ++ "." ++ name, node := value }

end Item

/-- A reader of an item. -/
abbrev Decoder (α : Type) := Item → Except Fault α

/-- The text of a scalar, however it is written. -/
def readText : Decoder String := fun i =>
  let i := i.followed
  match i.node with
  | .scalar _ _ s => .ok s.text
  | _ => i.unexpected "a string"

/-- A flag. -/
def readFlag : Decoder Bool := fun i =>
  let i := i.followed
  match i.node with
  | .scalar _ _ s =>
    match if s.mayBe "bool" then flag? s.text else none with
    | some b => .ok b
    | none => i.unexpected "a boolean"
  | _ => i.unexpected "a boolean"

/-- An unsigned integer of a number of bits. -/
def readUnsigned (bits : Nat) : Decoder Nat := fun i =>
  let i := i.followed
  let expected := "u" ++ toString bits
  match i.node with
  | .scalar _ _ s =>
    match if s.mayBe "int" then unsigned? (Nat.pow 2 64) s.text.toList else none with
    | some n => if n < Nat.pow 2 bits then .ok n else i.unfit (.wrongValue (.integer n) expected)
    | none => i.unexpected expected
  | _ => i.unexpected expected

/-- A field of a record of type `δ`: its key, whether it has to be there, and how its value is stored. -/
structure Field (δ : Type) where
  name : String
  required : Bool
  read : Decoder (δ → δ)

/-- A field by the reader of its value. -/
def Field.of {α δ : Type} (name : String) (required : Bool) (read : Decoder α) (store : α → δ → δ) : Field δ :=
  ⟨name, required, fun i => (read i).map store⟩

/-- A record: its name, its fields, and the draft that the fields are stored in. -/
structure Shape (δ : Type) where
  name : String
  fields : List (Field δ)
  empty : δ

/-- The name of a key. -/
def readKey (i : Item) : Except Fault String :=
  let i := i.followed
  match i.node with
  | .scalar _ _ s => .ok s.text
  | _ => i.unexpected "field identifier"

/-- Store the pairs of a mapping in a draft; `seen` names the fields that were stored. -/
def readPairs {δ : Type} (fields : List (Field δ)) (i : Item) : List (Node Nat × Node Nat) → List String → δ →
    Except Fault δ
  | [], seen, draft =>
    match fields.find? fun f => f.required && !seen.contains f.name with
    | some f => i.unfit (.missingField f.name)
    | none => .ok draft
  | (key, value) :: rest, seen, draft => do
    let name ← readKey { i with node := key }
    match fields.find? (·.name = name) with
    | none => readPairs fields i rest seen draft
    | some f =>
      if seen.contains name then i.unfit (.duplicateField name)
      else
        let store ← f.read (i.below key value)
        readPairs fields i rest (name :: seen) (store draft)

/-- A record; an empty scalar is a record without fields. -/
def readRecord {δ : Type} (shape : Shape δ) : Decoder δ := fun i =>
  let i := i.followed
  match i.node with
  | .mapping _ _ pairs => readPairs shape.fields i pairs [] shape.empty
  | .scalar _ _ s =>
    if s.text = "" ∧ s.style = .plain then readPairs shape.fields i [] [] shape.empty
    else i.unexpected ("struct " ++ shape.name)
  | _ => i.unexpected ("struct " ++ shape.name)

/-- Read the document of a text. -/
def readDocument {α : Type} (read : Decoder α) (text : String) : Except Fault α := do
  let d ← Document.ofText text
  read ⟨d, "", d.root⟩

end SchemaScript.Yaml
