import SchemaScript.Yaml.Node

/-!
# Yaml.Document: a text that holds one document

`Document.ofText` reads a text. Directives come before the document; behind its end nothing may follow. Every alias has to
follow an anchor of its name. Anchors are numbered by how many names there were before them, and an alias stands for the last
node with its number.
-/

namespace SchemaScript.Yaml

/-- The directives in front of a document: whether the version was given, and the handles that were defined. -/
structure Directives where
  hasVersion : Bool
  handles : Handles

/-- Read the directives in front of a document. -/
def parseDirectives : Directives → Tokens → Except Fault (Directives × Tokens)
  | d, ⟨.version major minor, m, _⟩ :: ts =>
    if d.hasVersion then .error (.malformed .duplicateDirective m)
    else if major = 1 ∧ (minor = 1 ∨ minor = 2) then parseDirectives { d with hasVersion := true } ts
    else .error (.malformed .unsupportedVersion m)
  | d, ⟨.tagDirective handle start, m, _⟩ :: ts =>
    if (d.handles.lookup handle).isSome then .error (.malformed .duplicateDirective m)
    else parseDirectives { d with handles := d.handles ++ [(handle, start)] } ts
  | d, ts => .ok (d, ts)

/-- Whether the first token belongs to the start of a document that is announced. -/
def isAnnounced : Tokens → Bool
  | ⟨.version .., _, _⟩ :: _ | ⟨.tagDirective .., _, _⟩ :: _ | ⟨.documentStart, _, _⟩ :: _ => true
  | _ => false

/-- Enough fuel for the nodes of some tokens: no token takes more than four steps. -/
def nodeFuel (ts : Tokens) : Nat := 4 * ts.length + 16

/-- The node of a document that is announced; a document without content holds an empty scalar. -/
def parseAnnounced (ts : Tokens) : Except Fault (NamedNode × Tokens) := do
  let (d, ts) ← parseDirectives ⟨false, []⟩ ts
  match ts with
  | ⟨.documentStart, _, _⟩ :: ts =>
    if isAnnounced ts || nextIs ts [.documentEnd, .streamEnd] then return (.empty (nextMark ts), ts)
    else parseNode (d.handles ++ defaultHandles) (nodeFuel ts) true false ts
  | _ => unexpected ts

/-- The tokens behind the markers that end a document. -/
def dropEnds : Tokens → Tokens
  | ⟨.documentEnd, _, _⟩ :: ts => dropEnds ts
  | ts => ts

/-- The root of the document that some tokens hold; a text without a document holds an empty scalar. -/
def parseDocument (ts : Tokens) : Except Fault NamedNode := do
  if nextIs ts [.streamEnd] then return .empty (nextMark ts)
  let (root, ts) ←
    if isAnnounced ts then parseAnnounced ts else parseNode defaultHandles (nodeFuel ts) true false ts
  let ts := dropEnds ts
  if nextIs ts [.streamEnd] then return root else throw (.malformed .severalDocuments (nextMark ts))

/-! ### Numbering the anchors -/

/-- The numbers of the anchors so far, the last one first. -/
abbrev Anchors := List (List Char × Nat)

namespace Anchors

/-- The number of different names. -/
def names (a : Anchors) : Nat := (a.map (·.1)).eraseDups.length

/-- The anchors with one more. -/
def add (a : Anchors) (name : List Char) : Anchors := (name, a.names) :: a

/-- Number the anchor of a node. -/
def register (a : Anchors) : Option (List Char) → Option Nat × Anchors
  | none => (none, a)
  | some name => (some a.names, a.add name)

end Anchors

mutual

/-- Number the anchors of a node and look up its aliases, behind the anchors before it. -/
def number (a : Anchors) : NamedNode → Except Fault (Node Nat × Anchors)
  | .scalar m anchor? value =>
    let (n?, a) := a.register anchor?
    .ok (.scalar m n? value, a)
  | .sequence m anchor? items => do
    let (n?, a) := a.register anchor?
    let (items, a) ← numberItems a items
    return (.sequence m n? items, a)
  | .mapping m anchor? pairs => do
    let (n?, a) := a.register anchor?
    let (pairs, a) ← numberPairs a pairs
    return (.mapping m n? pairs, a)
  | .alias m name =>
    match a.lookup name with
    | some n => .ok (.alias m n, a)
    | none => .error (.malformed .unknownAlias m)

/-- Number the anchors of the items of a sequence. -/
def numberItems (a : Anchors) : List NamedNode → Except Fault (List (Node Nat) × Anchors)
  | [] => .ok ([], a)
  | item :: rest => do
    let (item, a) ← number a item
    let (rest, a) ← numberItems a rest
    return (item :: rest, a)

/-- Number the anchors of the pairs of a mapping. -/
def numberPairs (a : Anchors) : List (NamedNode × NamedNode) → Except Fault (List (Node Nat × Node Nat) × Anchors)
  | [] => .ok ([], a)
  | (key, value) :: rest => do
    let (key, a) ← number a key
    let (value, a) ← number a value
    let (rest, a) ← numberPairs a rest
    return ((key, value) :: rest, a)

end

mutual

/-- The anchored nodes of a node with their numbers, in the order in which they start. -/
def anchored : Node Nat → List (Nat × Node Nat)
  | .scalar m anchor? value => (anchor?.map (·, .scalar m anchor? value)).toList
  | .sequence m anchor? items => (anchor?.map (·, .sequence m anchor? items)).toList ++ anchoredItems items
  | .mapping m anchor? pairs => (anchor?.map (·, .mapping m anchor? pairs)).toList ++ anchoredPairs pairs
  | .alias .. => []

/-- The anchored nodes of some items. -/
def anchoredItems : List (Node Nat) → List (Nat × Node Nat)
  | [] => []
  | item :: rest => anchored item ++ anchoredItems rest

/-- The anchored nodes of some pairs. -/
def anchoredPairs : List (Node Nat × Node Nat) → List (Nat × Node Nat)
  | [] => []
  | (key, value) :: rest => anchored key ++ anchored value ++ anchoredPairs rest

end

/-- A document: its root, and the nodes that aliases stand for. -/
structure Document where
  root : Node Nat
  anchors : List (Nat × Node Nat)

namespace Document

/-- The document that a text holds. -/
def ofText (text : String) : Except Fault Document := do
  let named ← parseDocument (← tokens text.toList)
  let (root, _) ← number [] named
  return ⟨root, anchored root⟩

/-- The node itself, or the node that it is an alias of. -/
def follow (d : Document) : Node Nat → Node Nat
  | .alias m n => (d.anchors.reverse.lookup n).getD (.empty m)
  | node => node

end Document

end SchemaScript.Yaml
