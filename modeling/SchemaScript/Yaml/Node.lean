import SchemaScript.Yaml.TokenStream

/-!
# Yaml.Node: the tree of a document

A node is a scalar, a sequence, a mapping or an alias of another node. `parseNode` builds the tree of the tokens of a node and
resolves its tags; anchors and aliases keep their names.
-/

namespace SchemaScript.Yaml

/-- A scalar: its text, how it is written, and its tag if it has one. -/
structure Scalar where
  text : String
  style : Style
  tag? : Option String
  deriving DecidableEq, Repr

/-- A node with its place and its anchor; `ν` is what anchors are told apart by. -/
inductive Node (ν : Type)
  | scalar (mark : Mark) (anchor? : Option ν) (value : Scalar)
  | sequence (mark : Mark) (anchor? : Option ν) (items : List (Node ν))
  | mapping (mark : Mark) (anchor? : Option ν) (pairs : List (Node ν × Node ν))
  | alias (mark : Mark) (anchor : ν)

/-- A plain scalar without text, which stands for a node that is left out. -/
def Node.empty {ν : Type} (m : Mark) : Node ν := .scalar m none ⟨"", .plain, none⟩

/-- A node whose anchors have their names. -/
abbrev NamedNode := Node (List Char)

/-- The handles of a document and what they stand for. -/
abbrev Handles := List (List Char × List Char)

/-- The handles that need no directive. -/
def defaultHandles : Handles := [(['!'], ['!']), (['!', '!'], "tag:yaml.org,2002:".toList)]

/-- The anchor and the tag of a node, and the place where the first of them starts. -/
structure Properties where
  start? : Option Mark
  stop? : Option Mark
  anchor? : Option (List Char)
  tag? : Option (List Char × List Char)

/-- The tokens that are still to be read. -/
abbrev Tokens := List Token

/-- A fault at the first token. -/
def unexpected {α : Type} (ts : Tokens) : Except Fault α :=
  .error (.malformed .unexpectedToken ((ts.head?.map (·.start)).getD .start))

/-- Whether the first token is one of some kinds. -/
def nextIs (ts : Tokens) (kinds : List TokenKind) : Bool := ts.head?.any fun t => kinds.contains t.kind

/-- The place of the first token. -/
def nextMark (ts : Tokens) : Mark := (ts.head?.map (·.start)).getD .start

/-- The anchor and the tag in front of a node, in either order. -/
def takeProperties : Tokens → Properties × Tokens
  | ⟨.anchor a, m, _⟩ :: ⟨.tag h s, _, stop⟩ :: ts => (⟨some m, some stop, some a, some (h, s)⟩, ts)
  | ⟨.tag h s, m, _⟩ :: ⟨.anchor a, _, stop⟩ :: ts => (⟨some m, some stop, some a, some (h, s)⟩, ts)
  | ⟨.anchor a, m, stop⟩ :: ts => (⟨some m, some stop, some a, none⟩, ts)
  | ⟨.tag h s, m, stop⟩ :: ts => (⟨some m, some stop, none, some (h, s)⟩, ts)
  | ts => (⟨none, none, none, none⟩, ts)

/-- A tag with its handle replaced by what it stands for. -/
def resolveTag (handles : Handles) (m : Mark) : Option (List Char × List Char) → Except Fault (Option String)
  | none => .ok none
  | some ([], suffix) => .ok (some (String.ofList suffix))
  | some (handle, suffix) =>
    match handles.lookup handle with
    | some start => .ok (some (String.ofList (start ++ suffix)))
    | none => .error (.malformed .undefinedTag m)

/-- The comma between the items of brackets. -/
def takeFlowComma : Tokens → Except Fault Tokens
  | ⟨.flowEntry, _, _⟩ :: ts => .ok ts
  | ts => unexpected ts

mutual

/-- One node. A block node may be a block collection; a value of a block mapping may be a sequence without indentation. -/
def parseNode (handles : Handles) : Nat → Bool → Bool → Tokens → Except Fault (NamedNode × Tokens)
  | 0, _, _, ts => unexpected ts
  | fuel + 1, block, indentless, ts =>
    match ts with
    | ⟨.alias name, m, _⟩ :: ts => .ok (.alias m name, ts)
    | _ => do
      let (p, ts) := takeProperties ts
      let start := p.start?.getD (nextMark ts)
      let tag? ← resolveTag handles start p.tag?
      match ts with
      | ⟨.scalar text style, _, _⟩ :: ts =>
        return (.scalar start p.anchor? ⟨String.ofList text, style, tag?⟩, ts)
      | ⟨.flowSequenceStart, _, _⟩ :: ts =>
        let (items, ts) ← parseFlowItems handles fuel true ts
        return (.sequence start p.anchor? items, ts)
      | ⟨.flowMappingStart, _, _⟩ :: ts =>
        let (pairs, ts) ← parseFlowPairs handles fuel true ts
        return (.mapping start p.anchor? pairs, ts)
      | t :: rest =>
        if t.kind = .blockEntry ∧ indentless then
          let (items, ts) ← parseIndentlessItems handles fuel ts
          return (.sequence start p.anchor? items, ts)
        else if t.kind = .blockSequenceStart ∧ block then
          let (items, ts) ← parseBlockItems handles fuel rest
          return (.sequence start p.anchor? items, ts)
        else if t.kind = .blockMappingStart ∧ block then
          let (pairs, ts) ← parseBlockPairs handles fuel rest
          return (.mapping start p.anchor? pairs, ts)
        else if p.start?.isSome then return (.scalar start p.anchor? ⟨"", .plain, tag?⟩, ts)
        else unexpected ts
      | [] => unexpected ts

/-- A node, or nothing when the first token is one of some kinds; a node that is left out stands at a place. -/
def parseOptional (handles : Handles) : Nat → Bool → Bool → List TokenKind → Mark → Tokens → Except Fault (NamedNode × Tokens)
  | 0, _, _, _, _, ts => unexpected ts
  | fuel + 1, block, indentless, missing, m, ts =>
    if nextIs ts missing then .ok (.empty m, ts) else parseNode handles fuel block indentless ts

/-- The items of a block sequence up to its end. -/
def parseBlockItems (handles : Handles) : Nat → Tokens → Except Fault (List NamedNode × Tokens)
  | 0, ts => unexpected ts
  | fuel + 1, ts =>
    match ts with
    | ⟨.blockEntry, _, stop⟩ :: ts => do
      let (item, ts) ← parseOptional handles fuel true false [.blockEntry, .blockEnd] stop ts
      let (items, ts) ← parseBlockItems handles fuel ts
      return (item :: items, ts)
    | ⟨.blockEnd, _, _⟩ :: ts => .ok ([], ts)
    | _ => unexpected ts

/-- The items of a sequence without indentation. -/
def parseIndentlessItems (handles : Handles) : Nat → Tokens → Except Fault (List NamedNode × Tokens)
  | 0, ts => unexpected ts
  | fuel + 1, ts =>
    match ts with
    | ⟨.blockEntry, _, stop⟩ :: ts => do
      let (item, ts) ← parseOptional handles fuel true false [.blockEntry, .key, .value, .blockEnd] stop ts
      let (items, ts) ← parseIndentlessItems handles fuel ts
      return (item :: items, ts)
    | _ => .ok ([], ts)

/-- The pairs of a block mapping up to its end. -/
def parseBlockPairs (handles : Handles) : Nat → Tokens → Except Fault (List (NamedNode × NamedNode) × Tokens)
  | 0, ts => unexpected ts
  | fuel + 1, ts =>
    match ts with
    | ⟨.key, _, stop⟩ :: ts => do
      let (key, ts) ← parseOptional handles fuel true true [.key, .value, .blockEnd] stop ts
      let (value, ts) ← match ts with
        | ⟨.value, _, stop⟩ :: ts => parseOptional handles fuel true true [.key, .value, .blockEnd] stop ts
        | _ => Except.ok (Node.empty (nextMark ts), ts)
      let (pairs, ts) ← parseBlockPairs handles fuel ts
      return ((key, value) :: pairs, ts)
    | ⟨.blockEnd, _, _⟩ :: ts => .ok ([], ts)
    | _ => unexpected ts

/-- The value of a pair in brackets, up to a comma or the closing bracket. -/
def parseFlowValue (handles : Handles) : Nat → TokenKind → Tokens → Except Fault (NamedNode × Tokens)
  | 0, _, ts => unexpected ts
  | fuel + 1, closing, ts =>
    match ts with
    | ⟨.value, _, _⟩ :: ts => parseOptional handles fuel false false [.flowEntry, closing] (nextMark ts) ts
    | _ => .ok (.empty (nextMark ts), ts)

/-- The key and the value of a pair that stands alone in a sequence; a token that starts no key is passed over. -/
def parseSinglePair (handles : Handles) : Nat → Tokens → Except Fault ((NamedNode × NamedNode) × Tokens)
  | 0, ts => unexpected ts
  | fuel + 1, ts => do
    let (key, ts) ← match ts with
      | ⟨kind, _, stop⟩ :: rest =>
        if kind = .value ∨ kind = .flowEntry ∨ kind = .flowSequenceEnd then Except.ok (Node.empty stop, rest)
        else parseNode handles fuel false false ts
      | [] => unexpected ts
    let (value, ts) ← parseFlowValue handles fuel .flowSequenceEnd ts
    return ((key, value), ts)

/-- The items of a sequence in brackets. -/
def parseFlowItems (handles : Handles) : Nat → Bool → Tokens → Except Fault (List NamedNode × Tokens)
  | 0, _, ts => unexpected ts
  | fuel + 1, first, ts =>
    match ts with
    | ⟨.flowSequenceEnd, _, _⟩ :: ts => .ok ([], ts)
    | _ => do
      let ts ← if first then Except.ok ts else takeFlowComma ts
      match ts with
      | ⟨.flowSequenceEnd, _, _⟩ :: ts => return ([], ts)
      | ⟨.key, m, _⟩ :: ts =>
        let (pair, ts) ← parseSinglePair handles fuel ts
        let (items, ts) ← parseFlowItems handles fuel false ts
        return (.mapping m none [pair] :: items, ts)
      | _ =>
        let (item, ts) ← parseNode handles fuel false false ts
        let (items, ts) ← parseFlowItems handles fuel false ts
        return (item :: items, ts)

/-- The pairs of a mapping in brackets. -/
def parseFlowPairs (handles : Handles) : Nat → Bool → Tokens → Except Fault (List (NamedNode × NamedNode) × Tokens)
  | 0, _, ts => unexpected ts
  | fuel + 1, first, ts =>
    match ts with
    | ⟨.flowMappingEnd, _, _⟩ :: ts => .ok ([], ts)
    | _ => do
      let ts ← if first then Except.ok ts else takeFlowComma ts
      match ts with
      | ⟨.flowMappingEnd, _, _⟩ :: ts => return ([], ts)
      | ⟨.key, _, _⟩ :: ts =>
        let (key, ts) ← parseOptional handles fuel false false [.value, .flowEntry, .flowMappingEnd] (nextMark ts) ts
        let (value, ts) ← parseFlowValue handles fuel .flowMappingEnd ts
        let (pairs, ts) ← parseFlowPairs handles fuel false ts
        return ((key, value) :: pairs, ts)
      | _ =>
        let (key, ts) ← parseNode handles fuel false false ts
        let value := Node.empty (nextMark ts)
        let (pairs, ts) ← parseFlowPairs handles fuel false ts
        return ((key, value) :: pairs, ts)

end

end SchemaScript.Yaml
