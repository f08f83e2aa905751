import SchemaScript.Yaml.Folding

/-!
# Yaml.PlainScalar: scalars without quotes

A plain scalar ends at a comment, at a document marker, at a colon that ends a word, at a line that is indented too little, and
inside brackets also at an indicator of the flow style.
-/

namespace SchemaScript.Yaml

/-- The characters that structure flow collections, besides the colon. -/
def isFlowIndicator (c : Char) : Bool := c == ',' || c == '[' || c == ']' || c == '\x7b' || c == '\x7d'

/-- A plain scalar as far as it is read. -/
structure PlainScalar where
  text : List Char
  /-- The place behind its last word. -/
  stop : Mark
  /-- Whether a line ended behind its last word. -/
  broken : Bool
  deriving DecidableEq, Repr

namespace PlainScalar

/-- Whether a word of a plain scalar ends at the place. -/
def wordEnds (inFlow : Bool) (s : Spot) : Bool :=
  endsWord s.peek? || (s.sees ':' && endsWord (s.ahead? 1)) || (inFlow && s.seesAny isFlowIndicator)

/-- Whether a colon stands at the place that no scalar inside brackets may hold. -/
def badColon (inFlow : Bool) (s : Spot) : Bool :=
  inFlow && s.sees ':' && (s.ahead? 1).any fun c => isFlowIndicator c || c == '?'

/-- The word that follows; the text is given apart. -/
def wordFrom (inFlow : Bool) (s : Spot) : List Char → Except Fault (List Char × Spot)
  | [] => .ok ([], s)
  | c :: rest =>
    if endsWord (some c) then .ok ([], s)
    else if badColon inFlow s then .error (s.fault .badPlainScalar)
    else if wordEnds inFlow s then .ok ([], s)
    else do
      let (word, s) ← wordFrom inFlow s.next rest
      return (c :: word, s)

/-- Read words and the gaps between them; `least` is the least column of a line that goes on. -/
def readFrom (inFlow : Bool) (least : Nat) : Nat → Gap → PlainScalar → Spot → Except Fault (PlainScalar × Spot)
  | 0, _, p, s => .ok (p, s)
  | fuel + 1, gap, p, s => do
    if s.seesDocumentMarker || s.sees '#' then return (p, s)
    let (word, s) ← wordFrom inFlow s s.rest
    let joined := !word.isEmpty
    let p := if joined then ⟨p.text ++ gap.text ++ word, s.mark, false⟩ else p
    if !(s.seesAny fun c => isBlank c || isBreak c) then return (p, s)
    let (gap, s) ← Gap.read least (if joined then .none else gap) s
    let p := { p with broken := gap.broken }
    if !inFlow && s.mark.column < least then return (p, s)
    readFrom inFlow least fuel gap p s

/-- Read a plain scalar; `indent` is the indentation of the collection around it. -/
def read (inFlow : Bool) (indent : Int) (s : Spot) : Except Fault (PlainScalar × Spot) :=
  readFrom inFlow (indent + 1).toNat (s.rest.length + 1) .none ⟨[], s.mark, false⟩ s

end PlainScalar

end SchemaScript.Yaml
