import SchemaScript.Yaml.BlockScalar
import SchemaScript.Yaml.PlainScalar
import SchemaScript.Yaml.QuotedScalar
import SchemaScript.Yaml.Tag
import SchemaScript.Yaml.Token

/-!
# Yaml.TokenStream: the tokens of a text

Tokens are found from left to right. Indentation is turned into the starts and ends of block collections. A key is recognised only
when its colon is met, on the same line and within 1024 characters; its tokens are then put before the ones already found.
-/

namespace SchemaScript.Yaml

/-- A place where a key may have started. -/
structure KeyStart where
  mark : Mark
  /-- How many tokens were found before. -/
  index : Nat
  /-- Whether a block mapping needs a key there. -/
  required : Bool
  deriving DecidableEq, Repr

/-- What is known while tokens are found. -/
structure TokenStream where
  spot : Spot
  /-- The tokens found so far, the last one first. -/
  found : List Token
  /-- Where a key may have started, in the innermost brackets. -/
  key? : Option KeyStart
  /-- The same for the brackets around, innermost first. -/
  outerKeys : List (Option KeyStart)
  /-- Whether a key may start at the place. -/
  keyAllowed : Bool
  /-- The column of the innermost block collection; negative when there is none. -/
  indent : Int
  /-- The columns of the collections around it. -/
  outerIndents : List Int

namespace TokenStream

/-- The start of a text. -/
def start (text : List Char) : TokenStream := ⟨.start text, [], none, [], true, -1, []⟩

/-- Whether the place is inside brackets. -/
def inFlow (t : TokenStream) : Bool := !t.outerKeys.isEmpty

/-- The column of the place. -/
def column (t : TokenStream) : Int := t.spot.mark.column

/-- Add a token at the end. -/
def add (t : TokenStream) (kind : TokenKind) (start stop : Mark) : TokenStream :=
  { t with found := ⟨kind, start, stop⟩ :: t.found }

/-- Put a token before those found after the first `index`. -/
def insertAt (t : TokenStream) (index : Nat) (kind : TokenKind) (mark : Mark) : TokenStream :=
  let later := t.found.length - index
  { t with found := t.found.take later ++ ⟨kind, mark, mark⟩ :: t.found.drop later }

/-- The stream at another place. -/
def moveTo (t : TokenStream) (s : Spot) : TokenStream := { t with spot := s }

/-- Add a token of `n` characters at the place. -/
def take (t : TokenStream) (n : Nat) (kind : TokenKind) : TokenStream :=
  let s := t.spot.skip n
  (t.add kind t.spot.mark s.mark).moveTo s

/-- Whether a key is too far away to be one. -/
def isStale (t : TokenStream) (k : KeyStart) : Bool :=
  k.mark.line < t.spot.mark.line || k.mark.index + 1024 < t.spot.mark.index

/-- Forget where a key may have started; one that is needed must not be forgotten. -/
def dropKey (t : TokenStream) : Except Fault TokenStream :=
  match t.key? with
  | some k => if k.required then .error (.malformed .badSimpleKey k.mark) else .ok { t with key? := none }
  | none => .ok t

/-- Forget the keys that are too far away. -/
def dropStaleKeys (t : TokenStream) : Except Fault TokenStream :=
  let stale (k? : Option KeyStart) : Bool := k?.any t.isStale
  match (t.key? :: t.outerKeys).findSome? fun k? => k?.filter fun k => t.isStale k && k.required with
  | some k => .error (.malformed .badSimpleKey k.mark)
  | none =>
    .ok { t with
      key? := if stale t.key? then none else t.key?
      outerKeys := t.outerKeys.map fun k? => if stale k? then none else k? }

/-- Remember that a key may start at the place. -/
def saveKey (t : TokenStream) : Except Fault TokenStream := do
  if t.keyAllowed then
    let required := !t.inFlow && t.indent == t.column
    let t ← t.dropKey
    return { t with key? := some ⟨t.spot.mark, t.found.length, required⟩ }
  else return t

/-- Start a block collection at a column unless one stands there; its token comes before those found after the first `index`. -/
def openBlock (t : TokenStream) (column : Int) (index : Nat) (kind : TokenKind) (mark : Mark) : TokenStream :=
  if t.inFlow || t.indent ≥ column then t
  else { t.insertAt index kind mark with indent := column, outerIndents := t.indent :: t.outerIndents }

/-- End the block collections that stand to the right of a column; the outer columns are given apart. -/
def closeBlocksFrom (t : TokenStream) (column : Int) : List Int → TokenStream
  | [] => t
  | outer :: rest =>
    if t.indent > column then
      closeBlocksFrom { t.add .blockEnd t.spot.mark t.spot.mark with indent := outer, outerIndents := rest } column rest
    else t

/-- End the block collections that stand to the right of a column. -/
def closeBlocks (t : TokenStream) (column : Int) : TokenStream :=
  if t.inFlow then t else t.closeBlocksFrom column t.outerIndents

/-- Skip a comment. -/
def skipComment (s : Spot) : Spot := if s.sees '#' then s.skipWhile (!isBreak ·) else s

/-- Skip blanks, comments and line breaks up to the next token. A tab may stand inside brackets and where no key may start. -/
def skipToToken : Nat → TokenStream → TokenStream
  | 0, t => t
  | fuel + 1, t =>
    let s := if t.spot.mark.index = 0 ∧ t.spot.sees '\ufeff' then t.spot.next else t.spot
    let tabs := t.inFlow || !t.keyAllowed
    let s := skipComment (s.skipWhile fun c => c == ' ' || (tabs && c == '\t'))
    if s.seesAny isBreak then
      skipToToken fuel { t with spot := s.nextLine, keyAllowed := t.keyAllowed || !t.inFlow }
    else t.moveTo s

/-! ### One token of each kind -/

/-- The end of the text, on a line of its own. -/
def endStream (t : TokenStream) : Except Fault TokenStream := do
  let m := t.spot.mark
  let t := t.moveTo ⟨t.spot.rest, if m.column = 0 then m else ⟨m.index, m.line + 1, 0⟩⟩
  let t ← (t.closeBlocks (-1)).dropKey
  return { t.add .streamEnd t.spot.mark t.spot.mark with keyAllowed := false }

/-- A directive. -/
def takeDirective (t : TokenStream) : Except Fault TokenStream := do
  let t ← (t.closeBlocks (-1)).dropKey
  let (directive, stop, s) ← Tag.readDirective t.spot
  let kind := match directive with
    | .version major minor => TokenKind.version major minor
    | .handle name start => .tagDirective name start
  return { t.add kind t.spot.mark stop with spot := s, keyAllowed := false }

/-- A marker between documents. -/
def takeMarker (t : TokenStream) (kind : TokenKind) : Except Fault TokenStream := do
  let t ← (t.closeBlocks (-1)).dropKey
  return { t.take 3 kind with keyAllowed := false }

/-- An opening bracket. -/
def openFlow (t : TokenStream) (kind : TokenKind) : Except Fault TokenStream := do
  let t ← t.saveKey
  return { t.take 1 kind with key? := none, outerKeys := t.key? :: t.outerKeys, keyAllowed := true }

/-- A closing bracket. -/
def closeFlow (t : TokenStream) (kind : TokenKind) : Except Fault TokenStream := do
  let t ← t.dropKey
  let t := match t.outerKeys with
    | [] => t
    | outer :: rest => { t with key? := outer, outerKeys := rest }
  return { t.take 1 kind with keyAllowed := false }

/-- A comma between the items of brackets. -/
def takeComma (t : TokenStream) : Except Fault TokenStream := do
  let t ← t.dropKey
  return { t.take 1 .flowEntry with keyAllowed := true }

/-- The hyphen of a block sequence. -/
def takeEntry (t : TokenStream) : Except Fault TokenStream := do
  if !t.inFlow && !t.keyAllowed then throw (t.spot.fault .badIndentation)
  let t ← (t.openBlock t.column t.found.length .blockSequenceStart t.spot.mark).dropKey
  return { t.take 1 .blockEntry with keyAllowed := true }

/-- The question mark of a key. -/
def takeKey (t : TokenStream) : Except Fault TokenStream := do
  if !t.inFlow && !t.keyAllowed then throw (t.spot.fault .badIndentation)
  let t ← (t.openBlock t.column t.found.length .blockMappingStart t.spot.mark).dropKey
  return { t.take 1 .key with keyAllowed := !t.inFlow }

/-- The colon of a value, whose key may have been found already. -/
def takeValue (t : TokenStream) : Except Fault TokenStream :=
  match t.key? with
  | some k =>
    let t := { t with key? := none }.insertAt k.index .key k.mark
    let t := t.openBlock k.mark.column k.index .blockMappingStart k.mark
    .ok { t.take 1 .value with keyAllowed := false }
  | none =>
    if !t.inFlow && !t.keyAllowed then .error (t.spot.fault .badIndentation)
    else
      let t := t.openBlock t.column t.found.length .blockMappingStart t.spot.mark
      .ok { t.take 1 .value with keyAllowed := !t.inFlow }

/-- The characters that may follow the name of an anchor besides the end of a word. -/
def endsName (c : Option Char) : Bool := endsWord c || c.any fun c => "?:,]\x7d%@`".toList.contains c

/-- An anchor or an alias. -/
def takeName (t : TokenStream) (kind : List Char → TokenKind) (problem : Malformed) : Except Fault TokenStream := do
  let t ← t.saveKey
  let (name, s) := t.spot.next.span isNameChar
  if name.isEmpty || !endsName s.peek? then throw (s.fault problem)
  return { t.add (kind name) t.spot.mark s.mark with spot := s, keyAllowed := false }

/-- A tag. -/
def takeTag (t : TokenStream) : Except Fault TokenStream := do
  let t ← t.saveKey
  let ((handle, suffix), s) ← Tag.read t.inFlow t.spot
  return { t.add (.tag handle suffix) t.spot.mark s.mark with spot := s, keyAllowed := false }

/-- A scalar of whole lines. -/
def takeBlockScalar (t : TokenStream) (style : Style) : Except Fault TokenStream := do
  let t ← t.dropKey
  let (text, stop, s) ← BlockScalar.read (style == .folded) t.indent t.spot
  return { t.add (.scalar text style) t.spot.mark stop with spot := s, keyAllowed := true }

/-- A scalar in quotes. -/
def takeQuotedScalar (t : TokenStream) (style : Style) : Except Fault TokenStream := do
  let t ← t.saveKey
  let (text, s) ← QuotedScalar.read (style == .single) t.spot
  return { t.add (.scalar text style) t.spot.mark s.mark with spot := s, keyAllowed := false }

/-- A scalar without quotes; behind a line break a key may start. -/
def takePlainScalar (t : TokenStream) : Except Fault TokenStream := do
  let t ← t.saveKey
  let (p, s) ← PlainScalar.read t.inFlow t.indent t.spot
  return { t.add (.scalar p.text .plain) t.spot.mark p.stop with spot := s, keyAllowed := p.broken }

/-- Whether a plain scalar may start with a character. -/
def startsPlain (t : TokenStream) (c : Char) : Bool :=
  let next := t.spot.ahead? 1
  if c = '-' then !next.any isBlank
  else if c = '?' || c = ':' then !t.inFlow && !endsWord next
  else !(isBlank c || isBreak c || ",[]\x7b\x7d#&*!|>'\"%@`".toList.contains c)

/-- The next token, which starts at the place. -/
def takeToken (t : TokenStream) (c : Char) : Except Fault TokenStream :=
  let next := t.spot.ahead? 1
  let separated := endsWord next
  if t.spot.mark.column = 0 ∧ c = '%' then t.takeDirective
  else if t.spot.seesMarker '-' then t.takeMarker .documentStart
  else if t.spot.seesMarker '.' then t.takeMarker .documentEnd
  else if c = '[' then t.openFlow .flowSequenceStart
  else if c = '\x7b' then t.openFlow .flowMappingStart
  else if c = ']' then t.closeFlow .flowSequenceEnd
  else if c = '\x7d' then t.closeFlow .flowMappingEnd
  else if c = ',' then t.takeComma
  else if c = '-' ∧ separated then t.takeEntry
  else if c = '?' ∧ (t.inFlow || separated) then t.takeKey
  else if c = ':' ∧ (t.inFlow || separated) then t.takeValue
  else if c = '*' then t.takeName .alias .badAlias
  else if c = '&' then t.takeName .anchor .badAnchor
  else if c = '!' then t.takeTag
  else if c = '|' ∧ !t.inFlow then t.takeBlockScalar .literal
  else if c = '>' ∧ !t.inFlow then t.takeBlockScalar .folded
  else if c = '\x27' then t.takeQuotedScalar .single
  else if c = '"' then t.takeQuotedScalar .double
  else if t.startsPlain c then t.takePlainScalar
  else .error (t.spot.fault .badToken)

/-- Find the tokens that follow; every token but the last takes a character of the fuel. -/
def run : Nat → TokenStream → Except Fault TokenStream
  | 0, t => .error (t.spot.fault .badToken)
  | fuel + 1, t => do
    let t ← (skipToToken (t.spot.rest.length + 1) t).dropStaleKeys
    let t := t.closeBlocks t.column
    match t.spot.peek? with
    | none => t.endStream
    | some c => run fuel (← t.takeToken c)

end TokenStream

/-- The tokens of a text, the last of which ends the stream. -/
def tokens (text : List Char) : Except Fault (List Token) := do
  if !text.all isAllowed then throw (.malformed .forbiddenCharacter .start)
  return (← TokenStream.run (text.length + 2) (.start text)).found.reverse

end SchemaScript.Yaml
