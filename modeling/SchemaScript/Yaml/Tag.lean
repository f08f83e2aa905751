import SchemaScript.Text.Digits
import SchemaScript.Yaml.Spot

/-!
# Yaml.Tag: tags and directives

A tag names the type of a node: a handle, which directives may define, and a suffix. The directives before a document give its
version and its handles.
-/

namespace SchemaScript.Yaml.Tag

/-- The characters of a tag; commas and brackets only inside angle brackets or in a directive. -/
def isUriChar (verbatim : Bool) (c : Char) : Bool :=
  isNameChar c || ";/?:@&=+$.%!~*'()".toList.contains c || (verbatim && (c == ',' || c == '[' || c == ']'))

/-- The byte that an escape stands for, which starts with a percent sign. -/
def escapedByte? (s : Spot) : Option Nat :=
  if s.sees '%' then do
    let high ← (s.ahead? 1).bind Text.hexValue?
    let low ← (s.ahead? 2).bind Text.hexValue?
    return high * 16 + low
  else none

/-- How many bytes a UTF-8 character has that starts with a byte. -/
def sequenceLength? (byte : Nat) : Option Nat :=
  if byte < 0x80 then some 1
  else if 0xC0 ≤ byte ∧ byte < 0xE0 then some 2
  else if 0xE0 ≤ byte ∧ byte < 0xF0 then some 3
  else if 0xF0 ≤ byte ∧ byte < 0xF8 then some 4
  else none

/-- The place behind `n` escapes of bytes that continue a character. -/
def skipContinuation (s : Spot) : Nat → Except Fault Spot
  | 0 => .ok s
  | n + 1 =>
    match escapedByte? s with
    | some byte => if 0x80 ≤ byte ∧ byte < 0xC0 then skipContinuation (s.skip 3) n else .error (s.fault .badTag)
    | none => .error (s.fault .badTag)

/-- An escaped character; what is not ASCII is only checked. -/
def readEscape (s : Spot) : Except Fault (Char × Spot) := do
  let some byte := escapedByte? s | throw (s.fault .badTag)
  let some length := sequenceLength? byte | throw (s.fault .badTag)
  return (if length = 1 then Char.ofNat byte else '\ufffd', ← skipContinuation (s.skip 3) (length - 1))

/-- The characters of a tag with escapes replaced; the fuel bounds their number. -/
def readUriFrom (verbatim : Bool) : Nat → List Char → Spot → Except Fault (List Char × Spot)
  | 0, done, s => .ok (done, s)
  | fuel + 1, done, s =>
    match s.peek? with
    | none => .ok (done, s)
    | some c =>
      if !isUriChar verbatim c then .ok (done, s)
      else if c = '%' then do
        let (escaped, s) ← readEscape s
        readUriFrom verbatim fuel (done ++ [escaped]) s
      else readUriFrom verbatim fuel (done ++ [c]) s.next

/-- The characters of a tag behind a handle that turned out to start it, without its exclamation mark. -/
def readUri (verbatim : Bool) (head : List Char) (s : Spot) : Except Fault (List Char × Spot) := do
  let (uri, behind) ← readUriFrom verbatim (s.rest.length + 1) head.tail s
  if head.isEmpty ∧ uri.isEmpty then throw (behind.fault .badTag)
  return (uri, behind)

/-- A handle: an exclamation mark, and possibly a name and a second one. -/
def readHandle (s : Spot) : Except Fault (List Char × Spot) :=
  if !s.sees '!' then .error (s.fault .badTag)
  else
    let (name, s) := s.next.span isNameChar
    if s.sees '!' then .ok ('!' :: name ++ ['!'], s.next) else .ok ('!' :: name, s)

/-- Whether a handle is closed by a second exclamation mark. -/
def isClosed (handle : List Char) : Bool := handle.length > 1 && handle.getLast? == some '!'

/-- A tag between angle brackets, whose exclamation mark stands at the place. -/
def readVerbatim (s : Spot) : Except Fault ((List Char × List Char) × Spot) := do
  let (uri, s) ← readUri true [] (s.skip 2)
  if !s.sees '>' then throw (s.fault .badTag)
  return (([], uri), s.next)

/-- A tag by its handle, whose exclamation mark stands at the place; an exclamation mark alone is a tag of its own. -/
def readShorthand (s : Spot) : Except Fault ((List Char × List Char) × Spot) := do
  let (handle, s) ← readHandle s
  if isClosed handle then
    let (suffix, s) ← readUri false [] s
    return ((handle, suffix), s)
  else
    let (suffix, s) ← readUri false handle s
    return (if suffix.isEmpty then ([], ['!']) else (['!'], suffix), s)

/-- The handle and the suffix of a tag, which ends a word or, inside brackets, stands before a comma. -/
def read (inFlow : Bool) (s : Spot) : Except Fault ((List Char × List Char) × Spot) := do
  let (tag, s) ← if s.ahead? 1 = some '<' then readVerbatim s else readShorthand s
  if endsWord s.peek? || (inFlow && s.sees ',') then return (tag, s) else throw (s.fault .badTag)

/-! ### Directives -/

/-- A directive: the version, or a handle and what it stands for. -/
inductive Directive
  | version (major minor : Nat)
  | handle (name start : List Char)
  deriving DecidableEq, Repr

/-- A number of at most nine digits. -/
def readVersionNumber (s : Spot) : Except Fault (Nat × Spot) :=
  let (digits, behind) := s.span Char.isDigit
  match Text.decimal? digits with
  | none => .error (s.fault .badDirective)
  | some n => if digits.length > 9 then .error (s.fault .badDirective) else .ok (n, behind)

/-- The version that a directive gives. -/
def readVersion (s : Spot) : Except Fault (Directive × Spot) := do
  let (major, s) ← readVersionNumber (s.skipWhile isBlank)
  if !s.sees '.' then throw (s.fault .badDirective)
  let (minor, s) ← readVersionNumber s.next
  return (.version major minor, s)

/-- The handle that a directive defines. -/
def readDefinition (s : Spot) : Except Fault (Directive × Spot) := do
  let (handle, s) ← readHandle (s.skipWhile isBlank)
  if !isClosed handle && handle != ['!'] then throw (s.fault .badDirective)
  if !s.seesAny isBlank then throw (s.fault .badDirective)
  let (start, s) ← readUri true [] (s.skipWhile isBlank)
  if !endsWord s.peek? then throw (s.fault .badDirective)
  return (.handle handle start, s)

/-- A directive, whose percent sign stands at the place: what it says, the place behind that, and the next line. -/
def readDirective (s : Spot) : Except Fault (Directive × Mark × Spot) := do
  let (name, behind) := s.next.span isNameChar
  if name.isEmpty || !endsWord behind.peek? then throw (behind.fault .badDirective)
  let (directive, behind) ←
    if name = ['Y', 'A', 'M', 'L'] then readVersion behind
    else if name = ['T', 'A', 'G'] then readDefinition behind
    else throw (s.fault .badDirective)
  let stop := behind.mark
  let behind := behind.skipWhile isBlank
  let behind := if behind.sees '#' then behind.skipWhile (!isBreak ·) else behind
  if !endsLine behind.peek? then throw (behind.fault .badDirective)
  return (directive, stop, behind.nextLine)

end SchemaScript.Yaml.Tag
