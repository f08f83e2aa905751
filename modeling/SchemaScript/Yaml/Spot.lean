import SchemaScript.Yaml.Fault

/-!
# Yaml.Spot: a place in a text and what follows it

Documents hold printable characters, tabs and line breaks. A line ends at CR LF, CR, LF, at the next-line character and at the
two Unicode separators; only these last two are kept as they are when text runs over lines.
-/

namespace SchemaScript.Yaml

/-- Whether a document may hold a character. -/
def isAllowed (c : Char) : Bool :=
  let n := c.toNat
  n == 9 || n == 10 || n == 13 || (0x20 ≤ n && n ≤ 0x7E) || n == 0x85 || (0xA0 ≤ n && n ≤ 0xD7FF) ||
    (0xE000 ≤ n && n ≤ 0xFFFD) || 0x10000 ≤ n

/-- A space or a tab. -/
def isBlank (c : Char) : Bool := c == ' ' || c == '\t'

/-- A character that ends a line. -/
def isBreak (c : Char) : Bool := c == '\r' || c == '\n' || c == '\u0085' || c == '\u2028' || c == '\u2029'

/-- A blank, a line break or the end of the text. -/
def endsWord : Option Char → Bool
  | none => true
  | some c => isBlank c || isBreak c

/-- A line break or the end of the text. -/
def endsLine : Option Char → Bool
  | none => true
  | some c => isBreak c

/-- The characters of names: ASCII letters and digits, the hyphen and the underscore. -/
def isNameChar (c : Char) : Bool := c.isAlphanum || c == '-' || c == '_'

/-- A place in a text and the text behind it. -/
structure Spot where
  rest : List Char
  mark : Mark

namespace Spot

/-- The start of a text. -/
def start (text : List Char) : Spot := ⟨text, .start⟩

/-- The character at the place. -/
def peek? (s : Spot) : Option Char := s.rest.head?

/-- The character `n` places ahead. -/
def ahead? (s : Spot) (n : Nat) : Option Char := s.rest[n]?

/-- Whether a character stands at the place. -/
def sees (s : Spot) (c : Char) : Bool := s.peek? == some c

/-- Whether the character at the place has a property. -/
def seesAny (s : Spot) (p : Char → Bool) : Bool := s.peek?.any p

/-- The place behind one character of the line. -/
def next (s : Spot) : Spot :=
  match s.rest with
  | [] => s
  | _ :: rest => ⟨rest, ⟨s.mark.index + 1, s.mark.line, s.mark.column + 1⟩⟩

/-- The place `n` characters ahead on the line. -/
def skip (s : Spot) : Nat → Spot
  | 0 => s
  | n + 1 => s.next.skip n

/-- The place behind a line break. -/
def nextLine (s : Spot) : Spot :=
  match s.rest with
  | '\r' :: '\n' :: rest => ⟨rest, ⟨s.mark.index + 2, s.mark.line + 1, 0⟩⟩
  | c :: rest => if isBreak c then ⟨rest, ⟨s.mark.index + 1, s.mark.line + 1, 0⟩⟩ else s
  | [] => s

/-- What a line break stands for in a text. -/
def lineBreak (s : Spot) : List Char :=
  match s.peek? with
  | none => []
  | some c => if c = '\u2028' ∨ c = '\u2029' then [c] else if isBreak c then ['\n'] else []

/-- The characters of the line that have a property, and the place behind them; the text is given apart. -/
def spanFrom (p : Char → Bool) (s : Spot) : List Char → List Char × Spot
  | [] => ([], s)
  | c :: rest =>
    if p c then
      let (cs, s) := spanFrom p s.next rest
      (c :: cs, s)
    else ([], s)

/-- The characters of the line that have a property, and the place behind them. -/
def span (s : Spot) (p : Char → Bool) : List Char × Spot := spanFrom p s s.rest

/-- The place behind the characters of the line that have a property. -/
def skipWhile (s : Spot) (p : Char → Bool) : Spot := (s.span p).2

/-- Whether three equal characters stand at the start of a line as a word of their own. -/
def seesMarker (s : Spot) (c : Char) : Bool :=
  s.mark.column == 0 && s.sees c && s.ahead? 1 == some c && s.ahead? 2 == some c && endsWord (s.ahead? 3)

/-- Whether a document starts or ends at the place. -/
def seesDocumentMarker (s : Spot) : Bool := s.seesMarker '-' || s.seesMarker '.'

/-- A fault at the place. -/
def fault (s : Spot) (problem : Malformed) : Fault := .malformed problem s.mark

end Spot

end SchemaScript.Yaml
