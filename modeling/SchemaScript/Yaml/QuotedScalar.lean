import SchemaScript.Text.Digits
import SchemaScript.Yaml.Folding

/-!
# Yaml.QuotedScalar: scalars in quotes

Between single quotes only the quote itself is written twice. Between double quotes a backslash starts an escape, and at the end
of a line it joins the next line without a space.
-/

namespace SchemaScript.Yaml.QuotedScalar

/-- The character of an escape with one letter. -/
def shortEscape? : Char → Option Char
  | '0' => some '\x00'
  | 'a' => some '\x07'
  | 'b' => some '\x08'
  | 't' => some '\t'
  | '\t' => some '\t'
  | 'n' => some '\n'
  | 'v' => some '\x0b'
  | 'f' => some '\x0c'
  | 'r' => some '\r'
  | 'e' => some '\x1b'
  | ' ' => some ' '
  | '"' => some '"'
  | '/' => some '/'
  | '\\' => some '\\'
  | 'N' => some '\u0085'
  | '_' => some '\u00a0'
  | 'L' => some '\u2028'
  | 'P' => some '\u2029'
  | _ => none

/-- The number of hexadecimal digits behind an escape's letter. -/
def hexLength? : Char → Option Nat
  | 'x' => some 2
  | 'u' => some 4
  | 'U' => some 8
  | _ => none

/-- The number that `n` hexadecimal digits write, behind the number before them. -/
def hexFrom? (value : Nat) (s : Spot) : Nat → Option Nat
  | 0 => some value
  | n + 1 => (s.peek?.bind Text.hexValue?).bind fun digit => hexFrom? (value * 16 + digit) s.next n

/-- The character of an escape, whose backslash stands at the place. -/
def readEscape (s : Spot) : Except Fault (Char × Spot) :=
  match s.ahead? 1 with
  | none => .error (s.fault .badQuotedScalar)
  | some letter =>
    match shortEscape? letter, hexLength? letter with
    | some c, _ => .ok (c, s.skip 2)
    | none, none => .error (s.fault .badQuotedScalar)
    | none, some n =>
      match hexFrom? 0 (s.skip 2) n with
      | none => .error (s.fault .badQuotedScalar)
      | some value =>
        if (0xD800 ≤ value ∧ value ≤ 0xDFFF) ∨ value > 0x10FFFF then .error (s.fault .badQuotedScalar)
        else .ok (Char.ofNat value, s.skip (2 + n))

/-- Read the characters of a line up to a blank, a break or the closing quote; whether an escaped line break ended them. -/
def wordFrom (single : Bool) : Nat → List Char → Spot → Except Fault (List Char × Bool × Spot)
  | 0, done, s => .ok (done, false, s)
  | fuel + 1, done, s =>
    match s.peek? with
    | none => .ok (done, false, s)
    | some c =>
      if isBlank c || isBreak c then .ok (done, false, s)
      else if single then
        if c = '\x27' then
          if s.ahead? 1 = some '\x27' then wordFrom single fuel (done ++ [c]) (s.skip 2) else .ok (done, false, s)
        else wordFrom single fuel (done ++ [c]) s.next
      else if c = '"' then .ok (done, false, s)
      else if c = '\\' then
        if (s.ahead? 1).any isBreak then .ok (done, true, s.next.nextLine)
        else do
          let (escaped, s) ← readEscape s
          wordFrom single fuel (done ++ [escaped]) s
      else wordFrom single fuel (done ++ [c]) s.next

/-- Read up to the closing quote, behind the text read already. -/
def readFrom (single : Bool) : Nat → List Char → Spot → Except Fault (List Char × Spot)
  | 0, _, s => .error (s.fault .badQuotedScalar)
  | fuel + 1, done, s => do
    if s.seesDocumentMarker || s.rest.isEmpty then throw (s.fault .badQuotedScalar)
    let (done, escapedBreak, s) ← wordFrom single (s.rest.length + 1) done s
    if s.sees (if single then '\x27' else '"') then return (done, s.next)
    let (gap, s) ← Gap.read 0 { Gap.none with broken := escapedBreak } s
    readFrom single fuel (done ++ gap.text) s

/-- Read a quoted scalar, whose opening quote stands at the place. -/
def read (single : Bool) (s : Spot) : Except Fault (List Char × Spot) := readFrom single (s.rest.length + 1) [] s.next

end SchemaScript.Yaml.QuotedScalar
