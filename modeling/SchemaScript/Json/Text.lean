import SchemaScript.Json.Cursor
import SchemaScript.Text.Digits

/-!
# Json.Text: strings

`encode` writes a string between quotes and escapes quotes, backslashes and controls. `readText` reads what follows an opening
quote, with every escape there is; `skipText` reads the same without looking at the pairs of surrogates.
-/

namespace SchemaScript.Json

/-- A hexadecimal digit in lower case. -/
def hexChar (n : Nat) : Char := Char.ofNat (if n < 10 then 48 + n else 87 + n)

/-- One character inside a string. -/
def encodeChar (c : Char) : List Char :=
  match c with
  | '"' => ['\\', '"']
  | '\\' => ['\\', '\\']
  | '\x08' => ['\\', 'b']
  | '\t' => ['\\', 't']
  | '\n' => ['\\', 'n']
  | '\x0c' => ['\\', 'f']
  | '\r' => ['\\', 'r']
  | c =>
    if c.toNat < 32 then ['\\', 'u', '0', '0', hexChar (c.toNat / 16), hexChar (c.toNat % 16)] else [c]

/-- A string between quotes. -/
def encode (s : String) : List Char := '"' :: s.toList.flatMap encodeChar ++ ['"']

/-- The character of an escape with one letter. -/
def shortEscape? : Char → Option Char
  | '"' => some '"'
  | '\\' => some '\\'
  | '/' => some '/'
  | 'b' => some '\x08'
  | 'f' => some '\x0c'
  | 'n' => some '\n'
  | 'r' => some '\r'
  | 't' => some '\t'
  | _ => none

/-- The number that four hexadecimal digits write. -/
def fourHex? : List Char → Option Nat
  | [a, b, c, d] => do
    let a ← Text.hexValue? a
    let b ← Text.hexValue? b
    let c ← Text.hexValue? c
    let d ← Text.hexValue? d
    return ((a * 16 + b) * 16 + c) * 16 + d
  | _ => none

/-- The bytes of a text, counted only as far as `n`. -/
def hasBytes : List Char → Nat → Bool
  | _, 0 => true
  | [], _ + 1 => false
  | c :: cs, n + 1 => hasBytes cs (n + 1 - c.utf8Size)

/-- Four hexadecimal digits. -/
def readHex : Reader Nat := fun c =>
  if hasBytes c.rest 4 then
    let after := c.skipBytesFrom c.rest 4
    match fourHex? (c.rest.take 4) with
    | some n => .ok (n, after)
    | none => .error (after.faultHere .badEscape)
  else .error (c.toEnd.faultHere .endInString)

/-- One character that has to follow inside a pair of surrogates. -/
def expectInPair (ch : Char) (c : Cursor) : Except Fault Cursor :=
  match c.rest with
  | [] => .error (c.faultHere .endInString)
  | found :: rest => if found = ch then .ok (c.past found rest) else .error (c.faultAhead .brokenSurrogatePair)

/-- The character of an escape by its number: one number, or two that form a pair of surrogates. -/
def readUnicode : Reader Char := fun c => do
  let (first, c) ← readHex c
  if 0xDC00 ≤ first ∧ first ≤ 0xDFFF then throw (c.faultHere .loneSurrogate)
  if first < 0xD800 ∨ 0xDBFF < first then return (Char.ofNat first, c)
  let c ← expectInPair '\\' c
  let c ← expectInPair 'u' c
  let (second, c) ← readHex c
  if second < 0xDC00 ∨ 0xDFFF < second then throw (c.faultHere .loneSurrogate)
  return (Char.ofNat ((first - 0xD800) * 1024 + (second - 0xDC00) + 0x10000), c)

/-- What follows a backslash. -/
def readEscape : Reader Char := fun c =>
  match c.rest with
  | [] => .error (c.faultHere .endInString)
  | 'u' :: rest => readUnicode (c.past 'u' rest)
  | ch :: rest =>
    match shortEscape? ch with
    | some decoded => .ok (decoded, c.past ch rest)
    | none => .error (c.faultAhead .badEscape)

/-- The characters up to the closing quote, behind those read already in reverse; every step takes at least one character of the
fuel. -/
def readTextFrom : Nat → List Char → Reader String
  | 0, _, c => .error (c.faultHere .endInString)
  | fuel + 1, done, c =>
    match c.rest with
    | [] => .error (c.faultHere .endInString)
    | '"' :: rest => .ok (String.ofList done.reverse, c.past '"' rest)
    | '\\' :: rest => do
      let (ch, c) ← readEscape (c.past '\\' rest)
      readTextFrom fuel (ch :: done) c
    | ch :: rest =>
      if ch.toNat < 32 then .error ((c.past ch rest).faultHere .controlInString)
      else readTextFrom fuel (ch :: done) (c.past ch rest)

/-- The string behind an opening quote. -/
def readText : Reader String := fun c => readTextFrom (c.rest.length + 1) [] c

/-- What follows a backslash, without its meaning. -/
def skipEscape (c : Cursor) : Except Fault Cursor :=
  match c.rest with
  | [] => .error (c.faultHere .endInString)
  | 'u' :: rest => (readHex (c.past 'u' rest)).map (·.2)
  | ch :: rest => if (shortEscape? ch).isSome then .ok (c.past ch rest) else .error (c.faultAhead .badEscape)

/-- The place behind the closing quote. -/
def skipTextFrom : Nat → Cursor → Except Fault Cursor
  | 0, c => .error (c.faultHere .endInString)
  | fuel + 1, c =>
    match c.rest with
    | [] => .error (c.faultHere .endInString)
    | '"' :: rest => .ok (c.past '"' rest)
    | '\\' :: rest => do skipTextFrom fuel (← skipEscape (c.past '\\' rest))
    | ch :: rest =>
      if ch.toNat < 32 then .error (c.faultHere .controlInString) else skipTextFrom fuel (c.past ch rest)

/-- The place behind the string that an opening quote started. -/
def skipText (c : Cursor) : Except Fault Cursor := skipTextFrom (c.rest.length + 1) c

end SchemaScript.Json
