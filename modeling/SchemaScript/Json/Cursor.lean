import SchemaScript.Json.Fault

/-!
# Json.Cursor: a place in a text that is being read

A cursor holds the text that is still to be read and where that text starts: the line, from one, and the bytes of that line
that lie before it. A fault is placed either where the cursor stands or behind the first byte that follows.
-/

namespace SchemaScript.Json

/-- A place in a text and what follows it. -/
structure Cursor where
  rest : List Char
  line : Nat
  column : Nat
  deriving DecidableEq, Repr

/-- Something read from a text, and the place behind it. -/
abbrev Reader (α : Type) := Cursor → Except Fault (α × Cursor)

namespace Cursor

/-- The start of a text. -/
def start (text : List Char) : Cursor := ⟨text, 1, 0⟩

/-- The place behind a character. -/
def past (c : Cursor) (ch : Char) (rest : List Char) : Cursor :=
  if ch = '\n' then ⟨rest, c.line + 1, 0⟩ else ⟨rest, c.line, c.column + ch.utf8Size⟩

/-- The place behind the next character; the end of a text stays where it is. -/
def next (c : Cursor) : Cursor :=
  match c.rest with
  | [] => c
  | ch :: rest => c.past ch rest

/-- The next character. -/
def peek? (c : Cursor) : Option Char := c.rest.head?

/-- A fault where the cursor stands. -/
def faultHere (c : Cursor) (p : Problem) : Fault := ⟨p, c.line, c.column⟩

/-- A fault behind the next byte, or at the end of the text. -/
def faultAhead (c : Cursor) (p : Problem) : Fault :=
  match c.rest with
  | [] => ⟨p, c.line, c.column⟩
  | '\n' :: _ => ⟨p, c.line + 1, 0⟩
  | _ :: _ => ⟨p, c.line, c.column + 1⟩

/-- The blanks that may stand between tokens. -/
def isSpace (ch : Char) : Bool := ch == ' ' || ch == '\n' || ch == '\t' || ch == '\r'

/-- The place behind the blanks at the start of `cs`. -/
def skipSpacesFrom (c : Cursor) : List Char → Cursor
  | [] => { c with rest := [] }
  | ch :: rest => if isSpace ch then skipSpacesFrom (c.past ch rest) rest else { c with rest := ch :: rest }

/-- The place behind the blanks that follow. -/
def skipSpaces (c : Cursor) : Cursor := c.skipSpacesFrom c.rest

/-- The place a number of bytes ahead, counting from the start of `cs`; a place inside a character has what follows it. -/
def skipBytesFrom (c : Cursor) : List Char → Nat → Cursor
  | cs, 0 => { c with rest := cs }
  | [], _ + 1 => { c with rest := [] }
  | ch :: rest, n + 1 =>
    if ch.utf8Size ≤ n + 1 then skipBytesFrom (c.past ch rest) rest (n + 1 - ch.utf8Size)
    else ⟨rest, c.line, c.column + (n + 1)⟩

/-- The place behind the whole text. -/
def toEnd (c : Cursor) : Cursor := c.rest.foldl (fun c ch => c.past ch []) c

/-- The place behind the characters of a keyword, which must follow. -/
def keyword (c : Cursor) : List Char → Except Fault Cursor
  | [] => .ok c
  | ch :: word =>
    match c.rest with
    | [] => .error (c.faultHere .endInValue)
    | found :: rest => if found = ch then (c.past found rest).keyword word else .error (c.faultAhead .noKeyword)

end Cursor

end SchemaScript.Json
