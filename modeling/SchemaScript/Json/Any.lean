import SchemaScript.Json.Reader
import SchemaScript.Json.Value

/-!
# Json.Any: reading a value of any shape

Unlike a value that is skipped, a value that is kept may not nest deeper than 127 brackets, and its numbers have to be in range.
-/

namespace SchemaScript.Json

/-- The number of brackets that may not be reached. -/
def depthLimit : Nat := 128

/-- The value of a number. -/
def Number.toValue : Number → Value
  | .integer value => .integer value
  | .float value => .float (Decimal.write floatStyle value)

mutual

/-- A value inside brackets that leave `depth` more; every step takes fuel. -/
def readAny : Nat → Nat → Reader Value
  | 0, _, c => .error (c.faultHere .endInValue)
  | fuel + 1, depth, c => do
    let c ← valueStart c
    match c.rest with
    | 'n' :: rest => return (.null, ← (c.past 'n' rest).keyword ['u', 'l', 'l'])
    | 't' :: rest => return (.flag true, ← (c.past 't' rest).keyword ['r', 'u', 'e'])
    | 'f' :: rest => return (.flag false, ← (c.past 'f' rest).keyword ['a', 'l', 's', 'e'])
    | '"' :: rest =>
      let (s, c) ← readText (c.past '"' rest)
      return (.text s, c)
    | '[' :: rest =>
      if depth ≤ 1 then throw (c.faultAhead .tooDeep)
      let (items, c) ← readAnyItems fuel (depth - 1) true (c.past '[' rest)
      return (.list items, ← expectClose .list c)
    | '\x7b' :: rest =>
      if depth ≤ 1 then throw (c.faultAhead .tooDeep)
      let (fields, c) ← readAnyFields fuel (depth - 1) true (c.past '\x7b' rest)
      return (.object fields, ← expectClose .object c)
    | ch :: _ =>
      if ch = '-' ∨ ch.isDigit then
        let (n, c) ← readNumber c
        return (n.toValue, c)
      else throw (c.faultAhead .noValue)
    | [] => throw (c.faultAhead .endInValue)

/-- The items of a list up to its closing bracket. -/
def readAnyItems : Nat → Nat → Bool → Reader (List Value)
  | 0, _, _, c => .error (c.faultHere .endInList)
  | fuel + 1, depth, first, c => do
    match ← nextItem? first c with
    | none => return ([], c.skipSpaces)
    | some c =>
      let (item, c) ← readAny fuel depth c
      let (items, c) ← readAnyItems fuel depth false c
      return (item :: items, c)

/-- The fields of an object up to its closing bracket. -/
def readAnyFields : Nat → Nat → Bool → Reader (List (String × Value))
  | 0, _, _, c => .error (c.faultHere .endInObject)
  | fuel + 1, depth, first, c => do
    match ← nextName? first c with
    | none => return ([], c.skipSpaces)
    | some c =>
      let (name, c) ← readText c
      let (value, c) ← readAny fuel depth (← expectColon c)
      let (fields, c) ← readAnyFields fuel depth false c
      return ((name, value) :: fields, c)

end

/-- The value that a text writes. -/
def Value.ofText (text : String) : Except Fault Value :=
  readDocument (readAny (2 * text.length + 2) depthLimit) text

end SchemaScript.Json
