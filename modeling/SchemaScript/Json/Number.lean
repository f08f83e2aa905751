import SchemaScript.Decimal.Shortest
import SchemaScript.Json.Cursor
import SchemaScript.Text.Digits

/-!
# Json.Number: numbers

Integers are exact while their magnitude fits in 64 bits. Longer ones, and numbers with a point or an exponent, become
floating-point: the leading digits that fit in 64 bits as an integer, times or divided by a power of ten in one step.
`skipNumber` only checks the form.
-/

namespace SchemaScript.Json

/-- A number: exact or floating-point. -/
inductive Number
  | integer (value : Int)
  | float (value : Float)

/-- The number of digits before the point of a decimal number; negative for zeros behind the point. -/
def pointPlace (d : Decimal.Scaled) : Int := Decimal.digitCount d.digits + d.exponent

/-- Floating-point numbers with up to sixteen digits before the point, or fewer than five zeros behind it, are positional. -/
def floatStyle : Decimal.Style where
  isPositional d := -5 < pointPlace d && pointPlace d ≤ 16
  infinity := "inf"
  notNumber := "NaN"

namespace Number

/-- How a reader names a number that it found. -/
def found : Number → Found
  | integer value => .integer value
  | float value => .float (Decimal.write floatStyle value)

end Number

/-- A digit at the start of a text. -/
def leadingDigit? (c : Cursor) : Option Nat := c.peek?.bind Text.digitValue?

/-- The place behind the digits that follow, and how many there are. -/
def skipDigitsFrom (c : Cursor) (count : Nat) : List Char → Cursor × Nat
  | [] => ({ c with rest := [] }, count)
  | ch :: rest =>
    if ch.isDigit then skipDigitsFrom (c.past ch rest) (count + 1) rest else ({ c with rest := ch :: rest }, count)

/-- The place behind the digits that follow, and how many there are. -/
def skipDigits (c : Cursor) : Cursor × Nat := skipDigitsFrom c 0 c.rest

/-- The digits gathered so far, the digits that no longer fit counted, and the place behind them. -/
structure Digits where
  value : Nat
  /-- How many digits were added to the value. -/
  taken : Nat
  /-- How many digits no longer fitted. -/
  dropped : Nat
  place : Cursor

/-- Add the digits that follow to a value while it stays below `2 ^ 64`; once one does not fit, only count them. -/
def gatherDigits (d : Digits) : List Char → Digits
  | [] => { d with place := { d.place with rest := [] } }
  | ch :: rest =>
    match Text.digitValue? ch with
    | none => { d with place := { d.place with rest := ch :: rest } }
    | some digit =>
      let place := d.place.past ch rest
      if d.dropped > 0 ∨ d.value * 10 + digit ≥ Nat.pow 2 64 then
        gatherDigits { d with dropped := d.dropped + 1, place := place } rest
      else gatherDigits { d with value := d.value * 10 + digit, taken := d.taken + 1, place := place } rest

/-- The digits that follow a value. -/
def digitsAfter (value : Nat) (c : Cursor) : Digits := gatherDigits ⟨value, 0, 0, c⟩ c.rest

/-- A power of ten as a double, up to the largest one there is. -/
def powerOfTen (n : Nat) : Float := Float.ofScientific 1 false n

/-- Scale by a power of ten: multiply or divide once, after dividing by `10 ^ 308` while the power is too small for that. -/
def scale (f : Float) : Nat → Int → Option Float
  | 0, _ => some f
  | fuel + 1, e =>
    if e.natAbs ≤ 308 then
      if e ≥ 0 then
        let g := f * powerOfTen e.natAbs
        if g.isInf then none else some g
      else some (f / powerOfTen e.natAbs)
    else if f == 0.0 then some f
    else if e ≥ 0 then none
    else scale (f / powerOfTen 308) fuel (e + 308)

/-- A floating-point number by its digits and its power of ten, read up to `c`. -/
def makeFloat (negative : Bool) (value : Nat) (e : Int) (c : Cursor) : Except Fault (Number × Cursor) :=
  match scale value.toUInt64.toFloat 8 e with
  | some f => .ok (.float (if negative then -f else f), c)
  | none => .error (c.faultHere .numberTooLarge)

/-- The largest exponent that is still counted. -/
def exponentLimit : Nat := Nat.pow 2 31 - 1

/-- The digits of an exponent while they stay within the limit; `none` once they do not, with the place behind the digit that
was too much. -/
def exponentDigits (value : Nat) (c : Cursor) : List Char → Option Nat × Cursor
  | [] => (some value, { c with rest := [] })
  | ch :: rest =>
    match Text.digitValue? ch with
    | none => (some value, { c with rest := ch :: rest })
    | some digit =>
      if value * 10 + digit > exponentLimit then (none, c.past ch rest)
      else exponentDigits (value * 10 + digit) (c.past ch rest) rest

/-- The sign of an exponent, if one stands there. -/
def exponentSign (c : Cursor) : Bool × Cursor :=
  match c.peek? with
  | some '+' => (false, c.next)
  | some '-' => (true, c.next)
  | _ => (false, c)

/-- The exponent of a number whose digits are read; `c` stands at its letter. -/
def readExponent (negative : Bool) (value : Nat) (e : Int) (c : Cursor) : Except Fault (Number × Cursor) :=
  let (below, c) := exponentSign c.next
  match c.peek? with
  | none => .error (c.faultHere .endInValue)
  | some ch =>
    match Text.digitValue? ch with
    | none => .error (c.faultAhead .badNumber)
    | some digit =>
      match exponentDigits digit c.next c.next.rest with
      | (some power, c) => makeFloat negative value (if below then e - power else e + power) c
      | (none, c) =>
        if value ≠ 0 ∧ !below then .error (c.faultHere .numberTooLarge)
        else .ok (.float (if negative then -0.0 else 0.0), (skipDigits c).1)

/-- What follows the digits of a number that has a point or an exponent. -/
def readPower (negative : Bool) (value : Nat) (e : Int) (c : Cursor) : Except Fault (Number × Cursor) :=
  match c.peek? with
  | some 'e' | some 'E' => readExponent negative value e c
  | _ => makeFloat negative value e c

/-- The digits behind a point; `c` stands at the point. -/
def readFraction (negative : Bool) (value : Nat) (e : Int) (c : Cursor) : Except Fault (Number × Cursor) :=
  let d := digitsAfter value c.next
  if d.taken = 0 ∧ d.dropped = 0 then
    .error (if d.place.rest.isEmpty then d.place.faultHere .endInValue else d.place.faultAhead .badNumber)
  else readPower negative d.value (e - d.taken) d.place

/-- What follows the digits before the point: `dropped` of them did not fit. -/
def readTail (negative : Bool) (value dropped : Nat) (c : Cursor) : Except Fault (Number × Cursor) :=
  match c.peek? with
  | some '.' => readFraction negative value dropped c
  | some 'e' | some 'E' => readExponent negative value dropped c
  | _ =>
    if dropped > 0 then makeFloat negative value dropped c
    else if negative then
      if value = 0 ∨ value > Nat.pow 2 63 then .ok (.float (-value.toUInt64.toFloat), c) else .ok (.integer (-(value : Int)), c)
    else .ok (.integer value, c)

/-- The digits of a number, behind its sign. -/
def readDigits (negative : Bool) (c : Cursor) : Except Fault (Number × Cursor) :=
  match c.peek? with
  | none => .error (c.faultHere .endInValue)
  | some '0' =>
    if (leadingDigit? c.next).isSome then .error (c.next.faultAhead .badNumber) else readTail negative 0 0 c.next
  | some ch =>
    match Text.digitValue? ch with
    | none => .error (c.faultAhead .badNumber)
    | some digit =>
      let d := digitsAfter digit c.next
      readTail negative d.value d.dropped d.place

/-- A number; `c` stands at its sign or first digit. -/
def readNumber : Reader Number := fun c =>
  if c.peek? = some '-' then readDigits true c.next else readDigits false c

/-- The form of an exponent; `c` stands at its letter. -/
def skipExponent (c : Cursor) : Except Fault Cursor :=
  let (_, c) := exponentSign c.next
  if (leadingDigit? c).isSome then .ok (skipDigits c).1 else .error (c.faultAhead .badNumber)

/-- What may follow the digits of a number: nothing more, or an exponent. -/
def skipPower (c : Cursor) : Except Fault Cursor :=
  match c.peek? with
  | some 'e' | some 'E' => skipExponent c
  | _ => .ok c

/-- What may follow the digits before the point. -/
def skipTail (c : Cursor) : Except Fault Cursor :=
  match c.peek? with
  | some '.' =>
    let (c, count) := skipDigits c.next
    if count = 0 then .error (c.faultAhead .badNumber) else skipPower c
  | _ => skipPower c

/-- The form of a number behind its sign. -/
def skipUnsigned (c : Cursor) : Except Fault Cursor :=
  match leadingDigit? c with
  | none => .error (c.faultAhead .badNumber)
  | some 0 => if (leadingDigit? c.next).isSome then .error (c.next.faultAhead .badNumber) else skipTail c.next
  | some _ => skipTail (skipDigits c).1

/-- The place behind a number whose form is right; `c` stands at its sign or first digit. -/
def skipNumber (c : Cursor) : Except Fault Cursor :=
  if c.peek? = some '-' then skipUnsigned c.next else skipUnsigned c

end SchemaScript.Json
