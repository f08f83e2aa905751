import SchemaScript.Decimal.Shortest
import SchemaScript.Text.Digits
import SchemaScript.Yaml.Node

/-!
# Yaml.ScalarValue: what a scalar means

A plain scalar is nothing, a flag, an integer, a floating-point number or a text, by how it is spelled. Integers may be written in
four bases; digits behind a leading zero are text. A tag of the core types asks for one meaning.
-/

namespace SchemaScript.Yaml

/-- The spellings of nothing. -/
def isNull (text : String) : Bool := ["null", "Null", "NULL", "~"].contains text

/-- The flag of a text. -/
def flag? (text : String) : Option Bool :=
  if ["true", "True", "TRUE"].contains text then some true
  else if ["false", "False", "FALSE"].contains text then some false
  else none

/-- Whether a text starts with a sign. -/
def startsWithSign (cs : List Char) : Bool := cs.head?.any fun c => c == '+' || c == '-'

/-- A text without a plus sign in front. -/
def dropPlus : List Char → List Char
  | '+' :: cs => cs
  | cs => cs

/-- Whether a text is digits behind a leading zero, which make no number. -/
def hasLeadingZero (cs : List Char) : Bool :=
  match cs with
  | '+' :: '0' :: rest | '-' :: '0' :: rest | '0' :: rest => !rest.isEmpty && rest.all Char.isDigit
  | _ => false

/-- The number that digits of a base write, behind the number before them. -/
def digitsFrom? (base n : Nat) : List Char → Option Nat
  | [] => some n
  | c :: cs => (Text.hexValue? c).bind fun d => if d < base then digitsFrom? base (n * base + d) cs else none

/-- The number that at least one digit of a base writes. -/
def digits? (base : Nat) (cs : List Char) : Option Nat := if cs.isEmpty then none else digitsFrom? base 0 cs

/-- The number below a limit that a text without a sign writes. -/
def magnitude? (limit base : Nat) (cs : List Char) : Option Nat := (digits? base cs).filter (· < limit)

/-- The bases that a mark in front of the digits names, and the digits. -/
def marked? : List Char → Option (Nat × List Char)
  | '0' :: 'x' :: cs => some (16, cs)
  | '0' :: 'o' :: cs => some (8, cs)
  | '0' :: 'b' :: cs => some (2, cs)
  | _ => none

/-- The integer below a limit that a text writes without a minus sign. -/
def unsigned? (limit : Nat) (cs : List Char) : Option Nat :=
  let digits := dropPlus cs
  match marked? digits with
  | some (base, rest) => magnitude? limit base rest
  | none => if startsWithSign digits || hasLeadingZero cs then none else magnitude? limit 10 digits

/-- The integer with a minus sign whose magnitude is at most a limit. -/
def negative? (limit : Nat) : List Char → Option Int
  | '-' :: cs =>
    match marked? cs with
    | some (base, rest) => (magnitude? (limit + 1) base rest).map fun n => -(n : Int)
    | none => if hasLeadingZero ('-' :: cs) then none else (magnitude? (limit + 1) 10 cs).map fun n => -(n : Int)
  | _ => none

/-- The integer that a text writes, if it fits in 128 bits. -/
def integer? (text : String) : Option Found :=
  let cs := text.toList
  ((unsigned? (Nat.pow 2 64) cs).map fun n => Found.integer n) |>.or <|
  ((negative? (Nat.pow 2 63) cs).map Found.integer) |>.or <|
  ((unsigned? (Nat.pow 2 128) cs).map fun n => Found.wideInteger n "u128") |>.or <|
  (negative? (Nat.pow 2 127) cs).map fun n => Found.wideInteger n "i128"

/-! ### Floating-point numbers -/

/-- The parts of a number in decimal notation: its digits, how many of them are behind the point, and its power of ten. -/
structure DecimalParts where
  digits : List Char
  places : Nat
  power : Int

/-- The power of ten at the end of a number. -/
def power? : List Char → Option Int
  | [] => some 0
  | c :: cs =>
    if c = 'e' ∨ c = 'E' then
      match cs with
      | '-' :: rest => (Text.decimal? rest).map fun n => -(n : Int)
      | '+' :: rest => (Text.decimal? rest).map Int.ofNat
      | rest => (Text.decimal? rest).map Int.ofNat
    else none

/-- The parts of a number without a sign: digits on at least one side of the point. -/
def decimalParts? (cs : List Char) : Option DecimalParts :=
  let whole := cs.takeWhile Char.isDigit
  let rest := cs.dropWhile Char.isDigit
  let (fraction, rest) := match rest with
    | '.' :: rest => (rest.takeWhile Char.isDigit, rest.dropWhile Char.isDigit)
    | rest => ([], rest)
  if whole.isEmpty && fraction.isEmpty then none
  else (power? rest).map fun power => ⟨whole ++ fraction, fraction.length, power⟩

/-- The nearest double of a number, infinite when it is too large. -/
def DecimalParts.toFloat (p : DecimalParts) : Float :=
  let digits := p.digits.dropWhile (· == '0')
  let value := (Text.digitsFrom? 0 digits).getD 0
  let power := p.power - p.places
  if value = 0 ∨ (digits.length : Int) + power < -400 then 0.0
  else if (digits.length : Int) + power > 400 then 1.0 / 0.0
  else Float.ofScientific value (power < 0) power.natAbs

/-- The finite double that a text writes, with an optional sign. -/
def finiteFloat? (cs : List Char) : Option Float :=
  let (isNegative, digits) := match cs with
    | '-' :: rest => (true, rest)
    | '+' :: rest => (false, rest)
    | rest => (false, rest)
  (decimalParts? digits).bind fun p =>
    let f := p.toFloat
    if f.isFinite then some (if isNegative then -f else f) else none

/-- The double that a text writes: a decimal number, an infinity or no number. -/
def float? (text : String) : Option Float :=
  let cs := text.toList
  let unsigned := dropPlus cs
  if cs.head? = some '+' ∧ startsWithSign unsigned then none
  else if [".inf", ".Inf", ".INF"].contains (String.ofList unsigned) then some (1.0 / 0.0)
  else if ["-.inf", "-.Inf", "-.INF"].contains text then some (-1.0 / 0.0)
  else if [".nan", ".NaN", ".NAN"].contains text then some (0.0 / 0.0)
  else finiteFloat? unsigned

/-- Floating-point numbers are written in positional notation. -/
def floatStyle : Decimal.Style := ⟨fun _ => true, "inf", "NaN"⟩

/-- What a floating-point number is found as. -/
def foundFloat (f : Float) : Found := .float (Decimal.write floatStyle f)

/-! ### Scalars -/

/-- What a plain scalar without a tag means. -/
def plainMeaning (text : String) : Found :=
  if text = "" ∨ isNull text then .nothing "unit value"
  else match flag? text with
    | some b => .flag b
    | none =>
      match integer? text with
      | some n => n
      | none =>
        if hasLeadingZero text.toList then .text text
        else ((float? text).map foundFloat).getD (.text text)

/-- The tags of the core types. -/
def coreTag (name : String) : String := "tag:yaml.org,2002:" ++ name

/-- What a scalar means, or why it does not mean what its tag says. -/
def Scalar.meaning (s : Scalar) : Except Mismatch Found :=
  let asked (found? : Option Found) (expected : String) : Except Mismatch Found :=
    match found? with
    | some found => .ok found
    | none => .error (.wrongValue (.text s.text) expected)
  match s.tag? with
  | none => .ok (if s.style = .plain then plainMeaning s.text else .text s.text)
  | some tag =>
    if tag = coreTag "bool" then asked ((flag? s.text).map .flag) "a boolean"
    else if tag = coreTag "int" then asked (integer? s.text) "an integer"
    else if tag = coreTag "float" then asked ((float? s.text).map foundFloat) "a float"
    else if tag = coreTag "null" then asked (if isNull s.text then some (.nothing "unit value") else none) "null"
    else if tag.toList.head? = some '!' ∧ s.style = .plain then .ok (plainMeaning s.text)
    else .ok (.text s.text)

/-- Whether a scalar may be read as a core type: it is plain, or literal with the type's tag. -/
def Scalar.mayBe (s : Scalar) (name : String) : Bool :=
  s.style == .plain || (s.style == .literal && s.tag? == some (coreTag name))

end SchemaScript.Yaml
