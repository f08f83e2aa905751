/-!
# Decimal.Shortest: the fewest digits that read back

A finite binary floating-point number is `significand * 2 ^ exponent`. The numbers that round to it form an interval, with its
ends exactly when the significand is even. `shortest` finds the decimal number with the fewest digits in that interval, and of
those the nearest: for one digit, two digits and so on it tries the two neighbours of the number on the decimal grid, in exact
arithmetic.
-/

namespace SchemaScript.Decimal

/-- A positive binary floating-point number. -/
structure Binary where
  significand : Nat
  exponent : Int
  /-- Whether the next smaller number is only half as far away as the next larger one. -/
  narrowBelow : Bool

/-- A decimal number: `digits * 10 ^ exponent`. -/
structure Scaled where
  digits : Nat
  exponent : Int
  deriving DecidableEq, Repr

/-- The sign, the magnitude and the kind of a floating-point number. -/
inductive Decoded
  | notNumber
  | infinite (negative : Bool)
  | zero (negative : Bool)
  | finite (negative : Bool) (magnitude : Binary)

/-- The parts of a double. -/
def decode (f : Float) : Decoded :=
  let bits : Nat := f.toBits.toNat
  let negative := bits / Nat.pow 2 63 == 1
  let biased : Nat := bits / Nat.pow 2 52 % Nat.pow 2 11
  let fraction : Nat := bits % Nat.pow 2 52
  if biased = 2047 then if fraction = 0 then .infinite negative else .notNumber
  else if biased = 0 then if fraction = 0 then .zero negative else .finite negative ⟨fraction, -1074, false⟩
  else .finite negative ⟨Nat.pow 2 52 + fraction, (biased : Int) - 1075, fraction == 0 && biased > 1⟩

/-- The number of decimal digits of a natural number; zero has none. -/
def digitCount (n : Nat) : Nat := if n = 0 then 0 else digitCount (n / 10) + 1

namespace Binary

/-- `v * 2 ^ (exponent - 2)` as a fraction: quarters of a unit in the last place. -/
def quarters (b : Binary) (v : Nat) : Nat × Nat :=
  (v * Nat.pow 2 (b.exponent - 2).toNat, Nat.pow 2 (2 - b.exponent).toNat)

/-- The power of ten above the number: it is less than `10 ^ magnitude` and at least a tenth of that. -/
def magnitude (b : Binary) : Int :=
  let (num, den) := b.quarters (4 * b.significand)
  (digitCount (num * Nat.pow 10 350 / den) : Int) - 350

/-- Whether `c * 10 ^ e` rounds to the number. -/
def accepts (b : Binary) (c : Nat) (e : Int) : Bool :=
  let (lo, den) := b.quarters (4 * b.significand - if b.narrowBelow then 1 else 2)
  let (hi, _) := b.quarters (4 * b.significand + 2)
  let here := c * Nat.pow 10 e.toNat * den
  let scale := Nat.pow 10 (-e).toNat
  if b.significand % 2 = 0 then lo * scale ≤ here && here ≤ hi * scale else lo * scale < here && here < hi * scale

/-- The nearest of the two neighbours on the grid of `10 ^ e` that rounds to the number, if one does; the even one at a tie. -/
def onGrid? (b : Binary) (e : Int) : Option Scaled :=
  let (num, den) := b.quarters (4 * b.significand)
  let top := num * Nat.pow 10 (-e).toNat
  let bottom := den * Nat.pow 10 e.toNat
  let below := top / bottom
  let rest := top % bottom
  let nearer := if 2 * rest < bottom ∨ (2 * rest = bottom ∧ below % 2 = 0) then below else below + 1
  let farther := if nearer = below then below + 1 else below
  if b.accepts nearer e then some ⟨nearer, e⟩ else if b.accepts farther e then some ⟨farther, e⟩ else none

end Binary

namespace Scaled

/-- A decimal number without zeros at the end of its digits; the fuel bounds how many are dropped. -/
def dropZeros : Nat → Scaled → Scaled
  | 0, d => d
  | n + 1, d => if d.digits ≠ 0 ∧ d.digits % 10 = 0 then dropZeros n ⟨d.digits / 10, d.exponent + 1⟩ else d

end Scaled

/-- The decimal number with the fewest digits that rounds to a binary one. -/
def shortest (b : Binary) : Scaled :=
  let top := b.magnitude
  match (List.range 17).findSome? fun (n : Nat) => b.onGrid? (top - (n + 1 : Nat)) with
  | some d => d.dropZeros 20
  | none => ⟨0, 0⟩

/-- The digits of a decimal number in positional notation, with at least one digit on either side of the point. -/
def positional (d : Scaled) : String :=
  let digits := toString d.digits
  let count : Int := digits.length
  if d.exponent ≥ 0 then digits ++ String.ofList (List.replicate d.exponent.toNat '0') ++ ".0"
  else if count + d.exponent > 0 then
    let whole := (count + d.exponent).toNat
    String.ofList (digits.toList.take whole) ++ "." ++ String.ofList (digits.toList.drop whole)
  else "0." ++ String.ofList (List.replicate (-(count + d.exponent)).toNat '0') ++ digits

/-- The digits of a decimal number with one digit before the point and a power of ten behind; the power carries its sign. -/
def scientific (d : Scaled) : String :=
  let digits := (toString d.digits).toList
  let power : Int := digits.length + d.exponent - 1
  String.ofList (digits.take 1) ++ (if digits.length > 1 then "." ++ String.ofList (digits.drop 1) else "") ++
    "e" ++ (if power < 0 then "-" else "+") ++ toString power.natAbs

/-- How a format writes its floating-point numbers: which decimal numbers are positional, and the words for the rest. -/
structure Style where
  isPositional : Scaled → Bool
  infinity : String
  notNumber : String

/-- A floating-point number in a style. -/
def write (s : Style) (f : Float) : String :=
  let sign (negative : Bool) := if negative then "-" else ""
  match decode f with
  | .notNumber => s.notNumber
  | .infinite negative => sign negative ++ s.infinity
  | .zero negative => sign negative ++ "0.0"
  | .finite negative magnitude =>
    let d := shortest magnitude
    sign negative ++ if s.isPositional d then positional d else scientific d

end SchemaScript.Decimal
