import SchemaScript.Decimal.Shortest

/-!
# Decimal.Fixed: a number of places

A floating-point number with a given number of digits behind the point. The exact binary value is rounded to the nearest, and
a tie goes to the even neighbour.
-/

namespace SchemaScript.Decimal

/-- A quotient rounded to the nearest integer, a tie to the even one. -/
def roundDiv (num den : Nat) : Nat :=
  let below := num / den
  let rest := num % den
  if 2 * rest < den ∨ (2 * rest = den ∧ below % 2 = 0) then below else below + 1

/-- The digits of `n` units of `10 ^ -places`. -/
def placed (n places : Nat) : String :=
  let digits := (toString n).toList
  let padded := List.replicate (places + 1 - digits.length) '0' ++ digits
  let whole := padded.length - places
  String.ofList (padded.take whole) ++ (if places = 0 then "" else "." ++ String.ofList (padded.drop whole))

/-- A floating-point number with a number of digits behind the point. -/
def fixed (places : Nat) (f : Float) : String :=
  match decode f with
  | .notNumber => "NaN"
  | .infinite negative => (if negative then "-" else "") ++ "inf"
  | .zero negative => (if negative then "-" else "") ++ placed 0 places
  | .finite negative b =>
    let (num, den) := b.quarters (4 * b.significand)
    (if negative then "-" else "") ++ placed (roundDiv (num * Nat.pow 10 places) den) places

end SchemaScript.Decimal
