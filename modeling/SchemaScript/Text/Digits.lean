/-!
# Text.Digits: numbers in decimal digits

Reading a text of ASCII digits and nothing else.
-/

namespace SchemaScript.Text

/-- The value of an ASCII digit. -/
def digitValue? (c : Char) : Option Nat := if c.isDigit then some (c.toNat - 48) else none

/-- The number that some digits write, given the number before them; other characters are refused. -/
def digitsFrom? (n : Nat) : List Char → Option Nat
  | [] => some n
  | c :: cs => (digitValue? c).bind fun d => digitsFrom? (10 * n + d) cs

/-- The number that a text of at least one ASCII digit writes. -/
def decimal? (cs : List Char) : Option Nat := if cs.isEmpty then none else digitsFrom? 0 cs

/-- The value of a hexadecimal digit in either case. -/
def hexValue? (c : Char) : Option Nat :=
  if c.isDigit then some (c.toNat - 48)
  else if 'a' ≤ c ∧ c ≤ 'f' then some (c.toNat - 87)
  else if 'A' ≤ c ∧ c ≤ 'F' then some (c.toNat - 55)
  else none

end SchemaScript.Text
