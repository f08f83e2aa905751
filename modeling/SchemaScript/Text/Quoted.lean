import SchemaScript.Text.Hidden

/-!
# Text.Quoted: texts in double quotes

A quoted text shows every character that does not show by itself as an escape: the short forms for tab, line breaks, NUL,
quote and backslash, and the code point in hexadecimal for the others.
-/

namespace SchemaScript.Text

/-- A digit below sixteen, in lower case. -/
def hexDigit (n : Nat) : Char := Char.ofNat (if n < 10 then 48 + n else 87 + n)

/-- The hexadecimal digits of a number, without leading zeros. -/
def hexDigits (n : Nat) : List Char :=
  if n < 16 then [hexDigit n] else hexDigits (n / 16) ++ [hexDigit (n % 16)]

/-- One character between double quotes. -/
def quotedChar (c : Char) : List Char :=
  match c with
  | '\x00' => ['\\', '0']
  | '\t' => ['\\', 't']
  | '\r' => ['\\', 'r']
  | '\n' => ['\\', 'n']
  | '"' => ['\\', '"']
  | '\\' => ['\\', '\\']
  | c => if isHidden c then ['\\', 'u', '\x7b'] ++ hexDigits c.toNat ++ ['\x7d'] else [c]

/-- A text between double quotes. -/
def quoted (s : String) : String := String.ofList ('"' :: s.toList.flatMap quotedChar ++ ['"'])

/-- A text between double quotes in which single quotes are escaped as well. -/
def quotedTight (s : String) : String :=
  String.ofList ('"' :: s.toList.flatMap (fun c => if c = '\x27' then ['\\', '\x27'] else quotedChar c) ++ ['"'])

end SchemaScript.Text
