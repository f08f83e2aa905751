/-!
# Text.Letters: comparison up to ASCII letter case

Keywords are recognised in any ASCII letter case and nothing more: letters outside ASCII must agree exactly.
`startsWithKeyword` cuts the text at the keyword's length in UTF-8 bytes; a text whose characters do not end there
does not start with the keyword.
-/

namespace SchemaScript.Text

/-- Two texts that differ at most in the case of ASCII letters. -/
def sameLetters (a b : List Char) : Bool := a.map Char.toLower == b.map Char.toLower

/-- Two strings that differ at most in the case of ASCII letters. -/
def equalsKeyword (text keyword : String) : Bool := sameLetters text.toList keyword.toList

/-- The number of UTF-8 bytes of a text. -/
def byteLength : List Char → Nat
  | [] => 0
  | c :: cs => c.utf8Size + byteLength cs

/-- The leading characters of a text that take exactly `n` bytes, if a character ends there. -/
def takeBytes? : List Char → Nat → Option (List Char)
  | _, 0 => some []
  | [], _ + 1 => none
  | c :: cs, n + 1 => if c.utf8Size ≤ n + 1 then (takeBytes? cs (n + 1 - c.utf8Size)).map (c :: ·) else none

/-- Whether the text, cut at the keyword's byte length, is the keyword up to ASCII letter case. -/
def startsWithLetters (text keyword : List Char) : Bool :=
  (takeBytes? text (byteLength keyword)).any (sameLetters · keyword)

/-- Whether a string starts with a keyword in any ASCII letter case. -/
def startsWithKeyword (text keyword : String) : Bool := startsWithLetters text.toList keyword.toList

end SchemaScript.Text
