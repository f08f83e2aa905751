/-!
# Text.Blank: white space and trimming

`isBlank` is the Unicode property White_Space. `trim`, `trimStart` and `trimEnd` take blank characters off the ends of a
text and leave the inside alone. The algorithms work on `List Char`; `trimmed` and `allBlank` are their forms on `String`.
-/

namespace SchemaScript.Text

/-- The Unicode property White_Space. -/
def isBlank (c : Char) : Bool :=
  let n := c.toNat
  (9 ≤ n && n ≤ 13) || n == 32 || n == 0x85 || n == 0xA0 || n == 0x1680 || (0x2000 ≤ n && n ≤ 0x200A) ||
    n == 0x2028 || n == 0x2029 || n == 0x202F || n == 0x205F || n == 0x3000

/-- A text without its leading blanks. -/
def trimStart (cs : List Char) : List Char := cs.dropWhile isBlank

/-- A text without its trailing blanks. -/
def trimEnd (cs : List Char) : List Char := (cs.reverse.dropWhile isBlank).reverse

/-- A text without the blanks at either end. -/
def trim (cs : List Char) : List Char := trimEnd (trimStart cs)

/-- A string without the blanks at either end. -/
def trimmed (s : String) : String := String.ofList (trim s.toList)

/-- A string without its trailing blanks. -/
def trimmedEnd (s : String) : String := String.ofList (trimEnd s.toList)

/-- Whether a string holds nothing but blanks. -/
def allBlank (s : String) : Bool := s.toList.all isBlank

end SchemaScript.Text
