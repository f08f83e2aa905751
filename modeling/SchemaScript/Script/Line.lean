/-!
# Script.Line: the lines of a text

A line ends at CR LF, at LF or at a lone CR. A break at the very end of the text starts no further line.
-/

namespace SchemaScript.Script

/-- The pieces of a text between its line breaks; a text without a break is its only piece. -/
def pieces : List Char → List (List Char)
  | [] => [[]]
  | '\r' :: '\n' :: cs => [] :: pieces cs
  | '\r' :: cs => [] :: pieces cs
  | '\n' :: cs => [] :: pieces cs
  | c :: cs =>
    match pieces cs with
    | [] => [[c]]
    | piece :: rest => (c :: piece) :: rest

/-- A text in reverse without the break that ends it, if one does. -/
def dropBreakReversed : List Char → List Char
  | '\n' :: '\r' :: cs => cs
  | '\n' :: cs => cs
  | '\r' :: cs => cs
  | cs => cs

/-- A text without the break that ends it, if one does. -/
def dropFinalBreak (cs : List Char) : List Char := (dropBreakReversed cs.reverse).reverse

/-- The lines of a text, without their breaks. -/
def lines (cs : List Char) : List (List Char) := pieces (dropFinalBreak cs)

end SchemaScript.Script
