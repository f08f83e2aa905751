/-!
# Text.Search: finding a piece of a text

Whether a text holds another, what stands before the last place of a character, the pieces between separators, and the
digits of a number.
-/

namespace SchemaScript.Text

/-- Whether `needle` occurs somewhere in a text. -/
def contains (needle : List Char) : List Char → Bool
  | [] => needle.isEmpty
  | c :: cs => needle.isPrefixOf (c :: cs) || contains needle cs

/-- What stands before the last occurrence of `c`; the whole text when there is none. -/
def beforeLast (c : Char) (cs : List Char) : List Char :=
  if c ∈ cs then (cs.reverse.dropWhile (· ≠ c)).tail.reverse else cs

/-- The pieces of a text between the places of a separator; a text without one is its only piece. -/
def splitOn (c : Char) : List Char → List (List Char)
  | [] => [[]]
  | d :: cs =>
    if d = c then [] :: splitOn c cs
    else match splitOn c cs with
      | [] => [[d]]
      | piece :: rest => (d :: piece) :: rest

/-- The string itself unless it is empty. -/
def nonEmpty? (s : String) : Option String := if s = "" then none else some s

end SchemaScript.Text
