/-!
# Text.Similar: which words look alike

The similarity of two texts lies between 0 and 1. Equal characters of the two match when they are not further apart than half of
the longer text; the similarity is the mean of the share of matches in the one text, their share in the other, and the share of
the matches that stand in the same order in both.
-/

namespace SchemaScript.Text

/-- How far apart the places of two matching characters may be, in texts of the given lengths. -/
def matchReach (m n : Nat) : Nat := max m n / 2 - 1

/-- The first place of `c` in `b` that was not taken yet and is within reach of place `i`. -/
def freePlace? (b : List Char) (reach : Nat) (taken : List Nat) (c : Char) (i : Nat) : Option Nat :=
  (b.zipIdx.find? fun (d, j) => d = c && i ≤ j + reach && j ≤ i + reach && j ∉ taken).map (·.2)

/-- The characters of `a` that have a match in `b`, each with the place of its match, in the order of `a`. -/
def matchesIn (b a : List Char) : List (Char × Nat) :=
  a.zipIdx.foldl (fun found (c, i) =>
    match freePlace? b (matchReach a.length b.length) (found.map (·.2)) c i with
    | some j => found ++ [(c, j)]
    | none => found) []

/-- A share of a number of characters. -/
def share (m n : Nat) : Float := m.toFloat / n.toFloat

/-- How similar two texts are. -/
def similarity (a b : List Char) : Float :=
  if a.isEmpty && b.isEmpty then 1
  else
    let found := matchesIn b a
    let places := found.map (·.2)
    let inOrder := (b.zipIdx.filter fun (_, j) => j ∈ places).map (·.1)
    let swaps := ((found.map (·.1)).zip inOrder).countP (fun (c, d) => c ≠ d) / 2
    if found.isEmpty then 0
    else (share found.length a.length + share found.length b.length + share (found.length - swaps) found.length) / 3.0

/-- The similarity that two words exceed when one may be meant by the other. -/
def similarityBound : Float := 0.7

/-- A word put among ranked words: behind those that rank no higher. -/
def insertRanked (rank : Float) (word : String) : List (Float × String) → List (Float × String)
  | [] => [(rank, word)]
  | (r, w) :: rest => if r > rank then (rank, word) :: (r, w) :: rest else (r, w) :: insertRanked rank word rest

/-- The words that may be meant by a word, the most similar last. -/
def similarWords (word : String) (candidates : List String) : List String :=
  (candidates.foldl (fun ranked candidate =>
    let rank := similarity word.toList candidate.toList
    if rank > similarityBound then insertRanked rank candidate ranked else ranked) []).map (·.2)

end SchemaScript.Text
