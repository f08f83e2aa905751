import SchemaScript.Text.CaseTable

/-!
# Text.CaseMap: the lower and upper case of a text

Full case mapping: a letter may become several characters, and a capital sigma becomes the final form when it ends a word.
-/

namespace SchemaScript.Text

/-- The code point that a run sends `n` to, if the run holds `n`. -/
def CaseRun.image? (r : CaseRun) (n : Nat) : Option Nat :=
  if r.first ≤ n ∧ n ≤ r.last ∧ (n - r.first) % r.step = 0 then some ((n : Int) + r.shift).toNat else none

/-- The other case of a character by its table: an expansion, a run, or the character itself. -/
def mapCase (expansions : List (Nat × List Nat)) (runs : List CaseRun) (c : Char) : List Char :=
  match expansions.lookup c.toNat with
  | some ns => ns.map Char.ofNat
  | none => [((runs.findSome? (·.image? c.toNat)).map Char.ofNat).getD c]

/-- Whether a code point lies in one of some closed ranges. -/
def inRanges (ranges : List (Nat × Nat)) (c : Char) : Bool := ranges.any fun (lo, hi) => lo ≤ c.toNat && c.toNat ≤ hi

/-- Whether the next character that does not ignore case is cased. -/
def leadsToCased (cs : List Char) : Bool :=
  match cs.dropWhile (inRanges caseIgnorableRanges) with
  | [] => false
  | c :: _ => inRanges casedRanges c

/-- A capital sigma is written in its final form after a cased letter and before none. -/
def lowerSigma (before after : List Char) : Char :=
  if leadsToCased before && !leadsToCased after then 'ς' else 'σ'

/-- The lower case of `cs`, which follows the characters of `before` in reverse. -/
def lowerFrom (before : List Char) : List Char → List Char
  | [] => []
  | c :: cs =>
    (if c = 'Σ' then [lowerSigma before cs] else mapCase lowerExpansions lowerRuns c) ++ lowerFrom (c :: before) cs

/-- The lower case of a text. -/
def lowercase (s : String) : String := String.ofList (lowerFrom [] s.toList)

/-- The upper case of a text. -/
def uppercase (s : String) : String := String.ofList (s.toList.flatMap (mapCase upperExpansions upperRuns))

end SchemaScript.Text
