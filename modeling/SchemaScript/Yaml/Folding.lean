import SchemaScript.Yaml.Spot

/-!
# Yaml.Folding: text that runs over lines

Between two words of a scalar there may be blanks and line breaks. Blanks within a line are kept; a single line break becomes a
space, and further breaks are kept.
-/

namespace SchemaScript.Yaml

/-- What stands between two words: the blanks, or the first line break and those behind it. -/
structure Gap where
  blanks : List Char
  firstBreak : List Char
  moreBreaks : List Char
  /-- Whether a line ended in the gap. -/
  broken : Bool
  deriving DecidableEq, Repr

namespace Gap

/-- Nothing between two words. -/
def none : Gap := ⟨[], [], [], false⟩

/-- Line breaks folded: the first becomes a space unless more follow, and a separator is kept. -/
def fold (firstBreak moreBreaks : List Char) : List Char :=
  if firstBreak = ['\n'] then (if moreBreaks.isEmpty then [' '] else moreBreaks) else firstBreak ++ moreBreaks

/-- The text that a gap stands for. -/
def text (g : Gap) : List Char := if g.broken then fold g.firstBreak g.moreBreaks else g.blanks

/-- Read the blanks and line breaks that follow. In a gap that runs over lines, a tab before column `least` is refused; the fuel
bounds the characters read. -/
def readFrom (least : Nat) : Nat → Gap → Spot → Except Fault (Gap × Spot)
  | 0, g, s => .ok (g, s)
  | fuel + 1, g, s =>
    match s.peek? with
    | Option.none => .ok (g, s)
    | some c =>
      if isBlank c then
        if g.broken then
          if c = '\t' ∧ s.mark.column < least then .error (s.fault .badPlainScalar) else readFrom least fuel g s.next
        else readFrom least fuel { g with blanks := g.blanks ++ [c] } s.next
      else if isBreak c then
        if g.broken then readFrom least fuel { g with moreBreaks := g.moreBreaks ++ s.lineBreak } s.nextLine
        else readFrom least fuel ⟨[], s.lineBreak, g.moreBreaks, true⟩ s.nextLine
      else .ok (g, s)

/-- Read the blanks and line breaks that follow, behind a gap that has begun. -/
def read (least : Nat) (begun : Gap) (s : Spot) : Except Fault (Gap × Spot) := readFrom least (s.rest.length + 1) begun s

end Gap

end SchemaScript.Yaml
