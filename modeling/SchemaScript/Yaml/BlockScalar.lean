import SchemaScript.Text.Digits
import SchemaScript.Yaml.Spot

/-!
# Yaml.BlockScalar: scalars of whole lines

A literal scalar keeps its line breaks; a folded one joins lines that neither start with a blank nor follow an empty line. The
header may give the indentation and say what becomes of the breaks at the end: all dropped, all kept, or only the first kept.
-/

namespace SchemaScript.Yaml.BlockScalar

/-- What becomes of the line breaks at the end. -/
inductive Chomping
  | clip
  | strip
  | keep
  deriving DecidableEq, Repr

/-- What a header says: the chomping and the indentation, if it gives one. -/
structure Header where
  chomping : Chomping
  increment? : Option Nat
  deriving DecidableEq, Repr

/-- The chomping that a character stands for. -/
def chomping? : Char → Option Chomping
  | '+' => some .keep
  | '-' => some .strip
  | _ => none

/-- An indentation indicator, if one stands at the place; zero is refused. -/
def readIncrement (s : Spot) : Except Fault (Option Nat × Spot) :=
  match s.peek?.bind Text.digitValue? with
  | none => .ok (none, s)
  | some 0 => .error (s.fault .badBlockScalar)
  | some n => .ok (some n, s.next)

/-- A chomping indicator, if one stands at the place. -/
def readChomping (s : Spot) : Option Chomping × Spot :=
  match s.peek?.bind chomping? with
  | none => (none, s)
  | some c => (some c, s.next)

/-- The header behind the indicator, up to the end of its line. -/
def readHeader (s : Spot) : Except Fault (Header × Spot) := do
  let (chomping, s) := readChomping s
  let (increment?, s) ← readIncrement s
  let (chomping, s) := if chomping.isNone && increment?.isSome then readChomping s else (chomping, s)
  let s := s.skipWhile isBlank
  let s := if s.sees '#' then s.skipWhile (!isBreak ·) else s
  if !endsLine s.peek? then throw (s.fault .badBlockScalar)
  return (⟨chomping.getD .clip, increment?⟩, s.nextLine)

/-- The empty lines that were read: their breaks, the place behind the last of them, and the widest indentation. -/
structure Breaks where
  text : List Char
  stop : Mark
  widest : Nat
  deriving DecidableEq, Repr

/-- Read empty lines and the indentation of the line behind them; `indent` is zero while it is not known. -/
def breaksFrom (indent : Nat) : Nat → Breaks → Spot → Except Fault (Breaks × Spot)
  | 0, b, s => .ok (b, s)
  | fuel + 1, b, s =>
    let isIndent (column : Nat) : Bool := indent == 0 || column < indent
    let width := (s.rest.takeWhile (· == ' ')).length
    let s := s.skip (if indent = 0 then width else min width (indent - s.mark.column))
    let b := { b with widest := max b.widest s.mark.column }
    if isIndent s.mark.column && s.sees '\t' then .error (s.fault .badBlockScalar)
    else if s.seesAny isBreak then
      breaksFrom indent fuel { b with text := b.text ++ s.lineBreak, stop := s.nextLine.mark } s.nextLine
    else .ok (b, s)

/-- Read empty lines; behind them the indentation is known: the widest seen, and more than that of the collection around. -/
def readBreaks (outer : Int) (indent : Nat) (s : Spot) : Except Fault (Breaks × Nat × Spot) := do
  let (b, s) ← breaksFrom indent (s.rest.length + 1) ⟨[], s.mark, 0⟩ s
  let found := max (max b.widest (outer + 1).toNat) 1
  return (b, if indent = 0 then found else indent, s)

/-- A block scalar as far as it is read: its text, the break of its last line, the breaks of the empty lines behind that, and
whether its last line starts with a blank. -/
structure Body where
  text : List Char
  lastBreak : List Char
  emptyLines : List Char
  afterBlank : Bool
  deriving DecidableEq, Repr

namespace Body

/-- The text with the breaks before the next line, which starts with a blank or not. -/
def join (b : Body) (folded startsBlank : Bool) : List Char :=
  if folded && b.lastBreak == ['\n'] && !b.afterBlank && !startsBlank then
    b.text ++ (if b.emptyLines.isEmpty then [' '] else []) ++ b.emptyLines
  else b.text ++ b.lastBreak ++ b.emptyLines

/-- The text with the breaks at the end chomped. -/
def chomp (b : Body) : Chomping → List Char
  | .strip => b.text
  | .clip => b.text ++ b.lastBreak
  | .keep => b.text ++ b.lastBreak ++ b.emptyLines

end Body

/-- Read lines while they stand at the indentation. -/
def linesFrom (folded : Bool) (outer : Int) (indent : Nat) : Nat → Body → Mark → Spot → Except Fault (Body × Mark × Spot)
  | 0, b, stop, s => .ok (b, stop, s)
  | fuel + 1, b, stop, s =>
    if s.mark.column ≠ indent ∨ s.rest.isEmpty then .ok (b, stop, s)
    else do
      let startsBlank := s.seesAny isBlank
      let text := b.join folded startsBlank
      let (line, s) := s.span (!isBreak ·)
      let lastBreak := s.lineBreak
      let (breaks, _, s) ← readBreaks outer indent s.nextLine
      linesFrom folded outer indent fuel ⟨text ++ line, lastBreak, breaks.text, startsBlank⟩ breaks.stop s

/-- Read a block scalar, whose indicator stands at the place: its text, the place behind it, and what follows. -/
def read (folded : Bool) (outer : Int) (s : Spot) : Except Fault (List Char × Mark × Spot) := do
  let (header, s) ← readHeader s.next
  let indent := match header.increment? with
    | none => 0
    | some n => if outer ≥ 0 then outer.toNat + n else n
  let (breaks, indent, s) ← readBreaks outer indent s
  let (body, stop, s) ← linesFrom folded outer indent (s.rest.length + 1) ⟨[], [], breaks.text, false⟩ breaks.stop s
  return (body.chomp header.chomping, stop, s)

end SchemaScript.Yaml.BlockScalar
