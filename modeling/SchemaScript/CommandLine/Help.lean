import SchemaScript.CommandLine.Interface

/-!
# CommandLine.Help: the help of an interface

The help says what a command does, how it is used, and lists its commands, its operands and its flags. A list has two columns
unless some text would not fit beside the first one; then each text stands on a line of its own.
-/

namespace SchemaScript.CommandLine

/-- The width of a line. -/
def lineWidth : Nat := 100

/-- The blanks around the two columns of a list. -/
def columnMargin : Nat := 12

/-- The percentage of a line that the first column may take before long texts move to lines of their own. -/
def columnShare : Nat := 40

/-- One entry of a list: what is listed, what stands before it, and what it is for. -/
structure Row where
  lead : String
  head : String
  text : String
  deriving DecidableEq, Repr

/-- The first column of an entry. -/
def Row.label (r : Row) : String := r.lead ++ r.head

/-- A number of blanks. -/
def blanks (n : Nat) : String := String.ofList (List.replicate n ' ')

/-- Whether texts move to lines of their own beside heads of the given width. -/
def isTooWide (width : Nat) (rows : List Row) : Bool :=
  let taken := width + columnMargin
  taken ≤ lineWidth && taken * 100 > columnShare * lineWidth && rows.any fun r => r.text.length > lineWidth - taken

/-- A text whose lines after the first are indented. -/
def hanging (indent : Nat) (text : String) : String := ("\n" ++ blanks indent).intercalate (text.splitOn "\n")

/-- A list under a title. -/
def list (title : String) (rows : List Row) : String :=
  let widest := (rows.map (·.label.length)).foldl max 0
  let line (r : Row) : String :=
    if isTooWide ((rows.map (·.head.length)).foldl max 0) rows then
      "  " ++ r.label ++ "\n" ++ blanks 10 ++ hanging 10 r.text
    else "  " ++ r.label ++ blanks (widest + 2 - r.label.length) ++ hanging (widest + 4) r.text
  "\n".intercalate ((title ++ ":") :: rows.map line)

/-- The entry of a flag; its letter, if it has one, stands before its name. -/
def Flag.row (f : Flag) : Row :=
  ⟨match f.letter? with
    | some letter => "-" ++ letter.toString ++ ", "
    | none => "    ", f.shown, f.about⟩

namespace Interface

/-- The lists of the help. -/
def lists (i : Interface) : List String :=
  (if i.commands.isEmpty then [] else [list "Commands" (i.commands.map fun c => ⟨"", c.name, c.about⟩)]) ++
  (if i.operands.isEmpty then [] else [list "Arguments" (i.operands.map fun (name, about) => ⟨"", name, about⟩)]) ++
  (if i.flags.isEmpty then [] else [list "Options" (i.flags.map Flag.row)])

/-- The help of an interface. -/
def help (i : Interface) : String := "\n\n".intercalate (i.about :: i.usage :: i.lists) ++ "\n"

end Interface

end SchemaScript.CommandLine
