/-!
# Text.Lines: texts that end with a line break each

A generated script and the report of a command are lists of texts, each with a line break behind it. A text may hold breaks of its
own.
-/

namespace SchemaScript.Text

/-- Texts one after the other, each with a line break behind it. -/
def unlines (texts : List String) : String := String.join (texts.map (· ++ "\n"))

theorem unlines_nil : unlines [] = "" := by
  simp [unlines]

theorem unlines_cons (text : String) (texts : List String) : unlines (text :: texts) = text ++ "\n" ++ unlines texts := by
  simp [unlines]

/-- Texts in two parts have their breaks part by part. -/
theorem unlines_append (a b : List String) : unlines (a ++ b) = unlines a ++ unlines b := by
  simp [unlines]

end SchemaScript.Text
