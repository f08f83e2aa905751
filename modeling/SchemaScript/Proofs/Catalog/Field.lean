import SchemaScript.Catalog.Field
import SchemaScript.Proofs.Script.Run
import SchemaScript.Proofs.Text.Digits

/-!
# Types of fields at the ends of their ranges

Every kind of type has its code (`FieldKind.ofCode?_eq_some_iff`), and a field is written as one of a few fixed types or with a number
that comes of its words (`Field.sql_cases`). The number is exact: dividing a length and negating a scale stay in their ranges
(`Field.words_exact`), and what is printed is read back. No type holds a character that could end a line or a statement
(`Field.isTypeChar_of_mem_sql`), so a decoded type never ends a statement early (`Field.sql_is_exact`).
-/

namespace SchemaScript.Catalog

open Text

/-- The code of a kind. -/
def FieldKind.code : FieldKind → Int
  | smallInt => 7
  | integer => 8
  | float => 10
  | date => 12
  | time => 13
  | char => 14
  | int64 => 16
  | double => 27
  | timestamp => 35
  | varchar => 37
  | blob => 261

/-- A code stands for the kind whose code it is, if there is one. -/
theorem FieldKind.ofCode?_eq_some_iff {code : Int16} {kind : FieldKind} : ofCode? code = some kind ↔ code.toInt = kind.code := by
  constructor
  · intro h
    rw [ofCode?] at h
    split at h <;> cases h <;> assumption
  · intro h
    cases kind <;> rw [ofCode?, h] <;> rfl

namespace Field

variable {f g : Field}

/-! ## Fields with a number -/

/-- The families of types that are written with a number of the field. -/
inductive Family
  | char
  | varchar
  | numeric
  | decimal
  deriving DecidableEq, Repr

/-- The fields of a family, by their code and sub type; a missing sub type counts as zero. -/
def Family.Holds (family : Family) (f : Field) : Prop :=
  match family with
  | .char => f.code = 14
  | .varchar => f.code = 37
  | .numeric => f.code = 16 ∧ f.subType?.getD 0 = 1
  | .decimal => f.code = 16 ∧ f.subType?.getD 0 = 2

/-- What stands in front of the number. -/
def Family.opening : Family → String
  | char => "CHAR("
  | varchar => "VARCHAR("
  | numeric => "NUMERIC(18, "
  | decimal => "DECIMAL(18, "

/-- The number of a field: a quarter of its length without the rest, or its scale with the other sign. -/
def Family.number (family : Family) (f : Field) : Int :=
  match family with
  | .char | .varchar => f.length.toInt.tdiv 4
  | .numeric | .decimal => -f.scale.toInt

/-- The types that are written without a number of the field. -/
def plainTypes : List String :=
  [fallbackType, "SMALLINT", "INTEGER", "FLOAT", "DATE", "TIME", "BIGINT", "DOUBLE PRECISION", "TIMESTAMP", "BLOB SUB_TYPE TEXT"]

/-- The words of a field are the numbers that they stand for: a length of 16 bits divided by four, and a scale of 16 bits negated in
32 bits. -/
theorem words_exact (f : Field) :
    f.characters.toInt = f.length.toInt.tdiv 4 ∧ f.places.toInt = -f.scale.toInt := by
  have hlo := f.scale.le_toInt
  have hhi := f.scale.toInt_lt
  refine ⟨Int16.toInt_div_of_ne_right f.length 4 (by decide), ?_⟩
  rw [places, Int32.toInt_neg, Int16.toInt_toInt32]
  exact Int.bmod_eq_of_le (by omega) (by omega)

/-- A field of a family is written with its number. -/
theorem sql_of_holds {family : Family} (h : family.Holds f) : f.sql = family.opening ++ toString (family.number f) ++ ")" := by
  obtain ⟨hcharacters, hplaces⟩ := words_exact f
  cases family with
  | char =>
    have hcode : f.code = 14 := h
    rw [sql, hcode, Family.number, ← hcharacters]
    rfl
  | varchar =>
    have hcode : f.code = 37 := h
    rw [sql, hcode, Family.number, ← hcharacters]
    rfl
  | numeric =>
    have hcode : f.code = 16 := h.1
    rw [sql, hcode, Family.number, ← hplaces]
    change f.exactType = _
    rw [exactType, h.2]
    rfl
  | decimal =>
    have hcode : f.code = 16 := h.1
    rw [sql, hcode, Family.number, ← hplaces]
    change f.exactType = _
    rw [exactType, h.2]
    rfl

/-- A field is of a family, or it is written without a number. -/
theorem sql_cases (f : Field) : (∃ family : Family, family.Holds f) ∨ f.sql ∈ plainTypes := by
  have hcode {kind : FieldKind} {code : Int16} (h : FieldKind.ofCode? f.code = some kind) (hkind : code.toInt = kind.code) :
      f.code = code := Int16.toInt_inj.mp ((FieldKind.ofCode?_eq_some_iff.mp h).trans hkind.symm)
  rw [sql]
  cases h : FieldKind.ofCode? f.code with
  | none => exact .inr (by simp [plainTypes])
  | some kind =>
    cases kind with
    | char => exact .inl ⟨.char, hcode h rfl⟩
    | varchar => exact .inl ⟨.varchar, hcode h rfl⟩
    | int64 =>
      dsimp only
      rw [exactType]
      split
      · rename_i hsub
        exact .inl ⟨.numeric, hcode h rfl, Int16.toInt_inj.mp hsub⟩
      · rename_i hsub
        exact .inl ⟨.decimal, hcode h rfl, Int16.toInt_inj.mp hsub⟩
      · exact .inr (by decide)
    | _ => exact .inr (by simp [plainTypes])

/-! ## Numbers of a family -/

/-- A quarter without its rest is zero exactly for the numbers from -3 to 3. -/
theorem tdiv_four_eq_zero_iff {n : Int} : n.tdiv 4 = 0 ↔ -3 ≤ n ∧ n ≤ 3 := by
  have hsign : (4 : Int).sign = 1 := rfl
  rw [Int.tdiv_eq_ediv, hsign]
  split <;> omega

/-- Fields of a family are written alike exactly if their numbers agree. -/
theorem sql_eq_iff {family : Family} (hf : family.Holds f) (hg : family.Holds g) :
    f.sql = g.sql ↔ family.number f = family.number g := by
  rw [sql_of_holds hf, sql_of_holds hg, String.append_left_inj, String.append_right_inj, toString_int_inj]

/-! ## Characters -/

/-- A character of a type: a letter, a digit, or a sign that ends neither a line nor a statement. -/
def isTypeChar (c : Char) : Bool := c.isAlphanum || [' ', '(', ')', ',', '-', '_'].contains c

/-- A type holds characters of types only. -/
theorem isTypeChar_of_mem_sql (f : Field) : ∀ c ∈ f.sql.toList, isTypeChar c = true := by
  rcases sql_cases f with ⟨family, h⟩ | h
  · have hopening : family.opening.toList.all isTypeChar = true := by cases family <;> decide
    have hclosing : ")".toList.all isTypeChar = true := by decide
    intro c hc
    rw [sql_of_holds h, String.toList_append, String.toList_append, List.mem_append, List.mem_append] at hc
    rcases hc with (hc | hc) | hc
    · exact List.all_eq_true.mp hopening c hc
    · rcases isDigit_of_mem_toString_int hc with rfl | hdigit
      · decide
      · rw [isTypeChar, Char.isAlphanum, hdigit, Bool.or_true, Bool.true_or]
    · exact List.all_eq_true.mp hclosing c hc
  · have hplain : ∀ s ∈ plainTypes, s.toList.all isTypeChar = true := by decide
    exact List.all_eq_true.mp (hplain _ h)

/-- A type starts with a character that is not blank. -/
theorem startsVisible_sql (f : Field) : StartsVisible f.sql.toList := by
  have hstart {s : String} (h : s.toList.head?.any (!isBlank ·) = true) (rest : String) : StartsVisible (s ++ rest).toList := by
    rw [Option.any_eq_true] at h
    obtain ⟨c, hc, hblank⟩ := h
    obtain ⟨tail, htail⟩ := List.head?_eq_some_iff.mp hc
    exact ⟨c, tail ++ rest.toList, by rw [String.toList_append, htail, List.cons_append], by simpa using hblank⟩
  rcases sql_cases f with ⟨family, h⟩ | h
  · rw [sql_of_holds h, String.append_assoc]
    exact hstart (by cases family <;> decide) _
  · have hplain : ∀ s ∈ plainTypes, s.toList.head?.any (!isBlank ·) = true := by decide
    have happend := hstart (hplain _ h) ""
    rwa [String.append_empty] at happend

/-- A line that ends inside a type, or behind it, completes no statement, whatever stands before the type. -/
theorem step_sql (f : Field) (s : Script.SplitState) (before : List Char) {cut : List Char} (hne : cut ≠ [])
    (hcut : cut <+: f.sql.toList) : (s.step (before ++ cut)).2 = none := by
  cases hdirective : Script.isDirectiveLine (before ++ cut) with
  | true => rw [s.step_directive hdirective]
  | false =>
    -- the first character of the type is not blank, so a character of the type is the last one that is not
    have hvisible : ¬AllBlank cut := by
      obtain ⟨c, rest, hsql, hblank⟩ := startsVisible_sql f
      obtain ⟨d, tail, rfl⟩ := List.exists_cons_of_ne_nil hne
      rw [hsql, List.cons_prefix_cons] at hcut
      intro h
      rw [← hcut.1, h d List.mem_cons_self] at hblank
      nomatch hblank
    have hopen : lastVisible? (s.pending ++ (before ++ cut)) ≠ some s.terminator.symbol := by
      intro hlast
      rw [lastVisible?_append, lastVisible?_append] at hlast
      cases hcutlast : lastVisible? cut with
      | none => exact hvisible (lastVisible?_eq_none_iff.mp hcutlast)
      | some c =>
        rw [hcutlast, Option.some_or, Option.some_or, Option.some.injEq] at hlast
        have hchar := isTypeChar_of_mem_sql f c (hcut.subset (mem_of_lastVisible hcutlast))
        rw [hlast] at hchar
        cases hterminator : s.terminator <;> rw [hterminator] at hchar <;> exact absurd hchar (by decide)
    rw [s.step_open hdirective hopen]

/-- The numbers of a field are those of its words, with no overflow. In its family a field is written with its number, which is read
back, and never as a negative zero; lengths from -3 to 3 count as zero. Fields of one family are written alike exactly if their numbers
agree. The type of a field is not blank and holds neither a line break nor a terminator, so no statement ends inside it or behind it. -/
theorem sql_is_exact (f : Field) :
    f.characters.toInt = f.length.toInt.tdiv 4 ∧ f.places.toInt = -f.scale.toInt ∧
    (f.length.toInt.tdiv 4 = 0 ↔ -3 ≤ f.length.toInt ∧ f.length.toInt ≤ 3) ∧
    (∀ family : Family, family.Holds f →
      (∃ digits, f.sql = family.opening ++ digits ++ ")" ∧ integer? digits.toList = some (family.number f) ∧
        digits ≠ "-0" ∧ (family.number f = 0 → digits = "0")) ∧
      ∀ g, family.Holds g → (f.sql = g.sql ↔ family.number f = family.number g)) ∧
    Legible f.sql ∧ (∀ c ∈ ['\r', '\n', ';', '^'], c ∉ f.sql.toList) ∧
    ∀ (s : Script.SplitState) (before cut : List Char), cut ≠ [] → cut <+: f.sql.toList → (s.step (before ++ cut)).2 = none := by
  obtain ⟨hlength, hscale⟩ := words_exact f
  refine ⟨hlength, hscale, tdiv_four_eq_zero_iff, fun family h => ⟨?_, fun g hg => sql_eq_iff h hg⟩, ?_, ?_,
    fun s before _ hne hcut => step_sql f s before hne hcut⟩
  · refine ⟨toString (family.number f), sql_of_holds h, integer?_toString _, fun hzero => ?_, fun hzero => by rw [hzero]; rfl⟩
    have hread := integer?_toString (family.number f)
    have hnegative : integer? "-0".toList = some 0 := by decide
    rw [hzero, hnegative] at hread
    rw [← Option.some.inj hread] at hzero
    exact absurd hzero (by decide)
  · obtain ⟨c, rest, hsql, hblank⟩ := startsVisible_sql f
    exact ⟨c, hsql ▸ List.mem_cons_self, hblank⟩
  · intro c hc hmem
    have hends : ['\r', '\n', ';', '^'].all (!isTypeChar ·) = true := by decide
    have hend := List.all_eq_true.mp hends c hc
    rw [isTypeChar_of_mem_sql f c hmem] at hend
    nomatch hend

/-- The smallest scale is printed as 32768 and told from the one behind it, and the smallest length is a quarter of it. A line that ends
with such a type is open. -/
theorem sql_smallest :
    let numeric : Field := ⟨16, 8, -32768, some 1⟩
    let next : Field := ⟨16, 8, -32767, some 1⟩
    let char : Field := ⟨14, -32768, 0, none⟩
    (Family.numeric.Holds numeric ∧ Family.numeric.Holds next ∧ Family.char.Holds char) ∧
    (∃ digits, numeric.sql = "NUMERIC(18, " ++ digits ++ ")" ∧ integer? digits.toList = some 32768) ∧ numeric.sql ≠ next.sql ∧
    (∃ digits, char.sql = "CHAR(" ++ digits ++ ")" ∧ integer? digits.toList = some (-8192)) ∧
    char.sql.toList ≠ [] ∧ (Script.SplitState.initial.step ("\tA ".toList ++ char.sql.toList)).2 = none := by
  intro numeric next char
  have hnumeric : Family.numeric.Holds numeric := ⟨rfl, rfl⟩
  have hnext : Family.numeric.Holds next := ⟨rfl, rfl⟩
  have hchar : Family.char.Holds char := rfl
  have hne : char.sql.toList ≠ [] := by decide +kernel
  obtain ⟨-, -, -, hnumbers, -⟩ := sql_is_exact numeric
  obtain ⟨⟨digits, hsql, hread, -⟩, hagree⟩ := hnumbers .numeric hnumeric
  obtain ⟨-, -, -, hnumbers', -, -, hopen⟩ := sql_is_exact char
  obtain ⟨⟨digits', hsql', hread', -⟩, -⟩ := hnumbers' .char hchar
  have hdiffer : numeric.sql ≠ next.sql := fun h => absurd ((hagree next hnext).mp h) (by decide)
  exact ⟨⟨hnumeric, hnext, hchar⟩, ⟨digits, hsql, hread⟩, hdiffer, ⟨digits', hsql', hread'⟩, hne,
    hopen .initial _ _ hne (List.prefix_refl _)⟩

end Field

end SchemaScript.Catalog
