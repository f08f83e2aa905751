import SchemaScript.Ddl.Render
import SchemaScript.Proofs.Text.Letters
import SchemaScript.Proofs.Text.Trim

/-!
# Keywords of clauses

A default and a check stand behind their keyword exactly once if a text that starts with the keyword as a word of its own, blanks
in front aside, is left as it is, and every other text is put behind the keyword (`wordClause?`). The renderer compares the letters
at the very start of the text and looks no further. So a text that starts with a longer name goes without its keyword (`RunsOn`), a
text with blanks before the keyword gets it twice (`Indented`), and these are the only exceptions (`clauses_carry_keyword_iff`).
-/

namespace SchemaScript.Ddl

open Text

/-! ## Words -/

/-- Whether an identifier can go on with a character. -/
def isNameChar (c : Char) : Bool := c.isAlphanum || c == '_' || c == '$'

/-- Whether a text starts with a keyword as a word: its letters in any ASCII letter case, and behind them nothing that an identifier
could go on with. -/
def startsWithWord (text keyword : List Char) : Bool :=
  sameLetters (text.take keyword.length) keyword && (text.drop keyword.length).head?.all (!isNameChar ·)

/-- A text with its keyword exactly once: the text as it is if it starts with the keyword as a word, blanks aside, and otherwise the
text behind the keyword; no text, no clause. -/
def wordClause? (keyword : String) (text : Option String) : Option String :=
  (text.bind nonEmpty?).map fun value =>
    if startsWithWord (trimStart value.toList) keyword.toList then " " ++ value else " " ++ keyword ++ " " ++ value

/-- The statement that creates a domain, with each keyword exactly once. -/
def wordDomain (d : Domain) : String :=
  "CREATE DOMAIN " ++ d.name ++ " AS " ++ d.type ++
    clauses [wordClause? defaultKeyword d.default?, notNullClause? d.notNull, wordClause? checkKeyword d.check?] ++ ";"

/-- The line that defines a column, with its keyword exactly once. -/
def wordColumn (c : Column) : String :=
  "\t" ++ c.name ++ " " ++ c.type ++ clauses [wordClause? defaultKeyword c.default?, notNullClause? !c.nullable]

/-- A text that starts with the letters of a keyword in a longer name. -/
def RunsOn (keyword text : List Char) : Prop :=
  ∃ word c rest, text = word ++ c :: rest ∧ sameLetters word keyword = true ∧ isNameChar c = true

/-- A text that starts with blanks and goes on with a keyword as a word. -/
def Indented (keyword text : List Char) : Prop :=
  ∃ blanks rest, blanks ≠ [] ∧ AllBlank blanks ∧ text = blanks ++ rest ∧ startsWithWord rest keyword = true

/-- A text whose keyword is not told by its first letters. -/
def Misleads (keyword text : String) : Prop :=
  RunsOn keyword.toList text.toList ∨ Indented keyword.toList text.toList

variable {keyword text : List Char}

/-- Texts with the same letters are equally long. -/
theorem length_eq_of_sameLetters {a b : List Char} (h : sameLetters a b = true) : a.length = b.length := by
  rw [sameLetters, beq_iff_eq] at h
  have hlength := congrArg List.length h
  rwa [List.length_map, List.length_map] at hlength

/-- A text starts with a word if it can be cut behind the letters of the word and goes on with no character of a name. -/
theorem startsWithWord_iff : startsWithWord text keyword = true ↔
    ∃ word rest, text = word ++ rest ∧ sameLetters word keyword = true ∧ ∀ c, rest.head? = some c → isNameChar c = false := by
  rw [startsWithWord, Bool.and_eq_true, Option.all_eq_true]
  constructor
  · rintro ⟨hsame, hend⟩
    refine ⟨text.take keyword.length, text.drop keyword.length, (List.take_append_drop _ _).symm, hsame, ?_⟩
    intro c hc
    simpa using hend c hc
  · rintro ⟨word, rest, rfl, hsame, hend⟩
    have hlength := length_eq_of_sameLetters hsame
    rw [List.take_left' hlength, List.drop_left' hlength]
    refine ⟨hsame, ?_⟩
    intro c hc
    rw [hend c hc]
    rfl

/-- A word is found by its letters. -/
theorem startsWithLetters_of_startsWithWord (h : startsWithWord text keyword = true) : startsWithLetters text keyword = true := by
  obtain ⟨word, rest, rfl, hsame, -⟩ := startsWithWord_iff.mp h
  exact startsWithLetters_iff.mpr ⟨word, List.prefix_append _ _, hsame⟩

/-- The letters of a keyword that are no word go on as a longer name. -/
theorem runsOn_iff : RunsOn keyword text ↔ startsWithLetters text keyword = true ∧ startsWithWord text keyword = false := by
  constructor
  · rintro ⟨word, c, rest, rfl, hsame, hname⟩
    refine ⟨startsWithLetters_iff.mpr ⟨word, List.prefix_append _ _, hsame⟩, ?_⟩
    rw [Bool.eq_false_iff]
    intro hword
    obtain ⟨word', rest', htext, hsame', hend⟩ := startsWithWord_iff.mp hword
    have hlength : word.length = word'.length :=
      (length_eq_of_sameLetters hsame).trans (length_eq_of_sameLetters hsame').symm
    obtain ⟨-, rfl⟩ := List.append_inj htext hlength
    have hstop := hend c rfl
    rw [hname] at hstop
    nomatch hstop
  · rintro ⟨hletters, hword⟩
    obtain ⟨word, ⟨rest, rfl⟩, hsame⟩ := startsWithLetters_iff.mp hletters
    cases rest with
    | nil =>
      have hends : startsWithWord (word ++ []) keyword = true := startsWithWord_iff.mpr ⟨word, [], rfl, hsame, nofun⟩
      rw [hends] at hword
      nomatch hword
    | cons c rest =>
      refine ⟨word, c, rest, rfl, hsame, ?_⟩
      by_contra hname
      have hends : startsWithWord (word ++ c :: rest) keyword = true := by
        refine startsWithWord_iff.mpr ⟨word, c :: rest, rfl, hsame, ?_⟩
        intro d hd
        obtain rfl := Option.some.inj hd
        exact Bool.eq_false_iff.mpr hname
      rw [hends] at hword
      nomatch hword

/-! ## Blanks before a keyword -/

/-- A blank is no letter. -/
theorem toLower_of_isBlank {c : Char} (h : isBlank c = true) : c.toLower = c := by
  refine dif_neg ?_
  rintro ⟨hfirst, hlast⟩
  have hlow : 65 ≤ c.toNat := UInt32.le_iff_toNat_le.mp hfirst
  have hhigh : c.toNat ≤ 90 := UInt32.le_iff_toNat_le.mp hlast
  simp only [isBlank, Bool.or_eq_true, Bool.and_eq_true, decide_eq_true_eq, beq_iff_eq] at h
  omega

/-- The letters of a keyword start with no blank. -/
theorem startsVisible_of_startsWithLetters (hkeyword : StartsVisible (keyword.map Char.toLower))
    (h : startsWithLetters text keyword = true) : StartsVisible text := by
  obtain ⟨word, ⟨rest, rfl⟩, hsame⟩ := startsWithLetters_iff.mp h
  rw [sameLetters, beq_iff_eq] at hsame
  obtain ⟨k, ks, hk, hvisible⟩ := hkeyword
  rw [hk] at hsame
  obtain ⟨c, cs, rfl, hc, -⟩ := List.map_eq_cons_iff.mp hsame
  refine ⟨c, cs ++ rest, rfl, ?_⟩
  rw [Bool.eq_false_iff]
  intro hblank
  rw [← hc, toLower_of_isBlank hblank, hblank] at hvisible
  exact absurd hvisible (by decide)

/-- Blanks stand before a word exactly if the text starts with a blank and, blanks aside, with the word. -/
theorem indented_iff (hkeyword : StartsVisible (keyword.map Char.toLower)) :
    Indented keyword text ↔ ¬StartsVisible text ∧ startsWithWord (trimStart text) keyword = true := by
  constructor
  · rintro ⟨blanks, rest, hne, hblanks, rfl, hword⟩
    obtain ⟨b, bs, rfl⟩ := List.exists_cons_of_ne_nil hne
    have hrest : StartsVisible rest :=
      startsVisible_of_startsWithLetters hkeyword (startsWithLetters_of_startsWithWord hword)
    rw [trimStart_append_blank hblanks, trimStart_of_visible hrest]
    refine ⟨?_, hword⟩
    rintro ⟨c, cs, heq, hc⟩
    obtain ⟨rfl, -⟩ := List.cons.inj heq
    rw [hblanks b List.mem_cons_self] at hc
    nomatch hc
  · rintro ⟨hstart, hword⟩
    obtain ⟨blanks, hblanks, heq⟩ := exists_trimStart text
    refine ⟨blanks, trimStart text, ?_, hblanks, heq, hword⟩
    rintro rfl
    rw [List.nil_append] at heq
    rw [← heq] at hword
    exact hstart (startsVisible_of_startsWithLetters hkeyword (startsWithLetters_of_startsWithWord hword))

/-- The letters at the start of a text tell its keyword unless the text misleads. -/
theorem startsWithLetters_eq_iff (hkeyword : StartsVisible (keyword.map Char.toLower)) :
    startsWithLetters text keyword = startsWithWord (trimStart text) keyword ↔ ¬(RunsOn keyword text ∨ Indented keyword text) := by
  rw [not_or, runsOn_iff, indented_iff hkeyword]
  by_cases hstart : StartsVisible text
  · rw [trimStart_of_visible hstart]
    have hfound : startsWithWord text keyword = true → startsWithLetters text keyword = true :=
      startsWithLetters_of_startsWithWord
    cases hletters : startsWithLetters text keyword <;> cases hword : startsWithWord text keyword <;> simp_all
  · have hletters : startsWithLetters text keyword = false := by
      rw [Bool.eq_false_iff]
      exact fun h => hstart (startsVisible_of_startsWithLetters hkeyword h)
    cases hword : startsWithWord (trimStart text) keyword <;> simp [hletters, hstart]

/-! ## Clauses -/

/-- With the keyword in front a clause is longer by the keyword and a space. -/
theorem length_behind_keyword (keyword value : String) :
    (" " ++ keyword ++ " " ++ value).length = (" " ++ value).length + keyword.length + 1 := by
  simp only [String.length_append, show (" ").length = 1 from rfl]
  omega

/-- A clause has its keyword exactly once unless its text misleads. -/
theorem keywordClause?_eq_iff {keyword : String} (hkeyword : StartsVisible (keyword.toList.map Char.toLower)) (text : Option String) :
    keywordClause? keyword text = wordClause? keyword text ↔ ∀ value ∈ text, ¬Misleads keyword value := by
  cases text with
  | none => simp [keywordClause?, wordClause?]
  | some value =>
    simp only [Option.mem_some, forall_eq']
    rw [Misleads, ← startsWithLetters_eq_iff hkeyword]
    by_cases hvalue : value = ""
    · subst hvalue
      have hletters : startsWithLetters "".toList keyword.toList = false := by
        rw [Bool.eq_false_iff]
        intro h
        obtain ⟨c, cs, hc, -⟩ := startsVisible_of_startsWithLetters hkeyword h
        nomatch hc
      have hword : startsWithWord (trimStart "".toList) keyword.toList = false := by
        rw [Bool.eq_false_iff]
        intro h
        have hfound := startsWithLetters_of_startsWithWord h
        rw [show trimStart "".toList = "".toList from rfl, hletters] at hfound
        nomatch hfound
      rw [hletters, hword]
      exact iff_of_true rfl rfl
    · have hne : " " ++ value ≠ " " ++ keyword ++ " " ++ value := by
        intro h
        have hlength := congrArg String.length h
        rw [length_behind_keyword] at hlength
        omega
      have hif : ∀ a b : Bool, ((if a = true then " " ++ value else " " ++ keyword ++ " " ++ value) =
          if b = true then " " ++ value else " " ++ keyword ++ " " ++ value) ↔ a = b := by
        intro a b
        cases a <;> cases b <;> simp [hne, hne.symm]
      have hnonEmpty : nonEmpty? value = some value := if_neg hvalue
      rw [keywordClause?, wordClause?, Option.bind_some, hnonEmpty, Option.map_some, Option.map_some, Option.some.injEq]
      exact hif _ _

/-- A clause that has not its keyword exactly once is too short or too long by the keyword and a space. -/
theorem keywordClause?_length {keyword : String} {text : Option String}
    (h : keywordClause? keyword text ≠ wordClause? keyword text) :
    ((keywordClause? keyword text).getD "").length + keyword.length + 1 = ((wordClause? keyword text).getD "").length ∨
    ((wordClause? keyword text).getD "").length + keyword.length + 1 = ((keywordClause? keyword text).getD "").length := by
  unfold keywordClause? wordClause? at h ⊢
  cases hvalue : text.bind nonEmpty? with
  | none =>
    rw [hvalue] at h
    exact absurd rfl h
  | some value =>
    rw [hvalue] at h
    simp only [Option.map_some, Option.getD_some] at h ⊢
    have hlength := length_behind_keyword keyword value
    cases hletters : startsWithKeyword value keyword <;>
      cases hword : startsWithWord (trimStart value.toList) keyword.toList
    · rw [hletters, hword] at h
      exact absurd rfl h
    · exact .inr hlength.symm
    · exact .inl hlength.symm
    · rw [hletters, hword] at h
      exact absurd rfl h

/-- The lengths of clauses add up. -/
theorem length_clauses_cons (part : Option String) (parts : List (Option String)) :
    (clauses (part :: parts)).length = (part.getD "").length + (clauses parts).length := by
  rw [clauses, clauses, List.map_cons, String.join_cons, String.length_append]

/-- A domain has its keywords exactly once exactly if both of its clauses do: the two keywords are of different lengths, so what one
clause has too much the other cannot lack. -/
theorem domain_eq_wordDomain_iff (d : Domain) : domain d = wordDomain d ↔
    keywordClause? defaultKeyword d.default? = wordClause? defaultKeyword d.default? ∧
    keywordClause? checkKeyword d.check? = wordClause? checkKeyword d.check? := by
  constructor
  · intro h
    have hlength := congrArg String.length h
    unfold domain wordDomain defaultClause? checkClause? at hlength
    simp only [String.length_append, length_clauses_cons] at hlength
    have hseven : defaultKeyword.length = 7 := rfl
    have hfive : checkKeyword.length = 5 := rfl
    by_cases hdefault : keywordClause? defaultKeyword d.default? = wordClause? defaultKeyword d.default?
    · by_cases hcheck : keywordClause? checkKeyword d.check? = wordClause? checkKeyword d.check?
      · exact ⟨hdefault, hcheck⟩
      · have hoff := keywordClause?_length hcheck
        rw [hdefault] at hlength
        omega
    · have hoff := keywordClause?_length hdefault
      by_cases hcheck : keywordClause? checkKeyword d.check? = wordClause? checkKeyword d.check?
      · rw [hcheck] at hlength
        omega
      · have hoff' := keywordClause?_length hcheck
        omega
  · rintro ⟨hdefault, hcheck⟩
    unfold domain wordDomain defaultClause? checkClause?
    rw [hdefault, hcheck]

/-- A column has its keyword exactly once exactly if its clause does. -/
theorem column_eq_wordColumn_iff (c : Column) : column c = wordColumn c ↔
    keywordClause? defaultKeyword c.default? = wordClause? defaultKeyword c.default? := by
  constructor
  · intro h
    have hlength := congrArg String.length h
    unfold column wordColumn defaultClause? at hlength
    simp only [String.length_append, length_clauses_cons] at hlength
    by_contra hdefault
    have hoff := keywordClause?_length hdefault
    omega
  · intro hdefault
    unfold column wordColumn defaultClause?
    rw [hdefault]

/-- A default, a check, a domain and a column have each keyword exactly once, as a word, exactly if no text in them misleads: none
starts with the letters of its keyword in a longer name, and none has blanks before its keyword. -/
theorem clauses_carry_keyword_iff (text : Option String) (d : Domain) (c : Column) :
    (defaultClause? text = wordClause? defaultKeyword text ↔ ∀ value ∈ text, ¬Misleads defaultKeyword value) ∧
    (checkClause? text = wordClause? checkKeyword text ↔ ∀ value ∈ text, ¬Misleads checkKeyword value) ∧
    (domain d = wordDomain d ↔
      (∀ value ∈ d.default?, ¬Misleads defaultKeyword value) ∧ ∀ value ∈ d.check?, ¬Misleads checkKeyword value) ∧
    (column c = wordColumn c ↔ ∀ value ∈ c.default?, ¬Misleads defaultKeyword value) := by
  have hdefault : StartsVisible (defaultKeyword.toList.map Char.toLower) := ⟨'d', "efault".toList, by decide, by decide⟩
  have hcheck : StartsVisible (checkKeyword.toList.map Char.toLower) := ⟨'c', "heck".toList, by decide, by decide⟩
  refine ⟨keywordClause?_eq_iff hdefault text, keywordClause?_eq_iff hcheck text, ?_, ?_⟩
  · rw [domain_eq_wordDomain_iff, keywordClause?_eq_iff hdefault, keywordClause?_eq_iff hcheck]
  · rw [column_eq_wordColumn_iff, keywordClause?_eq_iff hdefault]

/-- A domain whose check starts with a name that is longer than the keyword, and whose default has blanks before the keyword. -/
def misleadingDomain : Domain := ⟨"D", "INTEGER", false, some "  DEFAULT 0", some "CHECKSUM(VALUE) > 0"⟩

/-- The check goes without its keyword, and the default has it twice. -/
theorem domain_misleadingDomain :
    domain misleadingDomain = "CREATE DOMAIN D AS INTEGER DEFAULT   DEFAULT 0 CHECKSUM(VALUE) > 0;" ∧
    wordDomain misleadingDomain = "CREATE DOMAIN D AS INTEGER   DEFAULT 0 CHECK CHECKSUM(VALUE) > 0;" ∧
    (¬∀ value, allBlank value = false → checkClause? (some value) = wordClause? checkKeyword (some value)) ∧
    ¬∀ value, allBlank value = false → defaultClause? (some value) = wordClause? defaultKeyword (some value) := by
  refine ⟨by decide +kernel, by decide +kernel, fun h => ?_, fun h => ?_⟩
  · exact absurd (h "CHECKSUM(VALUE) > 0" (by decide +kernel)) (by decide +kernel)
  · exact absurd (h "  DEFAULT 0" (by decide +kernel)) (by decide +kernel)

end SchemaScript.Ddl
