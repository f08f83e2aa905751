import Mathlib.Data.List.Basic
import SchemaScript.Json.Text

/-!
# Reading what was written: cursors and strings

A reader is judged by its value and by what it leaves to be read; the line and the column count only in faults (`Gives`,
`Reaches`). Every character of an encoded string is read back as itself (`readTextFrom_encodeChar`), and so is the string
(`readText_gives`).
-/

namespace SchemaScript.Json

variable {α β : Type} {a : α} {b : β} {rest rest' : List Char} {c : Cursor}

/-- A reading that succeeds: its value, and what it leaves to be read. -/
def Gives (r : Except Fault (α × Cursor)) (a : α) (rest : List Char) : Prop := ∃ c, r = .ok (a, c) ∧ c.rest = rest

/-- A move that succeeds: what it leaves to be read. -/
def Reaches (r : Except Fault Cursor) (rest : List Char) : Prop := ∃ c, r = .ok c ∧ c.rest = rest

/-- A reading goes on from where the one before it ended. -/
theorem Gives.bind {r : Except Fault (α × Cursor)} {f : α × Cursor → Except Fault (β × Cursor)} (h : Gives r a rest)
    (hf : ∀ c, c.rest = rest → Gives (f (a, c)) b rest') : Gives (r >>= f) b rest' := by
  obtain ⟨c, rfl, hc⟩ := h
  exact hf c hc

/-- A reading goes on from where a move ended. -/
theorem Reaches.bind {r : Except Fault Cursor} {f : Cursor → Except Fault (β × Cursor)} (h : Reaches r rest)
    (hf : ∀ c, c.rest = rest → Gives (f c) b rest') : Gives (r >>= f) b rest' := by
  obtain ⟨c, rfl, hc⟩ := h
  exact hf c hc

/-! ## Cursors -/

@[simp] theorem Cursor.past_rest (c : Cursor) (ch : Char) (rest : List Char) : (c.past ch rest).rest = rest := by
  unfold past
  split <;> rfl

/-- Blanks are skipped up to the first other character. -/
theorem Cursor.skipSpaces_rest (c : Cursor) : c.skipSpaces.rest = c.rest.dropWhile isSpace := by
  suffices hfrom : ∀ (cs : List Char) (c : Cursor), (c.skipSpacesFrom cs).rest = cs.dropWhile isSpace from hfrom c.rest c
  intro cs
  induction cs with
  | nil => exact fun _ => rfl
  | cons ch cs ih =>
    intro c
    rw [skipSpacesFrom, List.dropWhile_cons]
    split
    · exact ih _
    · rfl

/-- Blanks in front of another character are skipped. -/
theorem Cursor.skipSpaces_rest_of_blanks {blanks tail : List Char} {ch : Char} (hblanks : ∀ b ∈ blanks, isSpace b = true)
    (hch : isSpace ch = false) (h : c.rest = blanks ++ ch :: tail) : c.skipSpaces.rest = ch :: tail := by
  rw [skipSpaces_rest, h, List.dropWhile_append_of_pos hblanks, List.dropWhile_cons_of_neg (by simp [hch])]

/-- Where another character stands, nothing is skipped. -/
theorem Cursor.skipSpaces_rest_of_visible {tail : List Char} {ch : Char} (hch : isSpace ch = false) (h : c.rest = ch :: tail) :
    c.skipSpaces.rest = ch :: tail :=
  skipSpaces_rest_of_blanks (List.forall_mem_nil _) hch h

/-! ## Strings -/

/-- A hexadecimal digit is one byte long and has the value it was written for. -/
theorem hexChar_spec : ∀ n < 16, (hexChar n).utf8Size = 1 ∧ Text.hexValue? (hexChar n) = some n := by
  decide

/-- Characters of one byte are as many bytes. -/
theorem hasBytes_append {cs : List Char} (hcs : ∀ ch ∈ cs, ch.utf8Size = 1) (rest : List Char) :
    hasBytes (cs ++ rest) cs.length = true := by
  induction cs with
  | nil => rw [List.length_nil, hasBytes]
  | cons ch cs ih =>
    rw [List.cons_append, List.length_cons, hasBytes, hcs ch List.mem_cons_self]
    exact ih fun d hd => hcs d (List.mem_cons_of_mem ch hd)

/-- Skipping as many bytes as there are characters of one byte skips these characters. -/
theorem Cursor.skipBytesFrom_append {cs : List Char} (hcs : ∀ ch ∈ cs, ch.utf8Size = 1) (rest : List Char) (c : Cursor) :
    (c.skipBytesFrom (cs ++ rest) cs.length).rest = rest := by
  induction cs generalizing c with
  | nil => cases rest <;> rfl
  | cons ch cs ih =>
    rw [List.cons_append, List.length_cons, skipBytesFrom, hcs ch List.mem_cons_self, if_pos (by omega)]
    exact ih (fun d hd => hcs d (List.mem_cons_of_mem ch hd)) _

/-- The escape of a control by its number is read as this number. -/
theorem readHex_gives {n : Nat} (hn : n < 256) (h : c.rest = ['0', '0', hexChar (n / 16), hexChar (n % 16)] ++ rest) :
    Gives (readHex c) n rest := by
  obtain ⟨hsize, hvalue⟩ := hexChar_spec (n / 16) (by omega)
  obtain ⟨hsize', hvalue'⟩ := hexChar_spec (n % 16) (by omega)
  have hsizes : ∀ ch ∈ ['0', '0', hexChar (n / 16), hexChar (n % 16)], ch.utf8Size = 1 := by
    simp only [List.forall_mem_cons, List.not_mem_nil, false_imp_iff, implies_true, and_true]
    exact ⟨rfl, rfl, hsize, hsize'⟩
  have hnumber : fourHex? (c.rest.take 4) = some n := by
    rw [h]
    change ((Text.hexValue? (hexChar (n / 16))).bind fun d => (Text.hexValue? (hexChar (n % 16))).bind fun e =>
      some (((0 * 16 + 0) * 16 + d) * 16 + e)) = some n
    rw [hvalue, hvalue']
    exact congrArg some (by omega)
  have hafter : (c.skipBytesFrom c.rest 4).rest = rest := by
    rw [h]
    exact Cursor.skipBytesFrom_append hsizes rest c
  rw [readHex, if_pos (by rw [h]; exact hasBytes_append hsizes rest)]
  dsimp only
  rw [hnumber]
  exact ⟨_, rfl, hafter⟩

/-- The escape of a control is read as the control. -/
theorem readEscape_control {ch : Char} (hch : ch.toNat < 32)
    (h : c.rest = ['u', '0', '0', hexChar (ch.toNat / 16), hexChar (ch.toNat % 16)] ++ rest) : Gives (readEscape c) ch rest := by
  have hrest : c.rest = 'u' :: (['0', '0', hexChar (ch.toNat / 16), hexChar (ch.toNat % 16)] ++ rest) := h
  rw [readEscape, hrest]
  refine (readHex_gives (by omega) (Cursor.past_rest ..)).bind fun c' hc' => ?_
  dsimp only
  rw [if_neg (by omega)]
  refine ⟨c', ?_, hc'⟩
  change (if ch.toNat < 0xD800 ∨ 0xDBFF < ch.toNat then _ else _) = _
  rw [if_pos (by omega), Char.ofNat_toNat]
  rfl

/-- A character behind a backslash is read as what it stands for. -/
theorem readEscape_short {letter ch : Char} (hletter : shortEscape? letter = some ch) (h : c.rest = letter :: rest) :
    Gives (readEscape c) ch rest := by
  rw [readEscape, h]
  split
  · rename_i heq
    nomatch heq
  · rename_i heq
    obtain ⟨rfl, -⟩ := List.cons.inj heq
    nomatch hletter
  · rename_i heq
    obtain ⟨rfl, rfl⟩ := List.cons.inj heq
    rw [hletter]
    exact ⟨_, rfl, Cursor.past_rest ..⟩

/-- A character is written behind a backslash by a letter or by its number, or it stands for itself. -/
theorem encodeChar_cases (ch : Char) :
    (∃ letter, encodeChar ch = ['\\', letter] ∧ shortEscape? letter = some ch) ∨
    (encodeChar ch = ['\\', 'u', '0', '0', hexChar (ch.toNat / 16), hexChar (ch.toNat % 16)] ∧ ch.toNat < 32) ∨
    (encodeChar ch = [ch] ∧ ch ≠ '"' ∧ ch ≠ '\\' ∧ ¬ ch.toNat < 32) := by
  unfold encodeChar
  split
  case h_8 =>
    split
    · exact .inr (.inl ⟨rfl, by assumption⟩)
    · exact .inr (.inr ⟨rfl, by assumption, by assumption, by assumption⟩)
  all_goals exact .inl ⟨_, rfl, rfl⟩

/-- An escape inside a string is read as its character. -/
theorem readTextFrom_escape {ch : Char} {tail : List Char} (fuel : Nat) (done : List Char) (h : c.rest = '\\' :: tail)
    (hescape : Gives (readEscape (c.past '\\' tail)) ch rest) :
    ∃ c', c'.rest = rest ∧ readTextFrom (fuel + 1) done c = readTextFrom fuel (ch :: done) c' := by
  obtain ⟨c', hread, hc'⟩ := hescape
  refine ⟨c', hc', ?_⟩
  rw [readTextFrom, h]
  change (readEscape (c.past '\\' tail) >>= fun p => readTextFrom fuel (p.1 :: done) p.2) = _
  rw [hread]
  rfl

/-- An encoded character inside a string is read as itself. -/
theorem readTextFrom_encodeChar {ch : Char} (fuel : Nat) (done : List Char) (h : c.rest = encodeChar ch ++ rest) :
    ∃ c', c'.rest = rest ∧ readTextFrom (fuel + 1) done c = readTextFrom fuel (ch :: done) c' := by
  rcases encodeChar_cases ch with ⟨letter, hencode, hletter⟩ | ⟨hencode, hcontrol⟩ | ⟨hencode, hquote, hslash, hcontrol⟩
  · rw [hencode] at h
    exact readTextFrom_escape fuel done h (readEscape_short hletter (Cursor.past_rest ..))
  · rw [hencode] at h
    exact readTextFrom_escape fuel done h (readEscape_control hcontrol (Cursor.past_rest ..))
  · rw [hencode] at h
    refine ⟨c.past ch rest, Cursor.past_rest .., ?_⟩
    have hrest : c.rest = ch :: rest := h
    rw [readTextFrom, hrest]
    split
    · rename_i heq
      nomatch heq
    · rename_i heq
      exact absurd (List.cons.inj heq).1 hquote
    · rename_i heq
      exact absurd (List.cons.inj heq).1 hslash
    · rename_i heq
      obtain ⟨rfl, rfl⟩ := List.cons.inj heq
      exact if_neg hcontrol

/-- The characters of an encoded string are read up to the closing quote, behind those read before. -/
theorem readTextFrom_gives (cs : List Char) : ∀ (fuel : Nat) (done : List Char) (c : Cursor), cs.length < fuel →
    c.rest = cs.flatMap encodeChar ++ '"' :: rest → Gives (readTextFrom fuel done c) (String.ofList (done.reverse ++ cs)) rest := by
  induction cs with
  | nil =>
    intro fuel done c hfuel h
    obtain ⟨fuel, rfl⟩ := Nat.exists_eq_add_of_lt hfuel
    have hrest : c.rest = '"' :: rest := h
    rw [readTextFrom, hrest, List.append_nil]
    exact ⟨_, rfl, Cursor.past_rest ..⟩
  | cons ch cs ih =>
    intro fuel done c hfuel h
    obtain ⟨fuel, rfl⟩ := Nat.exists_eq_add_of_lt (Nat.zero_lt_of_lt hfuel)
    rw [List.flatMap_cons, List.append_assoc] at h
    obtain ⟨c', hc', hstep⟩ := readTextFrom_encodeChar (0 + fuel) done h
    rw [hstep]
    have hread := ih (0 + fuel) (ch :: done) c' (by simpa using hfuel) hc'
    rwa [List.reverse_cons, List.append_assoc, List.singleton_append] at hread

/-- Encoding makes no text shorter. -/
theorem length_le_flatMap_encodeChar (cs : List Char) : cs.length ≤ (cs.flatMap encodeChar).length := by
  induction cs with
  | nil => exact Nat.le_refl 0
  | cons ch cs ih =>
    have hne : 1 ≤ (encodeChar ch).length := by
      rcases encodeChar_cases ch with ⟨_, h, -⟩ | ⟨h, -⟩ | ⟨h, -⟩ <;> rw [h] <;> simp
    rw [List.flatMap_cons, List.length_append, List.length_cons]
    omega

/-- An encoded string is read back behind its opening quote. -/
theorem readText_gives {s : String} (h : c.rest = s.toList.flatMap encodeChar ++ '"' :: rest) : Gives (readText c) s rest := by
  have hlength := length_le_flatMap_encodeChar s.toList
  have hread := readTextFrom_gives s.toList (c.rest.length + 1) [] c (by rw [h, List.length_append]; omega) h
  rwa [List.reverse_nil, List.nil_append, String.ofList_toList] at hread

end SchemaScript.Json
