import SchemaScript.Proofs.Text.Bytes
import SchemaScript.Proofs.Text.Letters
import SchemaScript.Script.Split

/-!
# Keywords by bytes and by characters

The keyword test cuts a text at the length of the keyword in bytes. No character is written in bytes that start with those of another
one (`bytes_prefix_iff`), so the characters in front of the cut are those whose bytes stand there, and a cut inside a character has no
characters in front of it (`takeBytes?_eq_some_iff_isCut`). The test by bytes is the test by characters, for every text and every
keyword, and it is the one that tells directives (`startsWithKeyword_iff_letters`).
-/

namespace SchemaScript.Text

/-! ## Bytes -/

/-- The text in front of a cut behind a number of bytes: these are its bytes. -/
def IsCut (text : String) (n : Nat) (front : String) : Prop := n ≤ (bytes text).length ∧ bytes front = (bytes text).take n

/-- The bytes of a text are as many as the bytes of its characters together. -/
theorem length_bytes (s : String) : (bytes s).length = byteLength s.toList := by
  rw [bytes_eq_flatMap]
  induction s.toList with
  | nil => rfl
  | cons c cs ih => rw [List.flatMap_cons, List.length_append, ih, String.length_utf8EncodeChar, byteLength]

/-- The bytes of a text start with those of another one exactly if its characters do. -/
theorem bytes_prefix_iff {cs ds : List Char} :
    cs.flatMap String.utf8EncodeChar <+: ds.flatMap String.utf8EncodeChar ↔ cs <+: ds := by
  constructor
  · intro h
    induction cs generalizing ds with
    | nil => exact List.nil_prefix
    | cons c cs ih =>
      obtain ⟨rest, hrest⟩ := h
      rw [List.flatMap_cons, List.append_assoc] at hrest
      cases ds with
      | nil =>
        rw [List.flatMap_nil, List.append_eq_nil_iff] at hrest
        exact absurd hrest.1 (String.utf8EncodeChar_ne_nil)
      | cons d ds =>
        rw [List.flatMap_cons] at hrest
        -- a smaller character has bytes in front of those of a greater one, whatever follows
        rcases lt_trichotomy c d with hlt | rfl | hlt
        · exact absurd (hrest ▸ encode_lt hlt _ _) (List.lt_irrefl _)
        · exact List.cons_prefix_cons.mpr ⟨rfl, ih ⟨rest, List.append_cancel_left hrest⟩⟩
        · exact absurd (hrest ▸ encode_lt hlt _ _) (List.lt_irrefl _)
  · rintro ⟨rest, rfl⟩
    rw [List.flatMap_append]
    exact List.prefix_append _ _

/-- Cutting characters at a number of bytes cuts the bytes there. -/
theorem takeBytes?_eq_some_iff_isCut {text front : String} {n : Nat} :
    takeBytes? text.toList n = some front.toList ↔ IsCut text n front := by
  rw [takeBytes?_eq_some_iff, ← bytes_prefix_iff, ← bytes_eq_flatMap, ← bytes_eq_flatMap, ← length_bytes, IsCut]
  constructor
  · rintro ⟨hfront, rfl⟩
    exact ⟨hfront.length_le, List.prefix_iff_eq_take.mp hfront⟩
  · rintro ⟨hle, hfront⟩
    refine ⟨hfront ▸ List.take_prefix _ _, ?_⟩
    rw [hfront, List.length_take, Nat.min_eq_left hle]

/-! ## The two tests -/

variable (text keyword : String)

/-- A text starts with a keyword exactly if its characters do, each up to the case of ASCII letters. -/
theorem startsWithKeyword_iff_append : startsWithKeyword text keyword = true ↔
    ∃ front rest : String, text = front ++ rest ∧ List.Forall₂ SameLetter front.toList keyword.toList := by
  rw [startsWithKeyword, startsWithLetters_iff]
  constructor
  · rintro ⟨front, ⟨rest, htext⟩, hsame⟩
    refine ⟨String.ofList front, String.ofList rest, ?_, ?_⟩
    · rw [← String.ofList_append, htext, String.ofList_toList]
    · rwa [String.toList_ofList, ← sameLetters_iff]
  · rintro ⟨front, rest, rfl, hsame⟩
    exact ⟨front.toList, ⟨rest.toList, String.toList_append.symm⟩, sameLetters_iff.mpr hsame⟩

/-- A text starts with a keyword exactly if its bytes, cut at the number of bytes of the keyword, are a text with the letters of the
keyword. -/
theorem startsWithKeyword_iff_isCut : startsWithKeyword text keyword = true ↔
    ∃ front, IsCut text (bytes keyword).length front ∧ List.Forall₂ SameLetter front.toList keyword.toList := by
  rw [startsWithKeyword, startsWithLetters, Option.any_eq_true, length_bytes]
  constructor
  · rintro ⟨front, hcut, hsame⟩
    rw [← String.toList_ofList (l := front)] at hcut
    exact ⟨String.ofList front, takeBytes?_eq_some_iff_isCut.mp hcut, by rwa [String.toList_ofList, ← sameLetters_iff]⟩
  · rintro ⟨front, hcut, hsame⟩
    exact ⟨front.toList, takeBytes?_eq_some_iff_isCut.mpr hcut, sameLetters_iff.mpr hsame⟩

/-- A text starts with a keyword exactly if it has as many characters in front as the keyword has, which are those of the keyword one by
one up to ASCII letter case. To cut the text at the bytes of the keyword comes to the same, also where characters of several bytes lie
on the cut. A trimmed line is told to be a directive by this test for its keyword. -/
theorem startsWithKeyword_iff_letters (text keyword line : String) :
    (startsWithKeyword text keyword = true ↔
      ∃ front rest : String, text = front ++ rest ∧ front.length = keyword.length ∧
        List.Forall₂ SameLetter front.toList keyword.toList) ∧
    (startsWithKeyword text keyword = true ↔
      ∃ front, IsCut text (bytes keyword).length front ∧ List.Forall₂ SameLetter front.toList keyword.toList) ∧
    Script.isDirective (trim line.toList) = startsWithKeyword (trimmed line) "SET TERM" := by
  refine ⟨?_, startsWithKeyword_iff_isCut text keyword, ?_⟩
  · rw [startsWithKeyword_iff_append]
    constructor
    · rintro ⟨front, rest, htext, hsame⟩
      have hlength := hsame.length_eq
      rw [String.length_toList, String.length_toList] at hlength
      exact ⟨front, rest, htext, hlength, hsame⟩
    · rintro ⟨front, rest, htext, -, hsame⟩
      exact ⟨front, rest, htext, hsame⟩
  · rw [Script.isDirective, Script.directiveKeyword, startsWithKeyword, trimmed, String.toList_ofList (l := trim line.toList)]

/-- Letters count in either case; a sign of three bytes that looks like the last letter is another character, and the cut goes through it. -/
example : startsWithKeyword "CHeck (A)" "CHECK" = true ∧ startsWithKeyword "CHEC\u212A (A)" "CHECK" = false := by decide

end SchemaScript.Text
