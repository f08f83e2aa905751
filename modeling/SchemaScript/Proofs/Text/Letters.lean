import Mathlib.Data.List.Forall2
import SchemaScript.Text.Letters

/-!
# Keywords at the start of a text

Characters that agree up to ASCII letter case are told by their codes (`SameLetter`). The keyword test cuts a text at the keyword's
length in bytes. The case of a letter does not change its length in bytes, and a text that the cut would divide inside a character is
turned down, so the test finds exactly the texts that start with the characters of the keyword, each up to ASCII letter case
(`startsWithLetters_iff`).
-/

namespace SchemaScript.Text

/-! ## Letters -/

/-- Two characters that are the same, or a capital of ASCII and its small letter, in either order. -/
inductive SameLetter : Char → Char → Prop
  | same (c : Char) : SameLetter c c
  | capital {c d : Char} (hcapital : 'A' ≤ c ∧ c ≤ 'Z') (hsmall : d.toNat = c.toNat + 32) : SameLetter c d
  | small {c d : Char} (hcapital : 'A' ≤ d ∧ d ≤ 'Z') (hsmall : c.toNat = d.toNat + 32) : SameLetter c d

/-- The small letter of a capital is 32 places behind it. -/
theorem toNat_toLower_of_capital {c : Char} (h : 'A' ≤ c ∧ c ≤ 'Z') : c.toLower.toNat = c.toNat + 32 := by
  have hle : c.toNat ≤ 90 := h.2
  have hval : c.toLower.val = c.val + ('a'.val - 'A'.val) := congrArg Char.val (dif_pos h)
  have hshift : ('a'.val - 'A'.val).toNat = 32 := rfl
  have hcode : c.val.toNat = c.toNat := rfl
  change c.toLower.val.toNat = _
  rw [hval, UInt32.toNat_add, hshift, hcode]
  omega

/-- Characters other than capitals have no other small letter. -/
theorem toLower_of_not_capital {c : Char} (h : ¬('A' ≤ c ∧ c ≤ 'Z')) : c.toLower = c := dif_neg h

/-- A character 32 places behind a capital is no capital. -/
theorem not_capital_of_toNat {c d : Char} (h : 'A' ≤ c ∧ c ≤ 'Z') (hd : d.toNat = c.toNat + 32) : ¬('A' ≤ d ∧ d ≤ 'Z') := by
  have hlo : 65 ≤ c.toNat := h.1
  intro hcapital
  have hhi : d.toNat ≤ 90 := hcapital.2
  omega

/-- Characters have the same small letter exactly if they are the same letter. -/
theorem toLower_eq_iff {c d : Char} : c.toLower = d.toLower ↔ SameLetter c d := by
  constructor
  · intro h
    by_cases hc : 'A' ≤ c ∧ c ≤ 'Z' <;> by_cases hd : 'A' ≤ d ∧ d ≤ 'Z'
    · have hcode := congrArg Char.toNat h
      rw [toNat_toLower_of_capital hc, toNat_toLower_of_capital hd] at hcode
      obtain rfl : c = d := Char.toNat_inj.mp (Nat.add_right_cancel hcode)
      exact .same c
    · rw [toLower_of_not_capital hd] at h
      exact .capital hc (h ▸ toNat_toLower_of_capital hc)
    · rw [toLower_of_not_capital hc] at h
      exact .small hd (h ▸ toNat_toLower_of_capital hd)
    · rw [toLower_of_not_capital hc, toLower_of_not_capital hd] at h
      exact h ▸ .same c
  · intro h
    cases h with
    | same => rfl
    | capital hc hd =>
      rw [toLower_of_not_capital (not_capital_of_toNat hc hd)]
      exact Char.toNat_inj.mp ((toNat_toLower_of_capital hc).trans hd.symm)
    | small hd hc =>
      rw [toLower_of_not_capital (not_capital_of_toNat hd hc)]
      exact (Char.toNat_inj.mp ((toNat_toLower_of_capital hd).trans hc.symm)).symm

/-- Texts have the same letters if they have them character by character. -/
theorem sameLetters_iff {a b : List Char} : sameLetters a b = true ↔ List.Forall₂ SameLetter a b := by
  rw [sameLetters, beq_iff_eq, ← List.forall₂_eq_eq_eq, List.forall₂_map_left_iff, List.forall₂_map_right_iff]
  simp only [toLower_eq_iff]

/-! ## Lengths in bytes -/

/-- A letter takes as many bytes in either case. -/
theorem utf8Size_toLower (c : Char) : c.toLower.utf8Size = c.utf8Size := by
  by_cases h : 'A' ≤ c ∧ c ≤ 'Z'
  · have hcode : c.toNat ≤ 90 := h.2
    have hsmall := toNat_toLower_of_capital h
    have hone : ∀ d : Char, d.toNat ≤ 127 → d.utf8Size = 1 :=
      fun d hd => Char.utf8Size_eq_one_iff.mpr (UInt32.le_iff_toNat_le.mpr hd)
    rw [hone c (by omega), hone c.toLower (by omega)]
  · rw [toLower_of_not_capital h]

/-- Every character takes a byte at least. -/
theorem byteLength_eq_zero_iff {cs : List Char} : byteLength cs = 0 ↔ cs = [] := by
  cases cs with
  | nil => simp [byteLength]
  | cons c cs =>
    have := c.utf8Size_pos
    simp only [byteLength, reduceCtorEq, iff_false]
    omega

/-- The byte length of a text is that of its letters in lower case. -/
theorem byteLength_map_toLower (cs : List Char) : byteLength (cs.map Char.toLower) = byteLength cs := by
  induction cs with
  | nil => rfl
  | cons c cs ih => rw [List.map_cons, byteLength, byteLength, ih, utf8Size_toLower]

/-- Texts that differ in letter case alone are equally long in bytes. -/
theorem byteLength_eq_of_sameLetters {a b : List Char} (h : sameLetters a b = true) : byteLength a = byteLength b := by
  rw [sameLetters, beq_iff_eq] at h
  rw [← byteLength_map_toLower a, h, byteLength_map_toLower]

/-- Cutting a text at a number of bytes gives the characters in front that take as many bytes, if a character ends there. -/
theorem takeBytes?_eq_some_iff {cs head : List Char} {n : Nat} :
    takeBytes? cs n = some head ↔ head <+: cs ∧ byteLength head = n := by
  induction cs generalizing head n with
  | nil =>
    cases n with
    | zero =>
      rw [takeBytes?, byteLength_eq_zero_iff, List.prefix_nil, Option.some.injEq, and_self, eq_comm]
    | succ n =>
      simp only [takeBytes?, List.prefix_nil, reduceCtorEq, false_iff, not_and]
      rintro rfl
      simp [byteLength]
  | cons c cs ih =>
    cases n with
    | zero =>
      rw [takeBytes?, byteLength_eq_zero_iff, Option.some.injEq, eq_comm, iff_and_self]
      rintro rfl
      exact List.nil_prefix
    | succ n =>
      cases head with
      | nil => simp [takeBytes?, byteLength]
      | cons d head =>
        rw [takeBytes?, List.cons_prefix_cons, byteLength]
        split
        · rename_i hle
          simp only [Option.map_eq_some_iff, List.cons.injEq, ih]
          constructor
          · rintro ⟨_, ⟨hfront, hlength⟩, rfl, rfl⟩
            exact ⟨⟨rfl, hfront⟩, by omega⟩
          · rintro ⟨⟨rfl, hfront⟩, hlength⟩
            exact ⟨head, ⟨hfront, by omega⟩, rfl, rfl⟩
        · rename_i hlt
          simp only [reduceCtorEq, false_iff, not_and]
          rintro ⟨rfl, -⟩ hlength
          omega

/-- A text starts with a keyword exactly if characters at its start are those of the keyword up to letter case. -/
theorem startsWithLetters_iff {text keyword : List Char} :
    startsWithLetters text keyword = true ↔ ∃ head, head <+: text ∧ sameLetters head keyword = true := by
  rw [startsWithLetters, Option.any_eq_true]
  constructor
  · rintro ⟨head, hcut, hsame⟩
    exact ⟨head, (takeBytes?_eq_some_iff.mp hcut).1, hsame⟩
  · rintro ⟨head, hfront, hsame⟩
    exact ⟨head, takeBytes?_eq_some_iff.mpr ⟨hfront, byteLength_eq_of_sameLetters hsame⟩, hsame⟩

end SchemaScript.Text
