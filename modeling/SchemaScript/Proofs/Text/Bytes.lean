import Mathlib.Data.String.Basic

/-!
# The order of texts is the order of their bytes

UTF-8 keeps the order of the characters: a character in front of another one is written in bytes in front of the bytes of the other
one, whatever follows them (`encode_lt`). The first byte of a character tells how many there are, the bytes behind it take six bits
each, and more bytes come with a greater first byte (`Orderly`). So texts are ordered as their bytes are (`lt_iff_bytes_lt`).
-/

namespace SchemaScript.Text

/-- The UTF-8 bytes of a text. -/
def bytes (s : String) : List UInt8 := s.toUTF8.data.toList

/-- The bytes of a text are those of its characters, one after the other. -/
theorem bytes_eq_flatMap (s : String) : bytes s = s.toList.flatMap String.utf8EncodeChar := by
  have hencode : s.toByteArray = s.toList.utf8Encode := String.utf8Encode_toList.symm
  rw [bytes, String.toUTF8_eq_toByteArray, hencode, List.utf8Encode, List.data_toByteArray]

/-! ## The bytes of a character -/

/-- A smaller first byte decides. -/
theorem ofNat_cons_lt {a b : Nat} (h : a < b) (hb : b < 256) (xs ys : List UInt8) : UInt8.ofNat a :: xs < UInt8.ofNat b :: ys := by
  refine List.cons_lt_cons_iff.mpr (.inl (UInt8.lt_iff_toNat_lt.mpr ?_))
  rw [UInt8.toNat_ofNat', UInt8.toNat_ofNat', Nat.mod_eq_of_lt hb, Nat.mod_eq_of_lt (h.trans hb)]
  exact h

/-- Numbers are written with a first byte of a range, and those below a bound in their order, whatever follows them. -/
structure Orderly (write : Nat → List UInt8) (bound lo hi : Nat) : Prop where
  starts : ∀ v, ∃ b rest, write v = UInt8.ofNat b :: rest ∧ lo ≤ b ∧ b < hi
  ordered : ∀ u v, u < v → v < bound → ∀ xs ys, write u ++ xs < write v ++ ys

/-- The byte of a number of less than `size` behind a mark. -/
def lead (size mark u : Nat) : List UInt8 := [UInt8.ofNat (u % size + mark)]

/-- The bytes of a number whose last six bits are in a byte of their own. -/
def continued (front : Nat → List UInt8) (v : Nat) : List UInt8 := front (v / 64) ++ [UInt8.ofNat (v % 64 + 128)]

/-- One byte behind a mark keeps the order of the numbers that it holds. -/
theorem orderly_lead {size mark : Nat} (hsize : 0 < size) (h : size + mark ≤ 256) :
    Orderly (lead size mark) size mark (size + mark) where
  starts v := ⟨v % size + mark, [], rfl, by omega, by have := Nat.mod_lt v hsize; omega⟩
  ordered u v huv hv xs ys := by
    rw [lead, lead, Nat.mod_eq_of_lt hv, Nat.mod_eq_of_lt (huv.trans hv)]
    exact ofNat_cons_lt (by omega) (by omega) xs ys

/-- A byte for six more bits keeps the order of the numbers. -/
theorem Orderly.continued {front : Nat → List UInt8} {bound lo hi : Nat} (h : Orderly front bound lo hi) :
    Orderly (continued front) (64 * bound) lo hi where
  starts v := by
    obtain ⟨b, rest, hfront, hlo, hhi⟩ := h.starts (v / 64)
    exact ⟨b, rest ++ [UInt8.ofNat (v % 64 + 128)], by rw [Text.continued, hfront, List.cons_append], hlo, hhi⟩
  ordered u v huv hv xs ys := by
    rw [Text.continued, Text.continued, List.append_assoc, List.append_assoc]
    rcases Nat.lt_or_eq_of_le (Nat.div_le_div_right (c := 64) huv.le) with hlt | heq
    · exact h.ordered _ _ hlt (by omega) _ _
    · rw [heq]
      exact List.append_left_lt (ofNat_cons_lt (by omega) (by omega) xs ys)

/-- Small numbers may be written in one way and the others in another way, with greater first bytes. -/
theorem Orderly.ite {f g : Nat → List UInt8} {n bound lo mid mid' hi : Nat} (hf : Orderly f (n + 1) lo mid)
    (hg : Orderly g bound mid' hi) (hmid : mid ≤ mid') (hhi : hi ≤ 256) :
    Orderly (fun v => if v ≤ n then f v else g v) bound lo hi where
  starts v := by
    obtain ⟨b, rest, hb, hlo, hlt⟩ := hf.starts v
    obtain ⟨b', rest', hb', hlo', hlt'⟩ := hg.starts v
    split
    · exact ⟨b, rest, hb, hlo, by omega⟩
    · exact ⟨b', rest', hb', by omega, hlt'⟩
  ordered u v huv hv xs ys := by
    by_cases hvn : v ≤ n
    · rw [if_pos hvn, if_pos (huv.le.trans hvn)]
      exact hf.ordered u v huv (by omega) xs ys
    rw [if_neg hvn]
    by_cases hun : u ≤ n
    · obtain ⟨b, rest, hb, -, hlt⟩ := hf.starts u
      obtain ⟨b', rest', hb', hlo', hlt'⟩ := hg.starts v
      rw [if_pos hun, hb, hb', List.cons_append, List.cons_append]
      exact ofNat_cons_lt (by omega) (by omega) _ _
    · rw [if_neg hun]
      exact hg.ordered u v huv hv xs ys

/-- The bytes of a number of a character. -/
def encode (v : Nat) : List UInt8 :=
  if v ≤ 0x7F then lead 128 0 v
  else if v ≤ 0x7FF then continued (lead 32 192) v
  else if v ≤ 0xFFFF then continued (continued (lead 16 224)) v
  else continued (continued (continued (lead 8 240))) v

/-- A character is written as its code is. -/
theorem utf8EncodeChar_eq (c : Char) : String.utf8EncodeChar c = encode c.val.toNat := by
  unfold String.utf8EncodeChar encode
  dsimp only
  split_ifs with h₁ h₂ h₃
  · rw [lead, Nat.mod_eq_of_lt (by omega)]
    rfl
  · rfl
  · simp only [continued, lead, Nat.div_div_eq_div_mul]
    rfl
  · simp only [continued, lead, Nat.div_div_eq_div_mul]
    rfl

/-- The codes of characters are written in their order. -/
theorem orderly_encode : Orderly encode 0x200000 0 248 :=
  .ite (orderly_lead (by decide) (by decide)) (.ite (orderly_lead (by decide) (by decide)).continued
    (.ite (orderly_lead (by decide) (by decide)).continued.continued
      (orderly_lead (by decide) (by decide)).continued.continued.continued (by decide) (by decide)) (by decide) (by decide))
    (by decide) (by decide)

/-- The bytes of a character in front of another one are in front of the bytes of the other one, whatever follows. -/
theorem encode_lt {c d : Char} (h : c < d) (xs ys : List UInt8) :
    String.utf8EncodeChar c ++ xs < String.utf8EncodeChar d ++ ys := by
  have hd : d.val.toNat < 0x200000 := by
    rcases d.valid with hd | hd
    · exact hd.trans (by decide)
    · exact hd.2.trans (by decide)
  rw [utf8EncodeChar_eq, utf8EncodeChar_eq]
  exact orderly_encode.ordered _ _ h hd xs ys

/-! ## The bytes of a text -/

/-- A text in front of another one has bytes in front of those of the other one, by induction over the order of lists. -/
theorem flatMap_lt_of_lt {cs ds : List Char} (h : cs < ds) :
    cs.flatMap String.utf8EncodeChar < ds.flatMap String.utf8EncodeChar := by
  induction h with
  | nil =>
    rename_i d ds
    obtain ⟨b, rest, hb, -, -⟩ := orderly_encode.starts d.val.toNat
    rw [List.flatMap_cons, utf8EncodeChar_eq, hb]
    exact List.nil_lt_cons _ _
  | rel h => exact encode_lt h _ _
  | cons _ ih => exact List.append_left_lt ih

/-- Texts are ordered as their bytes are. -/
theorem lt_iff_bytes_lt {a b : String} : a < b ↔ bytes a < bytes b := by
  have hlt : ∀ {a b : String}, a < b → bytes a < bytes b := by
    intro a b h
    rw [bytes_eq_flatMap, bytes_eq_flatMap]
    exact flatMap_lt_of_lt h
  refine ⟨hlt, fun h => ?_⟩
  rcases lt_trichotomy a b with hab | rfl | hba
  · exact hab
  · exact absurd h (List.lt_irrefl _)
  · exact absurd h (List.lt_asymm (hlt hba))

end SchemaScript.Text
