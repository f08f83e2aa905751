import Mathlib.Data.Nat.Digits.Defs
import Mathlib.Tactic.Ring
import SchemaScript.Text.Digits

/-!
# Numbers in decimal digits

A text of ASCII digits is read as the number that it writes in base ten, first digit first, and every other text is refused
(`decimal?_eq_some_iff`). A number that is printed is read back, also with its sign (`integer?_toString`).
-/

namespace SchemaScript.Text

/-- The number that some characters write as decimal digits, first digit first. -/
def decimalValue (cs : List Char) : Nat := Nat.ofDigits 10 (cs.map (·.toNat - 48)).reverse

/-- One more digit in front counts by its place. -/
theorem decimalValue_cons (c : Char) (cs : List Char) :
    decimalValue (c :: cs) = decimalValue cs + 10 ^ cs.length * (c.toNat - 48) := by
  rw [decimalValue, List.map_cons, List.reverse_cons, Nat.ofDigits_append, Nat.ofDigits_singleton, List.length_reverse,
    List.length_map, decimalValue]

/-- Digits behind a number are read in its base: the number moves up by one place for each of them. -/
theorem digitsFrom?_eq_some_iff {n m : Nat} {cs : List Char} :
    digitsFrom? n cs = some m ↔ (∀ c ∈ cs, c.isDigit = true) ∧ decimalValue cs + 10 ^ cs.length * n = m := by
  induction cs generalizing n with
  | nil => simp [digitsFrom?, decimalValue]
  | cons c cs ih =>
    rw [digitsFrom?, digitValue?, List.forall_mem_cons]
    by_cases hc : c.isDigit = true
    · rw [if_pos hc, Option.bind_some, ih, decimalValue_cons, List.length_cons]
      have hplaces : decimalValue cs + 10 ^ cs.length * (10 * n + (c.toNat - 48)) =
          decimalValue cs + 10 ^ cs.length * (c.toNat - 48) + 10 ^ (cs.length + 1) * n := by ring
      rw [hplaces, and_assoc]
      exact (and_iff_right hc).symm
    · rw [if_neg hc, Option.bind_none]
      simp [hc]

/-- A text is read as a number exactly if it is at least one digit and nothing else, and the number is the one it writes. -/
theorem decimal?_eq_some_iff {n : Nat} {cs : List Char} :
    decimal? cs = some n ↔ cs ≠ [] ∧ (∀ c ∈ cs, c.isDigit = true) ∧ decimalValue cs = n := by
  cases cs with
  | nil => simp [decimal?]
  | cons c cs =>
    rw [decimal?, List.isEmpty_cons, if_neg Bool.false_ne_true, digitsFrom?_eq_some_iff, Nat.mul_zero, Nat.add_zero]
    exact (and_iff_right (List.cons_ne_nil c cs)).symm

/-! ## Printed numbers -/

/-- Digits are read as the library reads them. -/
theorem digitsFrom?_eq_ofDigitChars {cs : List Char} (h : ∀ c ∈ cs, c.isDigit = true) (n : Nat) :
    digitsFrom? n cs = some (Nat.ofDigitChars 10 cs n) := by
  induction cs generalizing n with
  | nil => rfl
  | cons c cs ih =>
    obtain ⟨hc, hcs⟩ := List.forall_mem_cons.mp h
    rw [digitsFrom?, digitValue?, if_pos hc, Option.bind_some, ih hcs, Nat.ofDigitChars_cons]
    rfl

/-- The decimal form of a natural number holds digits only. -/
theorem isDigit_of_mem_toString {n : Nat} {c : Char} (h : c ∈ (toString n).toList) : c.isDigit = true := by
  rw [Nat.toString_eq_ofList_toDigits, String.toList_ofList] at h
  exact Nat.isDigit_of_mem_toDigits (by decide) (by decide) h

/-- A number that is printed is read back. -/
theorem decimal?_toString (n : Nat) : decimal? (toString n).toList = some n := by
  have hdigits := fun c (h : c ∈ (toString n).toList) => isDigit_of_mem_toString h
  rw [Nat.toString_eq_ofList_toDigits, String.toList_ofList] at hdigits ⊢
  rw [decimal?, if_neg (by simp), digitsFrom?_eq_ofDigitChars hdigits,
    Nat.ofDigitChars_toDigits (by decide) (by decide)]

/-- The whole number that a text writes in decimal digits, with a minus sign in front if it is below zero. -/
def integer? (cs : List Char) : Option Int :=
  if cs.head? = some '-' then (decimal? cs.tail).map fun n : Nat => -(n : Int) else (decimal? cs).map fun n : Nat => (n : Int)

/-- A number is printed with digits, and with a minus sign in front exactly if it is below zero. -/
theorem toString_cases (n : Int) :
    (0 ≤ n ∧ toString n = toString n.natAbs) ∨ (n < 0 ∧ toString n = "-" ++ toString n.natAbs) := by
  cases n with
  | ofNat m => exact .inl ⟨Int.natCast_nonneg m, rfl⟩
  | negSucc m => exact .inr ⟨Int.negSucc_lt_zero m, rfl⟩

/-- The decimal form of an integer holds digits and a minus sign only. -/
theorem isDigit_of_mem_toString_int {n : Int} {c : Char} (h : c ∈ (toString n).toList) : c = '-' ∨ c.isDigit = true := by
  rcases toString_cases n with ⟨-, hn⟩ | ⟨-, hn⟩
  · exact .inr (isDigit_of_mem_toString (hn ▸ h))
  · rw [hn, String.toList_append, List.mem_append] at h
    exact h.imp List.mem_singleton.mp isDigit_of_mem_toString

/-- A whole number that is printed is read back with its sign. -/
theorem integer?_toString (n : Int) : integer? (toString n).toList = some n := by
  rcases toString_cases n with ⟨hsign, hn⟩ | ⟨hsign, hn⟩
  · have hhead : (toString n.natAbs).toList.head? ≠ some '-' := by
      intro h
      exact absurd (isDigit_of_mem_toString (List.mem_of_mem_head? h)) (by decide)
    rw [hn, integer?, if_neg hhead, decimal?_toString, Option.map_some, Int.natAbs_of_nonneg hsign]
  · have hchars : ("-" ++ toString n.natAbs).toList = '-' :: (toString n.natAbs).toList := by
      rw [String.toList_append]
      rfl
    rw [hn, hchars, integer?, List.head?_cons, if_pos rfl, List.tail_cons, decimal?_toString, Option.map_some,
      Int.ofNat_natAbs_of_nonpos hsign.le, Int.neg_neg]

/-- Whole numbers that are printed alike are the same. -/
theorem toString_int_inj {m n : Int} : toString m = toString n ↔ m = n := by
  refine ⟨fun h => ?_, congrArg toString⟩
  have hread := integer?_toString m
  rw [h, integer?_toString] at hread
  exact (Option.some.inj hread).symm

end SchemaScript.Text
