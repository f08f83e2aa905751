import Mathlib.Data.List.DropRight
import SchemaScript.Text.Blank
import SchemaScript.Text.Search

/-!
# What trimming leaves

Trimming takes blanks off the ends of a text and nothing else: the visible characters stay, in order (`visible_trim`). A text
that holds a visible character ends, blanks aside, with the last one of them (`exists_of_lastVisible`), and what follows about
a text cut at that character is said once here (`trim_concat`, `beforeLast_concat`). So trimming makes no text blank or legible
(`legible_trimmed`). The pieces of a text between separators are those of the library (`splitOn_eq`).
-/

namespace SchemaScript.Text

/-- Whether a text holds nothing but blanks. -/
def AllBlank (cs : List Char) : Prop := ∀ c ∈ cs, isBlank c = true

/-- The characters of a text that are not blank, in order. -/
def visible (cs : List Char) : List Char := cs.filter fun c => !isBlank c

/-- The last character of a text that is not blank. -/
def lastVisible? (cs : List Char) : Option Char := (visible cs).getLast?

/-- Whether a text starts with a character that is not blank. -/
def StartsVisible (cs : List Char) : Prop := ∃ c rest, cs = c :: rest ∧ isBlank c = false

theorem AllBlank.append {a b : List Char} (ha : AllBlank a) (hb : AllBlank b) : AllBlank (a ++ b) :=
  fun c hc => (List.mem_append.1 hc).elim (ha c) (hb c)

theorem allBlank_nil : AllBlank [] := by
  simp [AllBlank]

/-- A line break is blank. -/
theorem allBlank_lf : AllBlank ['\n'] := by
  simp [AllBlank, isBlank]

/-! ## Visible characters -/

@[simp] theorem visible_nil : visible [] = [] := rfl

@[simp] theorem visible_append (a b : List Char) : visible (a ++ b) = visible a ++ visible b :=
  List.filter_append _ _

/-- A text without visible characters is blank. -/
theorem visible_eq_nil_iff {cs : List Char} : visible cs = [] ↔ AllBlank cs := by
  simp [visible, AllBlank, List.filter_eq_nil_iff]

/-- A visible character of the second part hides the first part. -/
theorem lastVisible?_append (a b : List Char) : lastVisible? (a ++ b) = (lastVisible? b).or (lastVisible? a) := by
  rw [lastVisible?, visible_append, List.getLast?_append, lastVisible?, lastVisible?]

/-- A text without a last visible character is blank. -/
theorem lastVisible?_eq_none_iff {cs : List Char} : lastVisible? cs = none ↔ AllBlank cs := by
  rw [lastVisible?, List.getLast?_eq_none_iff, visible_eq_nil_iff]

/-- A visible character alone is the last one. -/
theorem lastVisible?_singleton {c : Char} (h : isBlank c = false) : lastVisible? [c] = some c := by
  simp [lastVisible?, visible, h]

/-- Blanks behind a text do not change its last visible character. -/
theorem lastVisible?_append_blank (a : List Char) {b : List Char} (h : AllBlank b) :
    lastVisible? (a ++ b) = lastVisible? a := by
  rw [lastVisible?_append, lastVisible?_eq_none_iff.2 h, Option.none_or]

/-- The last visible character is not blank. -/
theorem isBlank_of_lastVisible {cs : List Char} {c : Char} (h : lastVisible? cs = some c) : isBlank c = false := by
  have hm : c ∈ visible cs := List.mem_of_getLast? h
  simpa [visible] using (List.mem_filter.1 hm).2

/-- The last visible character stands in the text. -/
theorem mem_of_lastVisible {cs : List Char} {c : Char} (h : lastVisible? cs = some c) : c ∈ cs :=
  (List.mem_filter.1 (List.mem_of_getLast? h)).1

/-- A text with a visible character is cut at the last one: blanks only stand behind it. -/
theorem exists_of_lastVisible {cs : List Char} {c : Char} (h : lastVisible? cs = some c) :
    ∃ x b, cs = x ++ [c] ++ b ∧ AllBlank b := by
  induction cs with
  | nil => simp [lastVisible?] at h
  | cons d cs ih =>
    rw [show d :: cs = [d] ++ cs from rfl, lastVisible?_append] at h
    cases hcs : lastVisible? cs with
    | some e =>
      rw [hcs, Option.some_or, Option.some.injEq] at h
      obtain ⟨x, b, hx, hb⟩ := ih (by rw [hcs, h])
      exact ⟨d :: x, b, by rw [hx]; rfl, hb⟩
    | none =>
      rw [hcs, Option.none_or] at h
      have hd : d = c := (List.mem_singleton.1 (mem_of_lastVisible h)).symm
      exact ⟨[], cs, by rw [hd]; rfl, lastVisible?_eq_none_iff.1 hcs⟩

/-- A text that ends with a visible character has that one as its last. -/
theorem lastVisible?_of_getLast? {cs : List Char} {c : Char} (h : cs.getLast? = some c) (hc : isBlank c = false) :
    lastVisible? cs = some c := by
  obtain ⟨x, rfl⟩ := List.getLast?_eq_some_iff.1 h
  rw [lastVisible?_append, lastVisible?_singleton hc, Option.some_or]

/-! ## Trimming at the ends -/

/-- A text that starts with a visible character has no leading blanks to take off. -/
theorem trimStart_of_visible {cs : List Char} (h : StartsVisible cs) : trimStart cs = cs := by
  obtain ⟨c, rest, rfl, hc⟩ := h
  simp [trimStart, hc]

/-- Blanks in front are taken off. -/
theorem trimStart_append_blank {b : List Char} (h : AllBlank b) (cs : List Char) : trimStart (b ++ cs) = trimStart cs :=
  List.dropWhile_append_of_pos h

/-- Trimming at the start takes blanks off and stops at a visible character. -/
theorem exists_trimStart (cs : List Char) : ∃ b, AllBlank b ∧ cs = b ++ trimStart cs :=
  ⟨cs.takeWhile isBlank, fun _ hc => List.mem_takeWhile_imp hc, List.takeWhile_append_dropWhile.symm⟩

/-- Taking leading blanks off keeps the visible characters. -/
theorem visible_trimStart (cs : List Char) : visible (trimStart cs) = visible cs := by
  obtain ⟨b, hb, h⟩ := exists_trimStart cs
  conv => rhs; rw [h, visible_append, visible_eq_nil_iff.2 hb, List.nil_append]

/-- Nothing is left of a blank text, and of no other. -/
theorem trimStart_eq_nil_iff {cs : List Char} : trimStart cs = [] ↔ AllBlank cs :=
  List.dropWhile_eq_nil_iff

/-- A visible character keeps everything before it: only the blanks of the whole text's start go. -/
theorem trimStart_concat (x : List Char) {c : Char} (hc : isBlank c = false) (rest : List Char) :
    trimStart (x ++ c :: rest) = trimStart x ++ c :: rest := by
  unfold trimStart
  rw [List.dropWhile_append]
  split
  · rename_i h
    rw [List.isEmpty_iff.1 h, List.dropWhile_cons_of_neg (by simp [hc]), List.nil_append]
  · rfl

/-- Blanks behind a text are taken off. -/
theorem trimEnd_append_blank (cs : List Char) {b : List Char} (h : AllBlank b) : trimEnd (cs ++ b) = trimEnd cs := by
  unfold trimEnd
  rw [List.reverse_append, List.dropWhile_append_of_pos (fun c hc => h c (List.mem_reverse.1 hc))]

/-- Nothing is taken off a text that ends with a visible character. -/
theorem trimEnd_concat (x : List Char) {c : Char} (hc : isBlank c = false) : trimEnd (x ++ [c]) = x ++ [c] := by
  simp [trimEnd, hc]

/-- A visible character keeps everything before it, also where only the text behind it is trimmed. -/
theorem trimEnd_append_visible (x : List Char) {c : Char} (hc : isBlank c = false) (rest : List Char) :
    trimEnd (x ++ c :: rest) = x ++ c :: trimEnd rest := by
  have hreverse : ∀ cs, trimEnd cs = (trimStart cs.reverse).reverse := fun _ => rfl
  rw [hreverse, List.reverse_append, List.reverse_cons, List.append_assoc, List.singleton_append, trimStart_concat _ hc,
    List.reverse_append, List.reverse_cons, List.reverse_reverse, List.append_assoc, List.singleton_append, ← hreverse]

/-- A text without its trailing blanks ends with its last visible character. -/
theorem getLast?_trimEnd (cs : List Char) : (trimEnd cs).getLast? = lastVisible? cs := by
  cases h : lastVisible? cs with
  | none =>
    have hb := lastVisible?_eq_none_iff.1 h
    rw [← List.nil_append cs, trimEnd_append_blank [] hb]
    rfl
  | some c =>
    obtain ⟨x, b, rfl, hb⟩ := exists_of_lastVisible h
    rw [trimEnd_append_blank _ hb, trimEnd_concat x (isBlank_of_lastVisible h), List.getLast?_concat]

/-- Trimming at the end takes blanks off. -/
theorem exists_trimEnd (cs : List Char) : ∃ b, AllBlank b ∧ cs = trimEnd cs ++ b := by
  cases h : lastVisible? cs with
  | none =>
    have hb := lastVisible?_eq_none_iff.1 h
    refine ⟨cs, hb, ?_⟩
    conv => rhs; rw [← List.nil_append cs, trimEnd_append_blank [] hb]
    rfl
  | some c =>
    obtain ⟨x, b, rfl, hb⟩ := exists_of_lastVisible h
    exact ⟨b, hb, by rw [trimEnd_append_blank _ hb, trimEnd_concat x (isBlank_of_lastVisible h)]⟩

/-- Taking trailing blanks off keeps the visible characters. -/
theorem visible_trimEnd (cs : List Char) : visible (trimEnd cs) = visible cs := by
  obtain ⟨b, hb, h⟩ := exists_trimEnd cs
  conv => rhs; rw [h, visible_append, visible_eq_nil_iff.2 hb, List.append_nil]

/-- Trimming keeps the visible characters. -/
theorem visible_trim (cs : List Char) : visible (trim cs) = visible cs := by
  rw [trim, visible_trimEnd, visible_trimStart]

/-- A trimmed text ends with its last visible character. -/
theorem getLast?_trim (cs : List Char) : (trim cs).getLast? = lastVisible? cs := by
  rw [trim, getLast?_trimEnd, lastVisible?, visible_trimStart, lastVisible?]

/-- Trimming adds no character. -/
theorem mem_of_mem_trim {cs : List Char} {c : Char} (h : c ∈ trim cs) : c ∈ cs := by
  obtain ⟨before, -, hbefore⟩ := exists_trimStart cs
  obtain ⟨behind, -, hbehind⟩ := exists_trimEnd (trimStart cs)
  rw [hbefore, hbehind]
  exact List.mem_append_right _ (List.mem_append_left _ h)

/-- Nothing is left of a blank text that is trimmed, and of no other. -/
theorem trim_eq_nil_iff {cs : List Char} : trim cs = [] ↔ AllBlank cs := by
  constructor
  · intro h
    rw [← visible_eq_nil_iff, ← visible_trim, h]
    rfl
  · intro h
    rw [trim, trimStart_eq_nil_iff.2 h]
    rfl

theorem trim_ne_nil {cs : List Char} (h : StartsVisible cs) : trim cs ≠ [] := by
  obtain ⟨c, rest, rfl, hc⟩ := h
  rw [Ne, trim_eq_nil_iff]
  intro hb
  rw [hb c List.mem_cons_self] at hc
  exact absurd hc (by decide)

/-- Trimming keeps a visible first character. -/
theorem exists_trim_cons {c : Char} (hc : isBlank c = false) (cs : List Char) : ∃ rest, trim (c :: cs) = c :: rest := by
  have hstart : StartsVisible (c :: cs) := ⟨c, cs, rfl, hc⟩
  have hne := trim_ne_nil hstart
  obtain ⟨b, -, hb⟩ := exists_trimEnd (c :: cs)
  rw [trim, trimStart_of_visible hstart] at hne ⊢
  cases h : trimEnd (c :: cs) with
  | nil => exact absurd h hne
  | cons d rest =>
    rw [h, List.cons_append, List.cons.injEq] at hb
    exact ⟨rest, by rw [hb.1]⟩

/-! ## Trimming a text of several parts -/

/-- A trimmed text that ends, blanks aside, with a visible character is its trimmed start and that character. -/
theorem trim_concat (x : List Char) {c : Char} (hc : isBlank c = false) {b : List Char} (hb : AllBlank b) :
    trim (x ++ [c] ++ b) = trimStart x ++ [c] := by
  rw [trim, List.append_assoc, List.singleton_append, trimStart_concat x hc, ← List.singleton_append,
    ← List.append_assoc, trimEnd_append_blank _ hb, trimEnd_concat _ hc]

theorem trim_trimStart (cs : List Char) : trim (trimStart cs) = trim cs := by
  unfold trim trimStart
  rw [List.dropWhile_idempotent]

/-- Blanks in front of a text are trimmed off. -/
theorem trim_blank_append {b : List Char} (hb : AllBlank b) (cs : List Char) : trim (b ++ cs) = trim cs := by
  rw [trim, trimStart_append_blank hb, trim]

/-- Blanks behind a text do not change what trimming leaves. -/
theorem trim_append_blank (cs : List Char) {b : List Char} (hb : AllBlank b) : trim (cs ++ b) = trim cs := by
  cases h : lastVisible? cs with
  | none =>
    have hcs := lastVisible?_eq_none_iff.1 h
    rw [trim_eq_nil_iff.2 (hcs.append hb), trim_eq_nil_iff.2 hcs]
  | some c =>
    obtain ⟨x, b', rfl, hb'⟩ := exists_of_lastVisible h
    have hc := isBlank_of_lastVisible h
    rw [List.append_assoc, trim_concat x hc (hb'.append hb), trim_concat x hc hb']

theorem trim_trimEnd (cs : List Char) : trim (trimEnd cs) = trim cs := by
  obtain ⟨b, hb, h⟩ := exists_trimEnd cs
  conv => rhs; rw [h, trim_append_blank _ hb]

/-- A text whose parts both start with a visible character is trimmed at the end of its last part only. -/
theorem trim_append {a cs : List Char} (ha : StartsVisible a) (hcs : StartsVisible cs) :
    trim (a ++ cs) = a ++ trim cs := by
  obtain ⟨c, rest, rfl, hc⟩ := ha
  have hstart : trimStart (c :: rest ++ cs) = c :: rest ++ cs := trimStart_of_visible ⟨c, rest ++ cs, rfl, hc⟩
  rw [trim, hstart, trim, trimStart_of_visible hcs]
  cases h : lastVisible? cs with
  | none => exact absurd (trim_eq_nil_iff.2 (lastVisible?_eq_none_iff.1 h)) (trim_ne_nil hcs)
  | some e =>
    obtain ⟨x, b, rfl, hb⟩ := exists_of_lastVisible h
    have he := isBlank_of_lastVisible h
    rw [trimEnd_append_blank _ hb, trimEnd_concat x he, ← List.append_assoc, trimEnd_append_blank _ hb,
      ← List.append_assoc, trimEnd_concat _ he]

/-- What stands before a character at the very end. -/
theorem beforeLast_concat (x : List Char) (c : Char) : beforeLast c (x ++ [c]) = x := by
  simp [beforeLast]

/-! ## Texts cut at a separator -/

/-- The pieces between separators are those of the library. -/
theorem splitOn_eq (c : Char) (cs : List Char) : splitOn c cs = cs.splitOn c := by
  induction cs with
  | nil => rfl
  | cons d cs ih =>
    rw [splitOn, ih, List.splitOn_cons_eq_if_modifyHead]
    by_cases hd : d = c
    · rw [if_pos hd, if_pos (beq_iff_eq.mpr hd)]
    · obtain ⟨piece, rest, hs⟩ := List.exists_cons_of_ne_nil (List.splitOn_ne_nil c cs)
      rw [if_neg hd, if_neg (mt beq_iff_eq.mp hd), hs]
      rfl

section Cut

variable {c : Char} {cs : List Char}

/-- What stands before the first separator. -/
theorem takeWhile_ne_append (h : c ∉ cs) (rest : List Char) : (cs ++ c :: rest).takeWhile (· ≠ c) = cs := by
  have hall : ∀ d ∈ cs, decide (d ≠ c) = true := fun d hd => decide_eq_true (ne_of_mem_of_not_mem hd h)
  rw [List.takeWhile_append_of_pos hall, List.takeWhile_cons_of_neg (by simp), List.append_nil]

/-- The first separator and what stands behind it. -/
theorem dropWhile_ne_append (h : c ∉ cs) (rest : List Char) : (cs ++ c :: rest).dropWhile (· ≠ c) = c :: rest := by
  have hall : ∀ d ∈ cs, decide (d ≠ c) = true := fun d hd => decide_eq_true (ne_of_mem_of_not_mem hd h)
  rw [List.dropWhile_append_of_pos hall, List.dropWhile_cons_of_neg (by simp)]

end Cut

/-! ## Legible texts -/

/-- A text with a character that is not blank. -/
def Legible (s : String) : Prop := ∃ c ∈ s.toList, isBlank c = false

section Legible

variable {a s : String}

/-- A text is legible exactly if it has visible characters. -/
theorem legible_iff : Legible s ↔ visible s.toList ≠ [] := by
  simp [Legible, visible, List.filter_eq_nil_iff]

/-- The test for blank texts fails exactly for the legible ones. -/
theorem allBlank_eq_false_iff : allBlank s = false ↔ Legible s := by
  simp [allBlank, Legible]

/-- The test for blank texts passes exactly for those that are not legible. -/
theorem allBlank_eq_true_iff : allBlank s = true ↔ ¬Legible s := by
  rw [← allBlank_eq_false_iff, Bool.not_eq_false]

/-- Trimming a text makes it neither blank nor legible. -/
theorem legible_trimmed : Legible (trimmed s) ↔ Legible s := by
  rw [legible_iff, legible_iff, trimmed, String.toList_ofList, visible_trim]

/-- A legible text stays legible with something behind it. -/
theorem Legible.append_right (h : Legible a) (b : String) : Legible (a ++ b) := by
  obtain ⟨c, hc, hblank⟩ := h
  exact ⟨c, by rw [String.toList_append]; exact List.mem_append_left _ hc, hblank⟩

/-- What was trimmed is trimmed. -/
theorem trimmed_trimmed (s : String) : trimmed (trimmed s) = trimmed s := by
  rw [trimmed, trimmed, String.toList_ofList]
  nth_rewrite 2 [trim]
  rw [trim_trimEnd, trim_trimStart]

end Legible

end SchemaScript.Text
