import Mathlib.Data.List.Forall2
import SchemaScript.Proofs.Text.Trim
import SchemaScript.Text.CaseMap

/-!
# What the case tables do to ASCII and to blanks

Upper case: two letters from outside ASCII have an ASCII capital, the dotless i and the long s, and no others do
(`mapCase_upper_eq_singleton_iff`). So a text of ASCII characters without an expansion in it is the upper case of exactly the texts
whose capitals it is, letter by letter (`flatMap_mapCase_upper_eq_iff`).

Lower case: letters that have the same lower case one by one have it together, unless a sigma is among them, whose lower case hangs
on its neighbours (`lowerFrom_eq_of_sameLower`). Blanks have no case (`isBlank_eq_of_sameLower`), so such texts are trimmed alike.
-/

namespace SchemaScript.Text

variable {c d : Char}

/-- A run that holds a code point moves it by the distance of the run. -/
theorem CaseRun.image?_eq_some {r : CaseRun} {n m : Nat} (h : r.image? n = some m) :
    r.first ≤ n ∧ n ≤ r.last ∧ ((n : Int) + r.shift).toNat = m := by
  unfold image? at h
  split at h
  · rename_i hholds
    exact ⟨hholds.1, hholds.2.1, Option.some.inj h⟩
  · nomatch h

/-- The other case of a character is an expansion of it, its image in a run, or the character itself. -/
theorem mapCase_cases (expansions : List (Nat × List Nat)) (runs : List CaseRun) (c : Char) :
    (∃ e ∈ expansions, e.1 = c.toNat ∧ mapCase expansions runs c = e.2.map Char.ofNat) ∨
    (∃ r ∈ runs, ∃ m, r.image? c.toNat = some m ∧ mapCase expansions runs c = [Char.ofNat m]) ∨
    mapCase expansions runs c = [c] := by
  unfold mapCase
  cases hexpansion : expansions.lookup c.toNat with
  | some ns =>
    obtain ⟨_, _, rfl, -⟩ := List.lookup_eq_some_iff.mp hexpansion
    exact .inl ⟨(c.toNat, ns), by simp, rfl, rfl⟩
  | none =>
    cases hrun : runs.findSome? (·.image? c.toNat) with
    | some m =>
      obtain ⟨r, hr, himage⟩ := List.exists_of_findSome?_eq_some hrun
      exact .inr (.inl ⟨r, hr, m, himage, rfl⟩)
    | none => exact .inr (.inr rfl)

/-- A code point gives a visible character only if it is that of the character: what is no code point gives NUL. -/
theorem toNat_of_ofNat_eq {n : Nat} (h : Char.ofNat n = d) (hd : 0 < d.toNat) : n = d.toNat := by
  subst h
  by_cases hvalid : n.isValidChar
  · rw [Char.ofNat, dif_pos hvalid]
    rfl
  · rw [Char.ofNat, dif_neg hvalid] at hd
    exact absurd hd (by decide)

/-! ## Capitals -/

/-- The capital of a character among the ASCII characters: the dotless i and the long s have one as well. -/
def capital (c : Char) : Char := if c = 'ı' then 'I' else if c = 'ſ' then 'S' else c.toUpper

/-- The small letters of ASCII, the first run of the table. -/
def smallLetters : CaseRun := ⟨0x61, 0x7A, 1, -32⟩

/-- In ASCII the small letters alone have another capital. -/
theorem mapCase_upper_ascii (h : c.toNat < 128) : mapCase upperExpansions upperRuns c = [c.toUpper] := by
  have hexpansions : ∀ e ∈ upperExpansions, 128 ≤ e.1 := by decide +kernel
  have hruns : ∀ r ∈ upperRuns.tail, 128 ≤ r.first := by decide +kernel
  have hletters : ∀ n < 128, ((smallLetters.image? n).map Char.ofNat).getD (Char.ofNat n) = (Char.ofNat n).toUpper := by
    decide +kernel
  have hexpansion : upperExpansions.lookup c.toNat = none := by
    rw [List.lookup_eq_none_iff]
    intro e he
    have := hexpansions e he
    exact bne_iff_ne.mpr (by omega)
  have hrun : upperRuns.tail.findSome? (·.image? c.toNat) = none := by
    rw [List.findSome?_eq_none_iff]
    intro r hr
    have := hruns r hr
    exact if_neg (by omega)
  have hfirst : upperRuns.findSome? (·.image? c.toNat) = smallLetters.image? c.toNat := by
    rw [show upperRuns = smallLetters :: upperRuns.tail from rfl, List.findSome?_cons, hrun]
    cases smallLetters.image? c.toNat <;> rfl
  have hletter := hletters c.toNat h
  rw [Char.ofNat_toNat] at hletter
  rw [mapCase, hexpansion, hfirst]
  exact congrArg ([·]) hletter

/-- Outside ASCII there is no other case of a letter to the ASCII rule. -/
theorem toUpper_of_not_ascii (h : 128 ≤ c.toNat) : c.toUpper = c := by
  refine dif_neg ?_
  rintro ⟨-, hlast⟩
  have hle : c.toNat ≤ 122 := UInt32.le_iff_toNat_le.mp hlast
  omega

/-- A character becomes a single ASCII character exactly if that is its capital. -/
theorem mapCase_upper_eq_singleton_iff (hpos : 0 < d.toNat) (hascii : d.toNat < 128) :
    mapCase upperExpansions upperRuns c = [d] ↔ capital c = d := by
  by_cases hdotless : c = 'ı'
  · subst hdotless
    rw [show mapCase upperExpansions upperRuns 'ı' = ['I'] by decide +kernel, List.singleton_inj]
    rfl
  by_cases hlong : c = 'ſ'
  · subst hlong
    rw [show mapCase upperExpansions upperRuns 'ſ' = ['S'] by decide +kernel, List.singleton_inj]
    rfl
  rw [capital, if_neg hdotless, if_neg hlong]
  by_cases hc : c.toNat < 128
  · rw [mapCase_upper_ascii hc, List.singleton_inj]
  -- Any other character from outside ASCII becomes none of ASCII.
  have hlarge : 128 ≤ c.toNat := Nat.not_lt.mp hc
  have hself : c ≠ d := by
    rintro rfl
    omega
  rw [toUpper_of_not_ascii hlarge, iff_false_right hself]
  rcases mapCase_cases upperExpansions upperRuns c with ⟨e, he, -, hmap⟩ | ⟨r, hr, m, himage, hmap⟩ | hmap
  · have hexpanded : ∀ e ∈ upperExpansions, 2 ≤ e.2.length := by decide +kernel
    intro h
    have hlength := congrArg List.length (hmap.symm.trans h)
    rw [List.length_map, List.length_singleton] at hlength
    have := hexpanded e he
    omega
  · have hruns : ∀ r ∈ upperRuns, r.last < 128 ∨ 128 ≤ (r.first : Int) + r.shift ∨
        r.first = r.last ∧ (r.first = 'ı'.toNat ∨ r.first = 'ſ'.toNat) := by decide +kernel
    obtain ⟨hfirst, hlast, hm⟩ := CaseRun.image?_eq_some himage
    intro h
    have hd : m = d.toNat := toNat_of_ofNat_eq (List.singleton_inj.mp (hmap.symm.trans h)) hpos
    rcases hruns r hr with hlow | hhigh | ⟨hone, hexception⟩
    · omega
    · omega
    · have hcode : c.toNat = r.first := by omega
      rcases hexception with hexception | hexception
      · exact hdotless (Char.toNat_inj.mp (hcode.trans hexception))
      · exact hlong (Char.toNat_inj.mp (hcode.trans hexception))
  · rw [hmap, List.singleton_inj]
    exact hself

/-- A character whose capital is a hyphen is one. -/
theorem eq_of_capital_eq_hyphen (h : capital c = '-') : c = '-' := by
  unfold capital at h
  split at h
  · exact absurd h (by decide)
  split at h
  · exact absurd h (by decide)
  by_cases hc : c.toNat < 128
  · have htable : ∀ n < 128, (Char.ofNat n).toUpper = '-' → Char.ofNat n = '-' := by decide +kernel
    have hhyphen := htable c.toNat hc
    rw [Char.ofNat_toNat] at hhyphen
    exact hhyphen h
  · rwa [toUpper_of_not_ascii (Nat.not_lt.mp hc)] at h

/-- The upper case of a character holds a hyphen only if the character is one. -/
theorem hyphen_not_mem_mapCase_upper (h : c ≠ '-') : '-' ∉ mapCase upperExpansions upperRuns c := by
  intro hmem
  have hsingle : ∀ x, mapCase upperExpansions upperRuns c = [x] → False := by
    intro x hx
    rw [hx, List.mem_singleton] at hmem
    subst hmem
    exact h (eq_of_capital_eq_hyphen ((mapCase_upper_eq_singleton_iff (by decide) (by decide)).mp hx))
  rcases mapCase_cases upperExpansions upperRuns c with ⟨e, he, -, hmap⟩ | ⟨_, -, _, -, hmap⟩ | hmap
  · have hexpanded : ∀ e ∈ upperExpansions, '-' ∉ e.2.map Char.ofNat := by decide +kernel
    rw [hmap] at hmem
    exact hexpanded e he hmem
  · exact hsingle _ hmap
  · exact hsingle _ hmap

/-- A text of ASCII characters without an expansion in it is the upper case of exactly the texts whose capitals it is, letter by
letter. -/
theorem flatMap_mapCase_upper_eq_iff {cs target : List Char} (hascii : ∀ d ∈ target, 0 < d.toNat ∧ d.toNat < 128)
    (hplain : ∀ e ∈ upperExpansions, ¬e.2.map Char.ofNat <:+: target) :
    cs.flatMap (mapCase upperExpansions upperRuns) = target ↔ cs.map capital = target := by
  induction cs generalizing target with
  | nil => rfl
  | cons c cs ih =>
    have hrest : ∀ {x rest}, target = x :: rest →
        (cs.flatMap (mapCase upperExpansions upperRuns) = rest ↔ cs.map capital = rest) := by
      rintro x rest rfl
      refine ih (fun d hd => hascii d (List.mem_cons_of_mem x hd)) fun e he hinside => ?_
      exact hplain e he (hinside.trans (List.suffix_cons x rest).isInfix)
    rw [List.flatMap_cons, List.map_cons]
    constructor
    · intro h
      have hsingle : ∀ x, mapCase upperExpansions upperRuns c = [x] → capital c :: cs.map capital = target := by
        intro x hx
        rw [hx, List.singleton_append] at h
        obtain ⟨hpos, hlow⟩ := hascii x (h ▸ List.mem_cons_self)
        rw [(mapCase_upper_eq_singleton_iff hpos hlow).mp hx, (hrest h.symm).mp rfl, h]
      rcases mapCase_cases upperExpansions upperRuns c with ⟨e, he, -, hmap⟩ | ⟨_, -, _, -, hmap⟩ | hmap
      · rw [hmap] at h
        exact absurd (h ▸ (List.prefix_append _ _).isInfix) (hplain e he)
      · exact hsingle _ hmap
      · exact hsingle _ hmap
    · intro h
      obtain ⟨hpos, hlow⟩ := hascii (capital c) (h ▸ List.mem_cons_self)
      rw [(mapCase_upper_eq_singleton_iff hpos hlow).mpr rfl, (hrest h.symm).mpr rfl, List.singleton_append, h]

/-! ## Small letters -/

/-- Two characters that differ at most in letter case: they have the same lower case. -/
def SameLower (c d : Char) : Prop := mapCase lowerExpansions lowerRuns c = mapCase lowerExpansions lowerRuns d

/-- The code points of the blanks, as closed ranges. -/
def blankRanges : List (Nat × Nat) := [
  (0x9, 0xD), (0x20, 0x20), (0x85, 0x85), (0xA0, 0xA0), (0x1680, 0x1680), (0x2000, 0x200A), (0x2028, 0x2029), (0x202F, 0x202F),
  (0x205F, 0x205F), (0x3000, 0x3000)]

/-- A blank is in one of the ranges. -/
theorem exists_blankRange (h : isBlank c = true) : ∃ range ∈ blankRanges, range.1 ≤ c.toNat ∧ c.toNat ≤ range.2 := by
  simp only [isBlank, Bool.or_eq_true, Bool.and_eq_true, decide_eq_true_eq, beq_iff_eq] at h
  simp only [blankRanges, List.exists_mem_cons_iff, List.not_mem_nil, false_and, exists_false, or_false]
  omega

/-- A blank is its own lower case. -/
theorem mapCase_lower_of_isBlank (h : isBlank c = true) : mapCase lowerExpansions lowerRuns c = [c] := by
  obtain ⟨range, hrange, hfrom, hto⟩ := exists_blankRange h
  rcases mapCase_cases lowerExpansions lowerRuns c with ⟨e, he, hcode, -⟩ | ⟨r, hr, m, himage, -⟩ | hmap
  · have hapart : ∀ e ∈ lowerExpansions, ∀ range ∈ blankRanges, e.1 < range.1 ∨ range.2 < e.1 := by decide +kernel
    have := hapart e he range hrange
    omega
  · have hapart : ∀ r ∈ lowerRuns, ∀ range ∈ blankRanges, r.last < range.1 ∨ range.2 < r.first := by decide +kernel
    obtain ⟨hfirst, hlast, -⟩ := CaseRun.image?_eq_some himage
    have := hapart r hr range hrange
    omega
  · exact hmap

/-- A blank is the lower case of no other character. -/
theorem eq_of_mapCase_lower_eq_blank (h : isBlank c = true) (hd : mapCase lowerExpansions lowerRuns d = [c]) : d = c := by
  obtain ⟨range, hrange, hfrom, hto⟩ := exists_blankRange h
  rcases mapCase_cases lowerExpansions lowerRuns d with ⟨e, he, -, hmap⟩ | ⟨r, hr, m, himage, hmap⟩ | hmap
  · have hexpanded : ∀ e ∈ lowerExpansions, 2 ≤ e.2.length := by decide +kernel
    have hlength := congrArg List.length (hmap.symm.trans hd)
    rw [List.length_map, List.length_singleton] at hlength
    have := hexpanded e he
    omega
  · have hapart : ∀ r ∈ lowerRuns, ∀ range ∈ blankRanges,
        (r.last : Int) + r.shift < range.1 ∨ (range.2 : Int) < r.first + r.shift := by decide +kernel
    have hpositive : ∀ range ∈ blankRanges, 0 < range.1 := by decide
    have hstart := hpositive range hrange
    obtain ⟨hfirst, hlast, hm⟩ := CaseRun.image?_eq_some himage
    have hcode : m = c.toNat := toNat_of_ofNat_eq (List.singleton_inj.mp (hmap.symm.trans hd)) (by omega)
    have := hapart r hr range hrange
    omega
  · exact List.singleton_inj.mp (hmap.symm.trans hd)

/-- Of two characters that differ in letter case alone both are blank or none is. -/
theorem isBlank_eq_of_sameLower (h : SameLower c d) : isBlank c = isBlank d := by
  cases hc : isBlank c with
  | true =>
    have hd : d = c := eq_of_mapCase_lower_eq_blank hc (h.symm.trans (mapCase_lower_of_isBlank hc))
    rw [hd, hc]
  | false =>
    rw [eq_comm, Bool.eq_false_iff]
    intro hd
    have hc' : c = d := eq_of_mapCase_lower_eq_blank hd (h.trans (mapCase_lower_of_isBlank hd))
    rw [hc', hd] at hc
    nomatch hc

/-- Texts that differ in letter case alone are trimmed at the same places. -/
theorem sameLower_trimStart {a b : List Char} (h : List.Forall₂ SameLower a b) :
    List.Forall₂ SameLower (trimStart a) (trimStart b) := by
  induction h with
  | nil => exact .nil
  | @cons c d a b hcd hab ih =>
    have hblank := isBlank_eq_of_sameLower hcd
    unfold trimStart at ih ⊢
    rw [List.dropWhile_cons, List.dropWhile_cons, hblank]
    split
    · exact ih
    · exact .cons hcd hab

/-- Texts that differ in letter case alone are trimmed at both ends alike. -/
theorem sameLower_trim {a b : List Char} (h : List.Forall₂ SameLower a b) : List.Forall₂ SameLower (trim a) (trim b) :=
  List.rel_reverse (sameLower_trimStart (List.rel_reverse (sameLower_trimStart h)))

/-- Without a capital sigma the lower case of a text is that of its characters. -/
theorem lowerFrom_eq_flatMap {cs : List Char} (h : 'Σ' ∉ cs) (before : List Char) :
    lowerFrom before cs = cs.flatMap (mapCase lowerExpansions lowerRuns) := by
  induction cs generalizing before with
  | nil => rfl
  | cons c cs ih =>
    obtain ⟨hc, hcs⟩ := not_or.mp (mt List.mem_cons.mpr h)
    rw [lowerFrom, if_neg (Ne.symm hc), ih hcs, List.flatMap_cons]

/-- What has a small sigma as its lower case leaves a sigma in the lower case of every text. -/
theorem sigma_mem_lowerFrom {cs : List Char} (hc : c ∈ cs) (h : SameLower 'Σ' c) (before : List Char) :
    'σ' ∈ lowerFrom before cs ∨ 'ς' ∈ lowerFrom before cs := by
  induction cs generalizing before with
  | nil => nomatch hc
  | cons d cs ih =>
    rw [lowerFrom, List.mem_append, List.mem_append]
    rcases List.mem_cons.mp hc with rfl | hmem
    · by_cases hcapital : c = 'Σ'
      · rw [if_pos hcapital, lowerSigma]
        split <;> simp
      · have hsmall : mapCase lowerExpansions lowerRuns c = ['σ'] :=
          h.symm.trans (by decide +kernel : mapCase lowerExpansions lowerRuns 'Σ' = ['σ'])
        rw [if_neg hcapital, hsmall]
        exact .inl (.inl List.mem_cons_self)
    · rcases ih hmem (d :: before) with hsigma | hsigma
      · exact .inl (.inr hsigma)
      · exact .inr (.inr hsigma)

/-- Texts that differ in letter case alone have the same lower case, unless there is a sigma in it. -/
theorem lowerFrom_eq_of_sameLower {a b : List Char} (h : List.Forall₂ SameLower a b) (hsigma : 'σ' ∉ lowerFrom [] a)
    (hfinal : 'ς' ∉ lowerFrom [] a) : lowerFrom [] a = lowerFrom [] b := by
  have hplain : ∀ c ∈ a, ¬SameLower 'Σ' c := by
    intro c hc hsame
    rcases sigma_mem_lowerFrom hc hsame [] with hmem | hmem
    · exact hsigma hmem
    · exact hfinal hmem
  have ha : 'Σ' ∉ a := fun hmem => hplain 'Σ' hmem rfl
  have hmap : a.map (mapCase lowerExpansions lowerRuns) = b.map (mapCase lowerExpansions lowerRuns) := by
    clear hsigma hfinal hplain ha
    induction h with
    | nil => rfl
    | cons hcd _ ih => rw [List.map_cons, List.map_cons, ih, hcd]
  have hb : 'Σ' ∉ b := by
    intro hmem
    obtain ⟨c, hc, hsame⟩ := List.mem_map.mp (hmap ▸ List.mem_map_of_mem hmem)
    exact hplain c hc hsame.symm
  rw [lowerFrom_eq_flatMap ha, lowerFrom_eq_flatMap hb, List.flatMap_def, List.flatMap_def, hmap]

end SchemaScript.Text
