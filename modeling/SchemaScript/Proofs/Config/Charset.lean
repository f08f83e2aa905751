import SchemaScript.Config.Charset
import SchemaScript.Proofs.Action
import SchemaScript.Proofs.Text.CaseMap

/-!
# Which names a character set has

A character set should be found under the name that is listed for it, in any ASCII letter case and with hyphens anywhere, and
nothing else should be found (`FollowsLabels`). What is found are the names without an underscore, letter by letter up to their
capitals (`ofName_iff_isWritten`). So `ISO8859_1` is listed and never found, and two letters from outside ASCII pass for an I and an
S; in all other cases the list is kept to.
-/

namespace SchemaScript.Charset

open Text

/-- The name of a character set without the underscore. -/
def plainName : Charset → String
  | utf8 => "UTF8"
  | iso8859_1 => "ISO88591"
  | win1252 => "WIN1252"

/-- The characters of a name that are no hyphens. -/
def unhyphened (name : String) : List Char := name.toList.filter (· ≠ '-')

/-- A name that is another one in some ASCII letter case and with hyphens put in. -/
def IsSpelled (name label : String) : Prop := (unhyphened name).map Char.toUpper = label.toList

/-- A name whose capitals are those of another one, hyphens aside. -/
def IsWritten (name label : String) : Prop := (unhyphened name).map capital = label.toList

instance (name label : String) : Decidable (IsSpelled name label) := inferInstanceAs (Decidable (_ = _))

instance (name label : String) : Decidable (IsWritten name label) := inferInstanceAs (Decidable (_ = _))

/-- The list of character sets is kept to for a name: a listed name in some spelling gives its character set, and a name that is
neither a listed one in some spelling nor one without its underscore is refused as a configuration. -/
def FollowsLabels (name : String) : Prop :=
  (∀ set : Charset, IsSpelled name set.label → ofName name = .ok set) ∧
  ((∀ set : Charset, ¬IsSpelled name set.label ∧ ¬IsSpelled name set.plainName) →
    ∃ reason, ofName name = .error (.config reason))

/-- What is said of a name that is refused: its normal form and the list of the names. -/
def refusal (name : String) : String :=
  "unsupported charset '" ++ normalize name ++ "'. Supported: " ++
    String.intercalate ", " ([utf8, iso8859_1, win1252].map label)

variable {name : String}

/-- Hyphens make no difference: a name is normalized as what is left of it without them. -/
theorem toList_normalize (name : String) :
    (normalize name).toList = (unhyphened name).flatMap (mapCase upperExpansions upperRuns) := by
  rw [normalize, uppercase, String.toList_ofList, String.toList_ofList, unhyphened]
  induction name.toList with
  | nil => rfl
  | cons c cs ih =>
    rw [List.flatMap_cons, List.filter_append, ih]
    by_cases hc : c = '-'
    · subst hc
      rw [List.filter_cons_of_neg (by simp), show mapCase upperExpansions upperRuns '-' = ['-'] by decide +kernel]
      rfl
    · have hkeep : (mapCase upperExpansions upperRuns c).filter (· ≠ '-') = mapCase upperExpansions upperRuns c := by
        rw [List.filter_eq_self]
        intro d hd
        have hne : d ≠ '-' := by
          rintro rfl
          exact hyphen_not_mem_mapCase_upper hc hd
        simpa using hne
      rw [hkeep, List.filter_cons_of_pos (by simpa using hc), List.flatMap_cons]

-- The characters are gone through one by one: deciding the statement itself would go through all characters there are.
/-- Characters that are all tested at once are ASCII, and none of them is NUL. -/
theorem ascii_of_all {cs : List Char} (h : cs.all (fun d => decide (0 < d.toNat ∧ d.toNat < 128)) = true) :
    ∀ d ∈ cs, 0 < d.toNat ∧ d.toNat < 128 := fun d hd => of_decide_eq_true (List.all_eq_true.mp h d hd)

theorem ascii_label (set : Charset) : ∀ d ∈ set.label.toList, 0 < d.toNat ∧ d.toNat < 128 :=
  ascii_of_all (by cases set <;> decide)

theorem ascii_plainName (set : Charset) : ∀ d ∈ set.plainName.toList, 0 < d.toNat ∧ d.toNat < 128 :=
  ascii_of_all (by cases set <;> decide)

/-- A name is normalized to that of a character set, the underscore aside, exactly if its capitals are that name. -/
theorem normalize_eq_plainName_iff (set : Charset) : normalize name = set.plainName ↔ IsWritten name set.plainName := by
  rw [← String.toList_inj, toList_normalize, IsWritten]
  apply flatMap_mapCase_upper_eq_iff (ascii_plainName set)
  cases set <;> decide +kernel

/-- What the name of a character set is read as depends on its normal form alone. -/
theorem ofName_eq_ok_iff (set : Charset) : ofName name = .ok set ↔ normalize name = set.plainName := by
  unfold ofName
  split
  · cases set <;> simp [plainName, *]
  · cases set <;> simp [plainName, *]
  · cases set <;> simp [plainName, *]
  · cases set <;> simp_all [plainName]

/-- What is said of a name that is refused, with the list written out. -/
theorem refusal_eq (name : String) :
    refusal name = "unsupported charset '" ++ normalize name ++ "'. Supported: UTF8, ISO8859_1, WIN1252" := by
  have hlist : "'. Supported: " ++ String.intercalate ", " ([utf8, iso8859_1, win1252].map label) =
      "'. Supported: UTF8, ISO8859_1, WIN1252" := by decide +kernel
  unfold refusal
  rw [← hlist, ← String.append_assoc]

/-- A name that is read as no character set is refused with the list of the names. -/
theorem ofName_eq_error (h : ∀ set : Charset, normalize name ≠ set.plainName) : ofName name = .error (.config (refusal name)) := by
  rw [refusal_eq]
  unfold ofName
  split
  · exact absurd ‹_› (h utf8)
  · exact absurd ‹_› (h iso8859_1)
  · exact absurd ‹_› (h win1252)
  · rfl

/-- A name is in some ASCII letter case if its capitals say so and it holds none of the two letters that have a capital besides. -/
theorem isSpelled_iff {label : String} (hascii : ∀ d ∈ label.toList, 0 < d.toNat ∧ d.toNat < 128) :
    IsSpelled name label ↔ IsWritten name label ∧ 'ı' ∉ name.toList ∧ 'ſ' ∉ name.toList := by
  have hmem : ∀ c, c ≠ '-' → (c ∈ unhyphened name ↔ c ∈ name.toList) := by
    intro c hc
    simp [unhyphened, hc]
  rw [← hmem 'ı' (by decide), ← hmem 'ſ' (by decide)]
  have hsame : 'ı' ∉ unhyphened name → 'ſ' ∉ unhyphened name →
      (unhyphened name).map capital = (unhyphened name).map Char.toUpper := by
    intro hdotless hlong
    refine List.map_congr_left fun c hc => ?_
    rw [capital, if_neg (ne_of_mem_of_not_mem hc hdotless), if_neg (ne_of_mem_of_not_mem hc hlong)]
  constructor
  · intro h
    have hlow : ∀ c ∈ unhyphened name, c.toUpper.toNat < 128 := by
      intro c hc
      exact (hascii _ (h ▸ List.mem_map_of_mem hc)).2
    have hdotless : 'ı' ∉ unhyphened name := fun hc => absurd (hlow 'ı' hc) (by decide)
    have hlong : 'ſ' ∉ unhyphened name := fun hc => absurd (hlow 'ſ' hc) (by decide)
    exact ⟨(hsame hdotless hlong).trans h, hdotless, hlong⟩
  · rintro ⟨h, hdotless, hlong⟩
    exact (hsame hdotless hlong).symm.trans h

/-- A name is read as a character set exactly if its capitals, hyphens aside, are the name of the set without the underscore, and is
refused with the list of the names otherwise. The list is kept to unless the name is a spelling of the one with the underscore, or
one of the letters that pass for an I and an S stands in a name that is read. -/
theorem ofName_iff_isWritten (name : String) :
    (∀ set : Charset, ofName name = .ok set ↔ IsWritten name set.plainName) ∧
    ((∀ set : Charset, ¬IsWritten name set.plainName) → ofName name = .error (.config (refusal name))) ∧
    (FollowsLabels name ↔ ¬IsSpelled name iso8859_1.label ∧
      ∀ set : Charset, IsWritten name set.plainName → 'ı' ∉ name.toList ∧ 'ſ' ∉ name.toList) := by
  have hok : ∀ set : Charset, ofName name = .ok set ↔ IsWritten name set.plainName :=
    fun set => (ofName_eq_ok_iff set).trans (normalize_eq_plainName_iff set)
  have herror : (∀ set : Charset, ¬IsWritten name set.plainName) → ofName name = .error (.config (refusal name)) :=
    fun h => ofName_eq_error fun set => mt (normalize_eq_plainName_iff set).mp (h set)
  have hlabel : ∀ set : Charset, IsSpelled name set.label ↔
      IsWritten name set.label ∧ 'ı' ∉ name.toList ∧ 'ſ' ∉ name.toList :=
    fun set => isSpelled_iff set.ascii_label
  have hplain : ∀ set : Charset, IsSpelled name set.plainName ↔
      IsWritten name set.plainName ∧ 'ı' ∉ name.toList ∧ 'ſ' ∉ name.toList :=
    fun set => isSpelled_iff set.ascii_plainName
  refine ⟨hok, herror, ?_⟩
  constructor
  · rintro ⟨hlisted, hothers⟩
    constructor
    · intro hspelled
      have hwritten := (hok iso8859_1).mp (hlisted iso8859_1 hspelled)
      have hunderscore : iso8859_1.label.toList = iso8859_1.plainName.toList :=
        ((hlabel iso8859_1).mp hspelled).1.symm.trans hwritten
      exact absurd hunderscore (by decide)
    · intro set hwritten
      by_contra hletters
      have hnone : ∀ other : Charset, ¬IsSpelled name other.label ∧ ¬IsSpelled name other.plainName :=
        fun other => ⟨fun h => hletters ((hlabel other).mp h).2, fun h => hletters ((hplain other).mp h).2⟩
      obtain ⟨reason, hrefused⟩ := hothers hnone
      rw [(hok set).mpr hwritten] at hrefused
      nomatch hrefused
  · rintro ⟨hunderscore, hletters⟩
    constructor
    · intro set hspelled
      cases set with
      | utf8 => exact (hok utf8).mpr ((hlabel utf8).mp hspelled).1
      | iso8859_1 => exact absurd hspelled hunderscore
      | win1252 => exact (hok win1252).mpr ((hlabel win1252).mp hspelled).1
    · intro hnone
      refine ⟨refusal name, herror fun set hwritten => ?_⟩
      exact (hnone set).2 ((hplain set).mpr ⟨hwritten, hletters set hwritten⟩)

/-- A listed name is refused with a list that names it, and a name with a dotless i, which is in no letter case a listed one, is
read. -/
theorem ofName_listedName :
    IsSpelled "ISO8859_1" iso8859_1.label ∧
    ofName "ISO8859_1" = .error (.config "unsupported charset 'ISO8859_1'. Supported: UTF8, ISO8859_1, WIN1252") ∧
    ofName "wın-1252" = .ok win1252 ∧
    ¬∀ (name : String) (set : Charset), IsSpelled name set.label → ofName name = .ok set := by
  have hspelled : IsSpelled "ISO8859_1" iso8859_1.label := by decide +kernel
  have hrefused : ofName "ISO8859_1" = .error (.config "unsupported charset 'ISO8859_1'. Supported: UTF8, ISO8859_1, WIN1252") :=
    Action.eq_error_of_refusal? (by decide +kernel)
  refine ⟨hspelled, hrefused, Action.eq_ok_of_toOption (by decide +kernel), fun h => ?_⟩
  have hread := h "ISO8859_1" iso8859_1 hspelled
  rw [hrefused] at hread
  nomatch hread

end SchemaScript.Charset
