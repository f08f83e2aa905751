import SchemaScript.Config.ConnectionString
import SchemaScript.Proofs.Text.CaseMap
import SchemaScript.Proofs.Text.Digits

/-!
# One setting of a connection string

What one piece of a connection string says: the field that its key names, the value behind its first equals sign, and what is wrong
with it (`Sets`, `valueOf`, `Flawed`). A piece is refused exactly for its flaw, and otherwise gives its field its value and leaves
the other fields alone (`ofSegment_cases`). Blanks around a key and a value and the letter case of a key do not matter to any of this
(`valueOf_trim`, `sets_trim`, `mem_spellings_of_sameLower`).
-/

namespace SchemaScript

open Text

namespace Setting

/-- The key of a piece: what stands before its first equals sign, trimmed and in lower case. -/
def keyOf (piece : List Char) : String := lowercase (String.ofList (trim (piece.takeWhile (· ≠ '='))))

/-- The value of a piece: what stands behind its first equals sign, trimmed. -/
def valueOf (piece : List Char) : String := String.ofList (trim (piece.dropWhile (· ≠ '=')).tail)

/-- A piece whose key is one of the spellings of a field. -/
def Sets (field : Key) (piece : List Char) : Prop := '=' ∈ piece ∧ (keyOf piece, field) ∈ spellings

instance (field : Key) : DecidablePred (Sets field) := fun _ => inferInstanceAs (Decidable (_ ∧ _))

/-- A text that writes a port: at least one decimal digit and nothing else, but for a plus sign in front. -/
def WritesPort (value : String) (port : UInt16) : Prop :=
  ∃ digits, (value.toList = digits ∨ value.toList = '+' :: digits) ∧ digits ≠ [] ∧ (∀ c ∈ digits, c.isDigit = true) ∧
    decimalValue digits = port.toNat

/-- What is wrong with a piece: there is no equals sign in it, or it sets the port to a text that writes none. -/
def Flawed (piece : List Char) : Defect → Prop
  | .noValue segment => '=' ∉ piece ∧ segment = String.ofList piece
  | .badPort value => Sets .port piece ∧ value = valueOf piece ∧ ∀ port, ¬WritesPort value port

end Setting

/-- A connection has the value of a text in a field. -/
def Connection.Has (c : Connection) : Setting.Key → String → Prop
  | .user, value => c.user = value
  | .password, value => c.password = value
  | .database, value => c.database = value
  | .host, value => c.host = value
  | .port, value => Setting.WritesPort value c.port
  | .charset, value => c.charset = value

namespace Setting

variable {piece key value : List Char} {field : Key}

/-! ## Ports -/

/-- A number that fits 16 bits is kept by them. -/
theorem toNat_toUInt16 {n : Nat} (h : n < 65536) : n.toUInt16.toNat = n := by
  rw [Nat.toUInt16, UInt16.toNat_ofNat', Nat.mod_eq_of_lt h]

/-- A port is read from exactly the texts that write it. -/
theorem parsePort?_eq_some_iff {value : String} {port : UInt16} : parsePort? value = some port ↔ WritesPort value port := by
  have hread : ∀ digits, ((decimal? digits).bind fun n => if n < 65536 then some n.toUInt16 else none) = some port ↔
      digits ≠ [] ∧ (∀ c ∈ digits, c.isDigit = true) ∧ decimalValue digits = port.toNat := by
    intro digits
    rw [Option.bind_eq_some_iff]
    constructor
    · rintro ⟨n, hn, hport⟩
      obtain ⟨hne, hdigits, hvalue⟩ := decimal?_eq_some_iff.mp hn
      split at hport
      · rename_i hsmall
        obtain rfl := Option.some.inj hport
        exact ⟨hne, hdigits, hvalue.trans (toNat_toUInt16 hsmall).symm⟩
      · nomatch hport
    · rintro ⟨hne, hdigits, hvalue⟩
      refine ⟨port.toNat, decimal?_eq_some_iff.mpr ⟨hne, hdigits, hvalue⟩, ?_⟩
      rw [if_pos port.toNat_lt]
      exact congrArg some (UInt16.toNat_inj.mp (toNat_toUInt16 port.toNat_lt))
  have hplus : ('+').isDigit = false := by decide
  unfold parsePort? WritesPort
  split
  · rename_i rest hvalue
    rw [hread]
    constructor
    · exact fun h => ⟨rest, .inr hvalue, h⟩
    · rintro ⟨digits, hdigits | hdigits, h⟩
      · have hsign := h.2.1 '+' (by rw [← hdigits, hvalue]; exact List.mem_cons_self)
        rw [hplus] at hsign
        nomatch hsign
      · rw [hvalue] at hdigits
        obtain ⟨-, rfl⟩ := List.cons.inj hdigits
        exact h
  · rename_i cs hsign
    rw [hread]
    constructor
    · exact fun h => ⟨_, .inl rfl, h⟩
    · rintro ⟨digits, hdigits | hdigits, h⟩
      · rw [hdigits]
        exact h
      · exact absurd hdigits (hsign digits)

/-- A text writes one port at most. -/
theorem WritesPort.unique {value : String} {p q : UInt16} (hp : WritesPort value p) (hq : WritesPort value q) : p = q := by
  rw [← parsePort?_eq_some_iff] at hp hq
  exact Option.some.inj (hp.symm.trans hq)

/-! ## The parts of a piece -/

/-- A piece with an equals sign is cut at the first one. -/
theorem exists_parts (h : '=' ∈ piece) : ∃ key value, piece = key ++ '=' :: value ∧ '=' ∉ key := by
  obtain ⟨key, value, hpiece, hkey⟩ := List.eq_append_cons_of_mem h
  exact ⟨key, value, hpiece, hkey⟩

/-- The key of a piece stands before its first equals sign, trimmed and in lower case. -/
theorem keyOf_append (h : '=' ∉ key) (value : List Char) :
    keyOf (key ++ '=' :: value) = lowercase (String.ofList (trim key)) := by
  rw [keyOf, takeWhile_ne_append h]

/-- The value of a piece stands behind its first equals sign, trimmed. -/
theorem valueOf_append (h : '=' ∉ key) (value : List Char) : valueOf (key ++ '=' :: value) = String.ofList (trim value) := by
  rw [valueOf, dropWhile_ne_append h, List.tail_cons]

/-- A trimmed piece is made of a trimmed key and a trimmed value. -/
theorem trim_parts (key value : List Char) : trim (key ++ '=' :: value) = trimStart key ++ '=' :: trimEnd value := by
  have hvisible : isBlank '=' = false := by decide
  rw [trim, trimStart_concat key hvisible, trimEnd_append_visible _ hvisible]

/-- Trimming takes no equals sign away. -/
theorem mem_trim_iff : '=' ∈ trim piece ↔ '=' ∈ piece := by
  refine ⟨mem_of_mem_trim, fun h => ?_⟩
  obtain ⟨key, value, rfl, -⟩ := exists_parts h
  rw [trim_parts]
  exact List.mem_append_right _ List.mem_cons_self

/-- Trimming a piece changes neither its key nor its value. -/
theorem keyOf_trim (h : '=' ∈ piece) : keyOf (trim piece) = keyOf piece := by
  obtain ⟨key, value, rfl, hkey⟩ := exists_parts h
  have hstart : '=' ∉ trimStart key := fun hmem => hkey ((List.dropWhile_sublist _).subset hmem)
  rw [trim_parts, keyOf_append hstart, keyOf_append hkey, trim_trimStart]

/-- Trimming a piece changes no value. -/
theorem valueOf_trim (h : '=' ∈ piece) : valueOf (trim piece) = valueOf piece := by
  obtain ⟨key, value, rfl, hkey⟩ := exists_parts h
  have hstart : '=' ∉ trimStart key := fun hmem => hkey ((List.dropWhile_sublist _).subset hmem)
  rw [trim_parts, valueOf_append hstart, valueOf_append hkey, trim_trimEnd]

/-- Trimming a piece does not change which field it sets. -/
theorem sets_trim : Sets field (trim piece) ↔ Sets field piece := by
  rw [Sets, Sets, mem_trim_iff]
  refine and_congr_right fun h => ?_
  rw [keyOf_trim h]

/-! ## Spellings -/

/-- No spelling stands for two fields. -/
theorem lookup_spellings_eq_some_iff {key : String} : spellings.lookup key = some field ↔ (key, field) ∈ spellings := by
  constructor
  · intro h
    obtain ⟨before, behind, hspellings, -⟩ := List.lookup_eq_some_iff.mp h
    rw [hspellings]
    simp
  · intro h
    have hall : ∀ p ∈ spellings, spellings.lookup p.1 = some p.2 := by decide
    exact hall _ h

/-- A piece sets one field at most. -/
theorem eq_of_sets {field' : Key} (h : Sets field piece) (h' : Sets field' piece) : field = field' :=
  Option.some.inj ((lookup_spellings_eq_some_iff.mpr h.2).symm.trans (lookup_spellings_eq_some_iff.mpr h'.2))

/-- Keys that differ in letter case alone are spellings of the same fields. -/
theorem mem_spellings_of_sameLower {key key' : List Char} (h : List.Forall₂ SameLower key key')
    (hkey : (lowercase (String.ofList key), field) ∈ spellings) : (lowercase (String.ofList key'), field) ∈ spellings := by
  have hspelling : ∀ p ∈ spellings, 'σ' ∉ p.1.toList ∧ 'ς' ∉ p.1.toList := by decide
  obtain ⟨hsigma, hfinal⟩ := hspelling _ hkey
  rw [lowercase, String.toList_ofList, String.toList_ofList] at hsigma hfinal
  rw [lowercase, String.toList_ofList] at hkey ⊢
  rwa [← lowerFrom_eq_of_sameLower h hsigma hfinal]

/-! ## What a piece does -/

/-- A segment with an equals sign is the setting of its key and its value. -/
theorem ofSegment_eq_make (h : '=' ∈ piece) : ofSegment piece = make (keyOf piece) (valueOf piece) := by
  obtain ⟨key, value, rfl, hkey⟩ := exists_parts h
  rw [keyOf_append hkey, valueOf_append hkey, ofSegment, dropWhile_ne_append hkey, takeWhile_ne_append hkey]

/-- A segment without an equals sign has no value. -/
theorem ofSegment_eq_noValue (h : '=' ∉ piece) : ofSegment piece = .error (.noValue (String.ofList piece)) := by
  have hall : ∀ c ∈ piece, decide (c ≠ '=') = true := fun c hc => decide_eq_true (ne_of_mem_of_not_mem hc h)
  rw [ofSegment, List.dropWhile_eq_nil_iff.mpr hall]

/-- A piece is flawless if it has an equals sign and, where it sets the port, a value that writes one. -/
theorem not_flawed_iff : (∀ defect, ¬Flawed piece defect) ↔
    '=' ∈ piece ∧ (Sets .port piece → ∃ port, WritesPort (valueOf piece) port) := by
  constructor
  · intro h
    constructor
    · by_contra hnone
      exact h (.noValue _) ⟨hnone, rfl⟩
    · intro hsets
      by_contra hnone
      exact h (.badPort _) ⟨hsets, rfl, not_exists.mp hnone⟩
  · rintro ⟨hmem, hport⟩ defect hflawed
    cases defect with
    | noValue segment => exact hflawed.1 hmem
    | badPort value =>
      obtain ⟨hsets, rfl, hnone⟩ := hflawed
      obtain ⟨port, hwrites⟩ := hport hsets
      exact hnone port hwrites

/-- A piece has one flaw at most. -/
theorem Flawed.unique {d d' : Defect} (h : Flawed piece d) (h' : Flawed piece d') : d = d' := by
  cases d with
  | noValue =>
    cases d' with
    | noValue => rw [h.2, h'.2]
    | badPort => exact absurd h'.1.1 h.1
  | badPort =>
    cases d' with
    | noValue => exact absurd h.1.1 h'.1
    | badPort => rw [h.2.1, h'.2.1]

/-- A setting does what a piece says: a connection changed by it has the value of the piece in the field that the piece sets, and is
as before in the others. -/
def Follows (s : Setting) (piece : List Char) : Prop :=
  ∀ c : Connection, (∀ field, Sets field piece → (c.change s).Has field (valueOf piece)) ∧
    ∀ field, ¬Sets field piece → ∀ value, c.Has field value → (c.change s).Has field value

/-- A setting follows a piece if it gives the field of the piece its value and keeps the other fields. -/
theorem follows_of_sets {s : Setting} (h : Sets field piece) (hgives : ∀ c : Connection, (c.change s).Has field (valueOf piece))
    (hkeeps : ∀ c : Connection, ∀ other, other ≠ field → ∀ value, c.Has other value → (c.change s).Has other value) :
    Follows s piece := by
  intro c
  constructor
  · intro other hother
    rw [eq_of_sets hother h]
    exact hgives c
  · intro other hother
    refine hkeeps c other ?_
    rintro rfl
    exact hother h

/-- A piece is refused for its flaw. Without one it is read as a setting that does what the piece says. -/
theorem ofSegment_cases (piece : List Char) :
    (∃ defect, ofSegment piece = .error defect ∧ Flawed piece defect) ∨
    ∃ s, ofSegment piece = .ok s ∧ (∀ defect, ¬Flawed piece defect) ∧ Follows s piece := by
  by_cases h : '=' ∈ piece
  · rw [ofSegment_eq_make h, make]
    cases hfield : spellings.lookup (keyOf piece) with
    | none =>
      have hnone : ∀ field, ¬Sets field piece := by
        intro field hsets
        rw [lookup_spellings_eq_some_iff.mpr hsets.2] at hfield
        nomatch hfield
      refine .inr ⟨_, rfl, not_flawed_iff.mpr ⟨h, fun hsets => absurd hsets (hnone .port)⟩, fun c => ?_⟩
      exact ⟨fun field hsets => absurd hsets (hnone field), fun _ _ _ hvalue => hvalue⟩
    | some field =>
      have hsets : Sets field piece := ⟨h, lookup_spellings_eq_some_iff.mp hfield⟩
      cases field with
      | port =>
        cases hport : parsePort? (valueOf piece) with
        | none =>
          refine .inl ⟨_, rfl, hsets, rfl, fun port hwrites => ?_⟩
          rw [parsePort?_eq_some_iff.mpr hwrites] at hport
          nomatch hport
        | some port =>
          have hwrites : WritesPort (valueOf piece) port := parsePort?_eq_some_iff.mp hport
          refine .inr ⟨_, rfl, not_flawed_iff.mpr ⟨h, fun _ => ⟨port, hwrites⟩⟩, follows_of_sets hsets (fun _ => hwrites) ?_⟩
          intro c other hne value hvalue
          cases other <;> first | exact hvalue | exact absurd rfl hne
      | _ =>
        have hport : ¬Sets .port piece := fun hport => nomatch eq_of_sets hsets hport
        refine .inr ⟨_, rfl, not_flawed_iff.mpr ⟨h, fun hsets => absurd hsets hport⟩, follows_of_sets hsets (fun _ => rfl) ?_⟩
        intro c other hne value hvalue
        cases other <;> first | exact hvalue | exact absurd rfl hne
  · exact .inl ⟨_, ofSegment_eq_noValue h, h, rfl⟩

end Setting

end SchemaScript
