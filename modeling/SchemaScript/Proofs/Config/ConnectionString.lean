import Mathlib.Logic.Relation
import SchemaScript.Proofs.Action
import SchemaScript.Proofs.Config.Setting

/-!
# What a connection string means

The pieces of a connection string between its semicolons are trimmed, and blank ones are left out. A flaw of the first flawed
segment is what the string is refused for. Without a flaw every field has the value that the last segment of the field gives it, or
its default (`Describes`). So the string may be written in many ways: segments of different fields in another order, keys in another
letter case, blank segments and unknown keys put in, blanks put around keys and values (`Retouched`).
-/

namespace SchemaScript.Connection

open Text Setting

/-- The trimmed pieces of a connection string, without the blank ones. -/
def segmentsOf (pieces : List (List Char)) : List (List Char) := (pieces.map trim).filter (· ≠ [])

/-- The values that some pieces give a field, in order. -/
def values (field : Key) (pieces : List (List Char)) : List String := (pieces.filter (Sets field ·)).map valueOf

/-- The value of a field that no piece sets. -/
def defaultText : Key → String
  | .user => "SYSDBA"
  | .password => ""
  | .database => ""
  | .host => "localhost"
  | .port => "3050"
  | .charset => "UTF8"

/-- The connection that some segments describe: none of them is flawed, and each field has the value that is given for it last, or
its default. -/
def Describes (segments : List (List Char)) (c : Connection) : Prop :=
  (∀ segment ∈ segments, ∀ defect, ¬Flawed segment defect) ∧
  ∀ field, c.Has field ((values field segments).getLast?.getD (defaultText field))

/-- What comes of a connection string. -/
def result (text : String) : Except Failure Connection := (Action.start (ofString text) ()).1

/-- One change in the way a connection string is written, on its pieces between semicolons. -/
inductive Retouched : List (List Char) → List (List Char) → Prop
  /-- The pieces are put in another order, but those that set the same field stay in order. -/
  | reorder {pieces pieces' : List (List Char)} (hperm : pieces.Perm pieces')
      (horder : ∀ field, pieces.filter (Sets field ·) = pieces'.filter (Sets field ·)) : Retouched pieces pieces'
  /-- A key is written in another letter case. -/
  | recase (before behind : List (List Char)) {key key' : List Char} (value : List Char) (hkey : '=' ∉ key) (hkey' : '=' ∉ key')
      (hcase : List.Forall₂ SameLower key key') :
      Retouched (before ++ (key ++ '=' :: value) :: behind) (before ++ (key' ++ '=' :: value) :: behind)
  /-- A blank piece is put in. -/
  | blank (before behind : List (List Char)) {piece : List Char} (hblank : AllBlank piece) :
      Retouched (before ++ behind) (before ++ piece :: behind)
  /-- A piece is put in whose key means nothing. -/
  | ignore (before behind : List (List Char)) {piece : List Char} (hmem : '=' ∈ piece) (hunknown : ∀ field, ¬Sets field piece) :
      Retouched (before ++ behind) (before ++ piece :: behind)
  /-- Blanks are put around a key and around its value. -/
  | pad (before behind : List (List Char)) {key : List Char} (value : List Char) {b₁ b₂ b₃ b₄ : List Char} (hkey : '=' ∉ key)
      (h₁ : AllBlank b₁) (h₂ : AllBlank b₂) (h₃ : AllBlank b₃) (h₄ : AllBlank b₄) :
      Retouched (before ++ (key ++ '=' :: value) :: behind)
        (before ++ ((b₁ ++ key ++ b₂) ++ '=' :: (b₃ ++ value ++ b₄)) :: behind)

/-! ## Reading segments one after the other -/

/-- The segments of a text are those of its pieces between semicolons. -/
theorem segments_eq (text : String) : segments text = segmentsOf (text.toList.splitOn ';') := by
  rw [segments, segmentsOf, Text.splitOn_eq]
  congr 1
  funext piece
  cases piece <;> rfl

/-- A piece in front gives its value first if it sets the field. -/
theorem values_cons (field : Key) (piece : List Char) (pieces : List (List Char)) :
    values field (piece :: pieces) = (if Sets field piece then [valueOf piece] else []) ++ values field pieces := by
  unfold values
  by_cases h : Sets field piece
  · rw [List.filter_cons_of_pos (by simpa using h), if_pos h, List.map_cons, List.singleton_append]
  · rw [List.filter_cons_of_neg (by simpa using h), if_neg h, List.nil_append]

/-- The notes of a setting are reported, and nothing else happens. -/
theorem on_settingNotes (s : Setting) (j : Journal Unit) :
    Action.on ((settingNotes s).forM fun e => Action.note e.level e.text) j =
      (.ok (), { j with log := j.log ++ settingNotes s }) := by
  cases s with
  | unknown key => rfl
  | _ => exact congrArg (fun log => (Except.ok (), { j with log := log })) (List.append_nil j.log).symm

/-- Reading a setting reports it and goes on with the changed connection. -/
theorem on_changeAll_cons {c : Connection} {segment : List Char} {s : Setting} (h : Setting.ofSegment segment = .ok s)
    (rest : List (List Char)) (j : Journal Unit) :
    Action.on (c.changeAll (segment :: rest)) j =
      Action.on ((c.change s).changeAll rest) { j with log := j.log ++ settingNotes s } := by
  rw [changeAll, h]
  exact Action.on_bind_ok (on_settingNotes s j)

/-- A flawed segment ends the reading with its defect. -/
theorem on_changeAll_flawed {c : Connection} {segment : List Char} {defect : Defect}
    (h : Setting.ofSegment segment = .error defect) (rest : List (List Char)) (j : Journal Unit) :
    Action.on (c.changeAll (segment :: rest)) j = (.error (.config defect.message), j) := by
  rw [changeAll, h]
  rfl

/-- Segments without a flaw are read, and every field has the value that is given for it last, or the one that it had. -/
theorem changeAll_of_flawless {segments : List (List Char)} (h : ∀ segment ∈ segments, ∀ defect, ¬Flawed segment defect)
    (c : Connection) (j : Journal Unit) :
    ∃ c', (Action.on (c.changeAll segments) j).1 = .ok c' ∧
      ∀ field value, c.Has field value → c'.Has field ((values field segments).getLast?.getD value) := by
  induction segments generalizing c j with
  | nil => exact ⟨c, rfl, fun _ _ hvalue => hvalue⟩
  | cons segment rest ih =>
    obtain ⟨hsegment, hrest⟩ := List.forall_mem_cons.mp h
    rcases ofSegment_cases segment with ⟨defect, -, hflawed⟩ | ⟨s, hs, -, hfollows⟩
    · exact absurd hflawed (hsegment defect)
    · obtain ⟨c', hok, hhas⟩ := ih hrest (c.change s) { j with log := j.log ++ settingNotes s }
      refine ⟨c', by rw [on_changeAll_cons hs, hok], fun field value hvalue => ?_⟩
      rw [values_cons]
      by_cases hsets : Sets field segment
      · have hnew := hhas field _ ((hfollows c).1 field hsets)
        rwa [if_pos hsets, List.singleton_append, List.getLast?_cons, Option.getD_some]
      · have hold := hhas field value ((hfollows c).2 field hsets value hvalue)
        rwa [if_neg hsets, List.nil_append]

/-- Segments are refused for the first flaw among them. -/
theorem changeAll_of_flawed {before behind : List (List Char)} {segment : List Char} {defect : Defect}
    (h : ∀ segment ∈ before, ∀ defect, ¬Flawed segment defect) (hflawed : Flawed segment defect) (c : Connection)
    (j : Journal Unit) : (Action.on (c.changeAll (before ++ segment :: behind)) j).1 = .error (.config defect.message) := by
  induction before generalizing c j with
  | nil =>
    rcases ofSegment_cases segment with ⟨defect', hrefused, hflawed'⟩ | ⟨-, -, hflawless, -⟩
    · rw [List.nil_append, on_changeAll_flawed hrefused, hflawed'.unique hflawed]
    · exact absurd hflawed (hflawless defect)
  | cons first before ih =>
    obtain ⟨hfirst, hbefore⟩ := List.forall_mem_cons.mp h
    rcases ofSegment_cases first with ⟨defect', -, hflawed'⟩ | ⟨s, hs, -, -⟩
    · exact absurd hflawed' (hfirst defect')
    · rw [List.cons_append, on_changeAll_cons hs]
      exact ih hbefore _ _

/-- Some segments are all flawless, or there is a first one with a flaw. -/
theorem flawless_or_flawed (segments : List (List Char)) :
    (∀ segment ∈ segments, ∀ defect, ¬Flawed segment defect) ∨
    ∃ before segment behind defect, segments = before ++ segment :: behind ∧
      (∀ segment ∈ before, ∀ defect, ¬Flawed segment defect) ∧ Flawed segment defect := by
  induction segments with
  | nil => exact .inl nofun
  | cons first rest ih =>
    by_cases hfirst : ∃ defect, Flawed first defect
    · obtain ⟨defect, hflawed⟩ := hfirst
      exact .inr ⟨[], first, rest, defect, rfl, nofun, hflawed⟩
    rcases ih with hrest | ⟨before, segment, behind, defect, rfl, hbefore, hflawed⟩
    · exact .inl (List.forall_mem_cons.mpr ⟨not_exists.mp hfirst, hrest⟩)
    · exact .inr ⟨first :: before, segment, behind, defect, rfl, List.forall_mem_cons.mpr ⟨not_exists.mp hfirst, hbefore⟩, hflawed⟩

/-! ## The connection that segments describe -/

/-- The connection before any setting has the default of every field. -/
theorem default_has (field : Key) : default.Has field (defaultText field) := by
  cases field with
  | port => exact parsePort?_eq_some_iff.mp (by decide)
  | _ => rfl

/-- A connection is told by the values of its fields. -/
theorem eq_of_has {c c' : Connection} {text : Key → String} (h : ∀ field, c.Has field (text field))
    (h' : ∀ field, c'.Has field (text field)) : c = c' := by
  have hhost : c.host = c'.host := (h .host).trans (h' .host).symm
  have hport : c.port = c'.port := (h .port).unique (h' .port)
  have hdatabase : c.database = c'.database := (h .database).trans (h' .database).symm
  have huser : c.user = c'.user := (h .user).trans (h' .user).symm
  have hpassword : c.password = c'.password := (h .password).trans (h' .password).symm
  have hcharset : c.charset = c'.charset := (h .charset).trans (h' .charset).symm
  cases c
  cases c'
  simp only at hhost hport hdatabase huser hpassword hcharset
  subst hhost hport hdatabase huser hpassword hcharset
  rfl

/-- What comes of a string is what its segments describe. -/
theorem result_eq_ok_iff {text : String} {c : Connection} :
    result text = .ok c ↔ Describes (segmentsOf (text.toList.splitOn ';')) c := by
  rw [result, Action.start_eq_on, ofString, segments_eq]
  constructor
  · intro h
    rcases flawless_or_flawed (segmentsOf (text.toList.splitOn ';')) with hflawless | ⟨before, s, behind, d, hs, hbefore, hd⟩
    · obtain ⟨c', hok, hhas⟩ := changeAll_of_flawless hflawless default ⟨(), []⟩
      obtain rfl := Except.ok.inj (hok.symm.trans h)
      exact ⟨hflawless, fun field => hhas field _ (default_has field)⟩
    · rw [hs, changeAll_of_flawed hbefore hd] at h
      nomatch h
  · rintro ⟨hflawless, hdescribed⟩
    obtain ⟨c', hok, hhas⟩ := changeAll_of_flawless hflawless default ⟨(), []⟩
    rw [hok, eq_of_has hdescribed fun field => hhas field _ (default_has field)]

/-- A text is refused for the first of its segments that is flawed, with the message of the defect. -/
theorem result_eq_error_iff {text : String} {e : Failure} :
    result text = .error e ↔
      ∃ before segment behind defect, segmentsOf (text.toList.splitOn ';') = before ++ segment :: behind ∧
        (∀ segment ∈ before, ∀ defect, ¬Flawed segment defect) ∧ Flawed segment defect ∧ e = .config defect.message := by
  rw [result, Action.start_eq_on, ofString, segments_eq]
  constructor
  · intro h
    rcases flawless_or_flawed (segmentsOf (text.toList.splitOn ';')) with hflawless | ⟨before, s, behind, d, hs, hbefore, hd⟩
    · obtain ⟨c', hok, -⟩ := changeAll_of_flawless hflawless default ⟨(), []⟩
      rw [hok] at h
      nomatch h
    · rw [hs, changeAll_of_flawed hbefore hd] at h
      exact ⟨before, s, behind, d, hs, hbefore, hd, (Except.error.inj h).symm⟩
  · rintro ⟨before, s, behind, d, hs, hbefore, hd, rfl⟩
    rw [hs, changeAll_of_flawed hbefore hd]

/-! ## Other ways to write a connection -/

/-- A piece that is left out or has no flaw. -/
def Sound (piece : List Char) : Prop :=
  AllBlank piece ∨ '=' ∈ piece ∧ (Sets .port piece → ∃ port, WritesPort (valueOf piece) port)

/-- Two pieces that say the same. -/
structure Alike (p q : List Char) : Prop where
  sound : Sound p ↔ Sound q
  sets (field : Key) : Sets field p ↔ Sets field q
  value : valueOf p = valueOf q

/-- A piece with an equals sign is not blank. -/
theorem not_allBlank_of_mem {piece : List Char} (h : '=' ∈ piece) : ¬AllBlank piece := by
  intro hblank
  exact absurd (hblank '=' h) (by decide)

/-- A segment is flawless exactly if its piece is sound. -/
theorem flawless_segmentsOf_iff {pieces : List (List Char)} :
    (∀ segment ∈ segmentsOf pieces, ∀ defect, ¬Flawed segment defect) ↔ ∀ piece ∈ pieces, Sound piece := by
  have hpiece : ∀ piece, (trim piece ≠ [] → ∀ defect, ¬Flawed (trim piece) defect) ↔ Sound piece := by
    intro piece
    rw [Ne, trim_eq_nil_iff, not_flawed_iff, mem_trim_iff, sets_trim, Sound, ← or_iff_not_imp_left]
    refine or_congr_right (and_congr_right fun hmem => ?_)
    rw [valueOf_trim hmem]
  simp only [segmentsOf, List.mem_filter, List.mem_map, decide_eq_true_eq, and_imp, forall_exists_index,
    forall_apply_eq_imp_iff₂]
  exact forall₂_congr fun piece _ => hpiece piece

/-- Trimming the pieces and leaving out the blank ones keeps the values that they give. -/
theorem values_segmentsOf (field : Key) (pieces : List (List Char)) :
    values field (segmentsOf pieces) = values field pieces := by
  induction pieces with
  | nil => rfl
  | cons piece pieces ih =>
    rw [values_cons, ← ih, segmentsOf, List.map_cons]
    by_cases hblank : trim piece = []
    · have hsets : ¬Sets field piece := fun h => not_allBlank_of_mem h.1 (trim_eq_nil_iff.mp hblank)
      rw [List.filter_cons_of_neg (by simpa using hblank), if_neg hsets, List.nil_append, segmentsOf]
    · rw [List.filter_cons_of_pos (by simpa using hblank), values_cons, segmentsOf]
      by_cases hsets : Sets field piece
      · rw [if_pos (sets_trim.mpr hsets), if_pos hsets, valueOf_trim hsets.1]
      · rw [if_neg (mt sets_trim.mp hsets), if_neg hsets]

/-- The segments of some pieces describe a connection exactly if every piece is sound and each field has the last value that the
pieces give it, or its default. -/
theorem describes_segmentsOf_iff {pieces : List (List Char)} {c : Connection} :
    Describes (segmentsOf pieces) c ↔
      (∀ piece ∈ pieces, Sound piece) ∧ ∀ field, c.Has field ((values field pieces).getLast?.getD (defaultText field)) := by
  simp only [Describes, flawless_segmentsOf_iff, values_segmentsOf]

theorem values_append (field : Key) (a b : List (List Char)) : values field (a ++ b) = values field a ++ values field b := by
  rw [values, List.filter_append, List.map_append, values, values]

/-- Keys that are spellings of the same fields and values that are trimmed to the same text make pieces that say the same. -/
theorem alike_of_parts {key key' value value' : List Char} (hkey : '=' ∉ key) (hkey' : '=' ∉ key')
    (hspelled : ∀ field, (lowercase (String.ofList (trim key)), field) ∈ spellings ↔
      (lowercase (String.ofList (trim key')), field) ∈ spellings)
    (hvalue : trim value = trim value') : Alike (key ++ '=' :: value) (key' ++ '=' :: value') := by
  have hmem : '=' ∈ key ++ '=' :: value := List.mem_append_right _ List.mem_cons_self
  have hmem' : '=' ∈ key' ++ '=' :: value' := List.mem_append_right _ List.mem_cons_self
  have hsets : ∀ field, Sets field (key ++ '=' :: value) ↔ Sets field (key' ++ '=' :: value') := by
    intro field
    rw [Sets, Sets, keyOf_append hkey, keyOf_append hkey', hspelled field, and_iff_right hmem, and_iff_right hmem']
  have hsame : valueOf (key ++ '=' :: value) = valueOf (key' ++ '=' :: value') := by
    rw [valueOf_append hkey, valueOf_append hkey', hvalue]
  refine ⟨?_, hsets, hsame⟩
  rw [Sound, Sound, hsets, hsame, or_iff_right (not_allBlank_of_mem hmem), or_iff_right (not_allBlank_of_mem hmem'),
    and_iff_right hmem, and_iff_right hmem']

/-- A piece can be replaced by one that says the same. -/
theorem Alike.describes_iff {p q : List Char} (h : Alike p q) (before behind : List (List Char)) (c : Connection) :
    Describes (segmentsOf (before ++ p :: behind)) c ↔ Describes (segmentsOf (before ++ q :: behind)) c := by
  have hvalues : ∀ field, values field (before ++ p :: behind) = values field (before ++ q :: behind) := by
    intro field
    rw [values_append, values_append, values_cons, values_cons, h.value, if_congr (h.sets field) rfl rfl]
  simp only [describes_segmentsOf_iff, hvalues, List.forall_mem_append, List.forall_mem_cons, h.sound]

/-- A sound piece that sets no field can be put in. -/
theorem describes_insert_iff {piece : List Char} (hsound : Sound piece) (hsets : ∀ field, ¬Sets field piece)
    (before behind : List (List Char)) (c : Connection) :
    Describes (segmentsOf (before ++ behind)) c ↔ Describes (segmentsOf (before ++ piece :: behind)) c := by
  have hvalues : ∀ field, values field (before ++ piece :: behind) = values field (before ++ behind) := by
    intro field
    rw [values_append, values_append, values_cons, if_neg (hsets field), List.nil_append]
  simp only [describes_segmentsOf_iff, hvalues, List.forall_mem_append, List.forall_mem_cons, hsound, true_and]

/-- A change in the way a connection string is written leaves what it describes. -/
theorem Retouched.describes_iff {pieces pieces' : List (List Char)} (h : Retouched pieces pieces') (c : Connection) :
    Describes (segmentsOf pieces) c ↔ Describes (segmentsOf pieces') c := by
  cases h with
  | reorder hperm horder =>
    have hvalues : ∀ field, values field pieces = values field pieces' := fun field => congrArg (List.map valueOf) (horder field)
    simp only [describes_segmentsOf_iff, hvalues, hperm.mem_iff]
  | recase before behind value hkey hkey' hcase =>
    have htrim := sameLower_trim hcase
    have hback := htrim.flip.imp fun _ _ hsame => Eq.symm hsame
    exact (alike_of_parts hkey hkey' (fun field => ⟨mem_spellings_of_sameLower htrim, mem_spellings_of_sameLower hback⟩)
      rfl).describes_iff before behind c
  | blank before behind hblank =>
    exact describes_insert_iff (.inl hblank) (fun field h => not_allBlank_of_mem h.1 hblank) before behind c
  | ignore before behind hmem hunknown =>
    exact describes_insert_iff (.inr ⟨hmem, fun h => absurd h (hunknown .port)⟩) hunknown before behind c
  | @pad before behind key value b₁ b₂ b₃ b₄ hkey h₁ h₂ h₃ h₄ =>
    have hpadded : '=' ∉ b₁ ++ key ++ b₂ := by
      simp only [List.mem_append, not_or]
      exact ⟨⟨fun h => absurd (h₁ '=' h) (by decide), hkey⟩, fun h => absurd (h₂ '=' h) (by decide)⟩
    have hkeys : trim key = trim (b₁ ++ key ++ b₂) := by rw [trim_append_blank _ h₂, trim_blank_append h₁]
    have hvalues : trim value = trim (b₃ ++ value ++ b₄) := by rw [trim_append_blank _ h₄, trim_blank_append h₃]
    exact (alike_of_parts hkey hpadded (fun field => by rw [hkeys]) hvalues).describes_iff before behind c

/-- A connection string gives the connection that its segments describe, and no other. It is refused exactly if one of its segments
is flawed, for the flaw of the first one that is. However the pieces of a string are retouched, it gives the same connection. -/
theorem ofString_describes (text : String) :
    let segments := segmentsOf (text.toList.splitOn ';')
    (∀ c, result text = .ok c ↔ Describes segments c) ∧
    (∀ e, result text = .error e ↔ ∃ before segment behind defect, segments = before ++ segment :: behind ∧
      (∀ segment ∈ before, ∀ defect, ¬Flawed segment defect) ∧ Flawed segment defect ∧ e = .config defect.message) ∧
    ∀ text' : String, Relation.EqvGen Retouched (text.toList.splitOn ';') (text'.toList.splitOn ';') →
      ∀ c, result text = .ok c ↔ result text' = .ok c := by
  refine ⟨fun c => result_eq_ok_iff, fun e => result_eq_error_iff, fun text' h c => ?_⟩
  rw [result_eq_ok_iff, result_eq_ok_iff]
  generalize text.toList.splitOn ';' = pieces at h ⊢
  generalize text'.toList.splitOn ';' = pieces' at h ⊢
  induction h with
  | rel _ _ h => exact h.describes_iff c
  | refl => rfl
  | symm _ _ _ ih => exact ih.symm
  | trans _ _ _ _ _ ih ih' => exact ih.trans ih'

end SchemaScript.Connection
