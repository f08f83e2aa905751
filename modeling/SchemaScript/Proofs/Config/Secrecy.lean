import Mathlib.Data.List.Forall2
import SchemaScript.Proofs.Config.ConnectionString

/-!
# The password of a connection string stays secret

Two connection strings that differ in the password alone are read alike, piece by piece: both are refused for the same reason or both
are accepted, the same is reported on the way, and the connections differ in the password at most (`changeAll_parallel`). What is
printed of a connection does not depend on its password, and neither does whether the settings are accepted
(`ofConnectionString_parallel`).
-/

namespace SchemaScript

open Text Setting

/-! ## Runs that cannot be told apart -/

namespace Action

variable {σ α β : Type}

/-- Two outcomes are the same failure, or results that a relation takes for the same. -/
inductive Agree (R : α → α → Prop) : Except Failure α → Except Failure α → Prop
  | ok {x y : α} (h : R x y) : Agree R (.ok x) (.ok y)
  | error (e : Failure) : Agree R (.error e) (.error e)

/-- Results that agree are the same failure, or two related values. -/
theorem Agree.cases {R : α → α → Prop} {r r' : Except Failure α} (h : Agree R r r') :
    (∃ e, r = .error e ∧ r' = .error e) ∨ ∃ x y, r = .ok x ∧ r' = .ok y ∧ R x y := by
  cases h with
  | ok h => exact .inr ⟨_, _, rfl, rfl, h⟩
  | error e => exact .inl ⟨e, rfl, rfl⟩

/-- Two actions end alike from wherever they start, and leave the same state and log behind. -/
def Parallel (R : α → α → Prop) (a b : Action σ α) : Prop := ∀ j, Agree R (on a j).1 (on b j).1 ∧ (on a j).2 = (on b j).2

/-- Sequences whose parts run in parallel run in parallel. -/
theorem Parallel.bind {R : α → α → Prop} {S : β → β → Prop} {a b : Action σ α} {f g : α → Action σ β} (h : Parallel R a b)
    (hf : ∀ x y, R x y → Parallel S (f x) (g y)) : Parallel S (a >>= f) (b >>= g) := by
  intro j
  obtain ⟨hresult, hjournal⟩ := h j
  rw [on_bind, on_bind]
  rcases ha : on a j with ⟨ra, ka⟩
  rcases hb : on b j with ⟨rb, kb⟩
  rw [ha, hb] at hresult hjournal
  obtain rfl : ka = kb := hjournal
  cases hresult with
  | ok hxy => exact hf _ _ hxy ka
  | error e => exact ⟨.error e, rfl⟩

end Action

open SchemaScript.Action (Agree Parallel)

/-! ## Connections that differ in the password -/

/-- Two connections that differ in the password at most. -/
def Connection.SameAside (c d : Connection) : Prop := ∃ password, d = { c with password := password }

/-- Settings that differ in the password of their connections at most. -/
def Config.SameAside (c d : Config) : Prop := ∃ password, d = { c with connection := { c.connection with password := password } }

/-- Two pieces are the same, or both give a password. -/
def Setting.SameAside (p q : List Char) : Prop :=
  p = q ∨ ∃ v w, Setting.ofSegment p = .ok (.password v) ∧ Setting.ofSegment q = .ok (.password w)

namespace Connection

variable {c d : Connection}

/-- A setting changes connections that differ in the password to such connections again. -/
theorem SameAside.change (h : c.SameAside d) (s : Setting) : (c.change s).SameAside (d.change s) := by
  obtain ⟨password, rfl⟩ := h
  cases s with
  | password value => exact ⟨value, rfl⟩
  | _ => exact ⟨password, rfl⟩

/-- So do two passwords. -/
theorem SameAside.change_password (h : c.SameAside d) (v w : String) :
    (c.change (.password v)).SameAside (d.change (.password w)) := by
  obtain ⟨password, rfl⟩ := h
  exact ⟨w, rfl⟩

/-- Segments that differ in passwords alone are read alike. -/
theorem changeAll_parallel {segments segments' : List (List Char)} (h : List.Forall₂ Setting.SameAside segments segments')
    (hc : c.SameAside d) : Parallel SameAside (c.changeAll segments) (d.changeAll segments') := by
  induction h generalizing c d with
  | nil => exact fun _ => ⟨.ok hc, rfl⟩
  | @cons p q rest rest' hpq _ ih =>
    intro j
    rcases hpq with rfl | ⟨v, w, hp, hq⟩
    · cases hp : Setting.ofSegment p with
      | error defect =>
        rw [on_changeAll_flawed hp, on_changeAll_flawed hp]
        exact ⟨.error _, rfl⟩
      | ok s =>
        rw [on_changeAll_cons hp, on_changeAll_cons hp]
        exact ih (hc.change s) _
    · rw [on_changeAll_cons hp, on_changeAll_cons hq]
      exact ih (hc.change_password v w) _

end Connection

/-- Whether settings are accepted does not depend on the password. -/
theorem Config.agree_validate {c d : Connection} (h : c.SameAside d) :
    Agree SameAside (Config.ofConnection c).validate (Config.ofConnection d).validate := by
  obtain ⟨password, rfl⟩ := h
  have hdefect : (Config.ofConnection { c with password := password }).defect? = (Config.ofConnection c).defect? := rfl
  unfold validate
  rw [hdefect]
  cases (Config.ofConnection c).defect? with
  | none => exact .ok ⟨password, rfl⟩
  | some defect => exact .error _

/-- Connection strings whose segments differ in passwords alone give settings that do, or are refused alike. -/
theorem Config.ofConnectionString_parallel {text text' : String}
    (h : List.Forall₂ Setting.SameAside (Connection.segments text) (Connection.segments text')) :
    Parallel SameAside (Config.ofConnectionString text) (Config.ofConnectionString text') := by
  have hread : Parallel Connection.SameAside (Connection.ofString text) (Connection.ofString text') :=
    Connection.changeAll_parallel h ⟨_, rfl⟩
  exact hread.bind fun _ _ hcd _ => ⟨agree_validate hcd, rfl⟩

/-! ## A password between other segments -/

namespace Connection

theorem segmentsOf_append (pieces pieces' : List (List Char)) :
    segmentsOf (pieces ++ pieces') = segmentsOf pieces ++ segmentsOf pieces' := by
  rw [segmentsOf, List.map_append, List.filter_append, segmentsOf, segmentsOf]

/-- A piece that is not blank is one segment. -/
theorem segmentsOf_singleton {piece : List Char} (h : trim piece ≠ []) : segmentsOf [piece] = [trim piece] := by
  rw [segmentsOf, List.map_singleton, List.filter_cons_of_pos (by simpa using h), List.filter_nil]

/-- A password without a semicolon is one segment, between those of the texts before and behind it. -/
theorem segments_around (a b password : String) (h : ';' ∉ password.toList) :
    segments (a ++ ";Password=" ++ password ++ ";" ++ b) =
      segments a ++ trim ("Password=".toList ++ password.toList) :: segments b := by
  have hpiece : ';' ∉ "Password=".toList ++ password.toList := by
    rw [List.mem_append, not_or]
    exact ⟨by decide, h⟩
  have hne : trim ("Password=".toList ++ password.toList) ≠ [] := trim_ne_nil ⟨'P', _, rfl, by decide⟩
  have hlist : (a ++ ";Password=" ++ password ++ ";" ++ b).toList =
      a.toList ++ ';' :: (("Password=".toList ++ password.toList) ++ ';' :: b.toList) := by
    have hkey : ";Password=".toList = ';' :: "Password=".toList := by decide
    have hend : ";".toList = [';'] := by decide
    rw [String.toList_append, String.toList_append, String.toList_append, String.toList_append, hkey, hend]
    generalize "Password=".toList = key
    simp only [List.append_assoc, List.cons_append, List.nil_append]
  rw [segments_eq, segments_eq, segments_eq, hlist, List.splitOn_append_cons_self, List.splitOn_append_cons_self,
    List.splitOn_eq_singleton hpiece, segmentsOf_append, segmentsOf_append, segmentsOf_singleton hne, List.singleton_append]

/-- The segment of a password gives the password. -/
theorem ofSegment_password (password : List Char) :
    Setting.ofSegment (trim ("Password=".toList ++ password)) = .ok (.password (String.ofList (trim password))) := by
  have hkey : '=' ∉ "Password".toList := by decide
  have hpiece : "Password=".toList ++ password = "Password".toList ++ '=' :: password := rfl
  have hmem : '=' ∈ "Password=".toList ++ password := List.mem_append_left _ (by decide)
  have hname : lowercase (String.ofList (trim "Password".toList)) = "password" := by decide +kernel
  rw [ofSegment_eq_make (mem_trim_iff.mpr hmem), keyOf_trim hmem, valueOf_trim hmem, hpiece, keyOf_append hkey, valueOf_append hkey,
    hname]
  rfl

end Connection

/-- What comes of a connection string with a password between other segments, and what is reported. -/
def Config.logIn (a b password : String) : Except Failure Config × Journal Unit :=
  Action.start (Config.ofConnectionString (a ++ ";Password=" ++ password ++ ";" ++ b)) ()

/-- Two passwords without a semicolon, whatever stands before and behind them, cannot be told apart: the same is reported, and both
strings are refused for the same reason or both give settings that differ in the password at most, with connections that are printed
alike. -/
theorem Config.logIn_hides_password (a b v w : String) (hv : ';' ∉ v.toList) (hw : ';' ∉ w.toList) :
    (logIn a b v).2.log = (logIn a b w).2.log ∧
    ((∃ e, (logIn a b v).1 = .error e ∧ (logIn a b w).1 = .error e) ∨
      ∃ c d, (logIn a b v).1 = .ok c ∧ (logIn a b w).1 = .ok d ∧ c.SameAside d ∧
        c.connection.redacted = d.connection.redacted ∧ c.connection.target = d.connection.target) := by
  have hself : ∀ segments, List.Forall₂ Setting.SameAside segments segments := fun _ => List.forall₂_same.mpr fun _ _ => .inl rfl
  have hsegments : List.Forall₂ Setting.SameAside (Connection.segments (a ++ ";Password=" ++ v ++ ";" ++ b))
      (Connection.segments (a ++ ";Password=" ++ w ++ ";" ++ b)) := by
    rw [Connection.segments_around a b v hv, Connection.segments_around a b w hw]
    exact List.rel_append (hself _)
      (.cons (.inr ⟨_, _, Connection.ofSegment_password v.toList, Connection.ofSegment_password w.toList⟩) (hself _))
  obtain ⟨hresult, hjournal⟩ := ofConnectionString_parallel hsegments ⟨(), []⟩
  refine ⟨congrArg Journal.log hjournal, ?_⟩
  rcases hresult.cases with ⟨e, hleft, hright⟩ | ⟨c, d, hleft, hright, hsame⟩
  · exact .inl ⟨e, hleft, hright⟩
  · obtain ⟨password, rfl⟩ := hsame
    exact .inr ⟨c, _, hleft, hright, ⟨password, rfl⟩, rfl, rfl⟩

/-- A plain password and one with blanks and an equals sign, between an unknown key and the place of the database. -/
theorem Config.logIn_hides_plain_and_padded :
    (';' ∉ "s3cret".toList ∧ ';' ∉ " p=q ".toList) ∧
    (logIn "User=ADA;Trace=1" "Database=/data/app.fdb" "s3cret").2.log =
      (logIn "User=ADA;Trace=1" "Database=/data/app.fdb" " p=q ").2.log ∧
    ((∃ e, (logIn "User=ADA;Trace=1" "Database=/data/app.fdb" "s3cret").1 = .error e ∧
        (logIn "User=ADA;Trace=1" "Database=/data/app.fdb" " p=q ").1 = .error e) ∨
      ∃ c d, (logIn "User=ADA;Trace=1" "Database=/data/app.fdb" "s3cret").1 = .ok c ∧
        (logIn "User=ADA;Trace=1" "Database=/data/app.fdb" " p=q ").1 = .ok d ∧ c.SameAside d ∧
        c.connection.redacted = d.connection.redacted ∧ c.connection.target = d.connection.target) :=
  ⟨⟨by decide, by decide⟩, logIn_hides_password _ _ _ _ (by decide) (by decide)⟩

end SchemaScript
