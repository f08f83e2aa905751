import Mathlib.Data.List.Nodup
import SchemaScript.Proofs.Json.Reads

/-!
# Reading what was printed: records

An object whose fields follow those of a shape (`Follows`), each in its place or left out if it may be, is read as the record that
its fields store (`Follows.reads`). Field by field, the name is read and found in the shape, and the value is read and stored
(`readFields_field`); at the end no required field is missing (`Passed`).
-/

namespace SchemaScript.Json

open Cursor (isSpace)

variable {α δ : Type} {a : α} {rest : List Char} {c : Cursor} {v : Value}

/-! ## Between the brackets of an object -/

/-- There is no field at the closing bracket. -/
theorem nextName?_closing (first : Bool) (h : c.skipSpaces.rest = '\x7d' :: rest) : nextName? first c = .ok none := by
  rw [nextName?]
  dsimp only
  rw [h]
  rfl

/-- The name of the next field is found behind its comma and on its line. -/
theorem nextName?_inside_cons {depth : Nat} {tail : List Char} {items : List (List Char)} (first : Bool)
    (h : c.rest = inside '\x7d' depth rest first (('"' :: tail) :: items)) :
    ∃ c', nextName? first c = .ok (some c') ∧ c'.rest = tail ++ inside '\x7d' depth rest false items := by
  have hnewLine := isSpace_of_mem_newLine (depth + 1)
  cases first with
  | true =>
    have hskip : c.skipSpaces.rest = '"' :: (tail ++ inside '\x7d' depth rest false items) :=
      Cursor.skipSpaces_rest_of_blanks hnewLine rfl h
    refine ⟨c.skipSpaces.past '"' (tail ++ inside '\x7d' depth rest false items), ?_, Cursor.past_rest ..⟩
    rw [nextName?]
    dsimp only
    rw [hskip]
    rfl
  | false =>
    have hcomma := Cursor.skipSpaces_rest_of_visible rfl h
    obtain ⟨c₁, hc₁⟩ : ∃ c₁, c₁ = c.skipSpaces.past ',' (newLine (depth + 1) ++ '"' :: (tail ++ inside '\x7d' depth rest false items)) :=
      ⟨_, rfl⟩
    have hskip : c₁.skipSpaces.rest = '"' :: (tail ++ inside '\x7d' depth rest false items) :=
      Cursor.skipSpaces_rest_of_blanks hnewLine rfl (hc₁ ▸ Cursor.past_rest ..)
    refine ⟨c₁.skipSpaces.past '"' _, ?_, Cursor.past_rest ..⟩
    rw [nextName?]
    dsimp only
    rw [hcomma]
    split
    · rename_i heq
      nomatch heq
    · rename_i heq
      exact absurd (List.cons.inj heq).1 (by decide)
    · rename_i heq
      obtain ⟨rfl, rfl⟩ := List.cons.inj heq
      rw [if_neg Bool.false_ne_true, if_pos rfl]
      dsimp only [List.cons_append]
      rw [← hc₁, hskip]
      rfl

/-- The colon between a name and a value. -/
theorem expectColon_reaches (h : c.rest = ':' :: rest) : Reaches (expectColon c) rest := by
  have hskip := Cursor.skipSpaces_rest_of_visible rfl h
  rw [expectColon, hskip]
  exact ⟨_, rfl, Cursor.past_rest ..⟩

/-! ## Fields that follow a shape -/

/-- A field is read if its value is. -/
theorem Reads.field {read : Reader α} (hread : Reads read v a) (name : String) (required : Bool) (store : α → δ → δ) :
    Reads (Field.of name required read store).read v (store a) where
  opens := hread.opens
  gives depth blanks rest c hblanks h := by
    obtain ⟨c', hc', hrest⟩ := hread.gives depth blanks rest c hblanks h
    refine ⟨c', ?_, hrest⟩
    rw [Field.of]
    dsimp only
    rw [hc']
    rfl

/-- The fields of an object follow those of a shape: each stands in its place with a value that is read, or is left out if it may
be. The function stores what is read, field by field. -/
inductive Follows : List (Field δ) → List (String × Value) → (δ → δ) → Prop
  | nil : Follows [] [] id
  | stored {f : Field δ} {v : Value} {store : δ → δ} {fields : List (Field δ)} {entries : List (String × Value)} {others : δ → δ} :
    Reads f.read v store → Follows fields entries others → Follows (f :: fields) ((f.name, v) :: entries) (others ∘ store)
  | omitted {f : Field δ} {fields : List (Field δ)} {entries : List (String × Value)} {others : δ → δ} :
    f.required = false → Follows fields entries others → Follows (f :: fields) entries others

/-- Some fields of a shape were passed: the names seen are among theirs, and none that is required was left out. -/
structure Passed (done : List (Field δ)) (seen : List String) : Prop where
  exists_of_seen : ∀ name ∈ seen, ∃ f ∈ done, f.name = name
  seen_of_required : ∀ f ∈ done, f.required = true → f.name ∈ seen

/-- A field that was read has been passed and seen. -/
theorem Passed.store {done : List (Field δ)} {seen : List String} (h : Passed done seen) (f : Field δ) :
    Passed (done ++ [f]) (f.name :: seen) where
  exists_of_seen := by
    refine List.forall_mem_cons.mpr ⟨⟨f, List.mem_append_right _ (List.mem_singleton_self f), rfl⟩, fun name hname => ?_⟩
    obtain ⟨g, hg, hgname⟩ := h.exists_of_seen name hname
    exact ⟨g, List.mem_append_left _ hg, hgname⟩
  seen_of_required := by
    refine List.forall_mem_append.mpr ⟨fun g hg hrequired => ?_, List.forall_mem_singleton.mpr fun _ => List.mem_cons_self⟩
    exact List.mem_cons_of_mem _ (h.seen_of_required g hg hrequired)

/-- A field that may be left out has been passed without being seen. -/
theorem Passed.omit {done : List (Field δ)} {seen : List String} (h : Passed done seen) {f : Field δ} (hf : f.required = false) :
    Passed (done ++ [f]) seen where
  exists_of_seen name hname := by
    obtain ⟨g, hg, hgname⟩ := h.exists_of_seen name hname
    exact ⟨g, List.mem_append_left _ hg, hgname⟩
  seen_of_required := by
    refine List.forall_mem_append.mpr ⟨h.seen_of_required, List.forall_mem_singleton.mpr fun hrequired => ?_⟩
    exact absurd (hf.symm.trans hrequired) Bool.false_ne_true

/-- A field is found by its name, and no field before it has this name. -/
theorem find?_name {done fields : List (Field δ)} {f : Field δ} (hnames : ((done ++ f :: fields).map (·.name)).Nodup) :
    (done ++ f :: fields).find? (·.name = f.name) = some f ∧ ∀ g ∈ done, g.name ≠ f.name := by
  rw [List.map_append, List.map_cons, List.nodup_middle] at hnames
  have hdone : ∀ g ∈ done, g.name ≠ f.name := by
    intro g hg heq
    exact (List.nodup_cons.mp hnames).1 (List.mem_append_left _ (heq ▸ List.mem_map_of_mem hg))
  have hnone : done.find? (·.name = f.name) = none := by
    rw [List.find?_eq_none]
    exact fun g hg heq => hdone g hg (of_decide_eq_true heq)
  refine ⟨?_, hdone⟩
  rw [List.find?_append, hnone, Option.none_or]
  exact List.find?_cons_of_pos (decide_eq_true rfl)

/-! ## Reading the fields -/

/-- A printed field is read: its name up to the colon, and its value. -/
theorem exists_reads_field {f : Field δ} {store : δ → δ} {depth : Nat} {items : List (List Char)} (hv : Reads f.read v store)
    (first : Bool) (h : c.rest = inside '\x7d' depth rest first (printedField f.name (v.print (depth + 1)) :: items)) :
    ∃ c₁ c₂ c₃ c₄, nextName? first c = .ok (some c₁) ∧ readText c₁ = .ok (f.name, c₂) ∧ expectColon c₂ = .ok c₃ ∧
      f.read c₃ = .ok (store, c₄) ∧ c₄.rest = inside '\x7d' depth rest false items := by
  obtain ⟨c₁, hnext, hc₁⟩ := nextName?_inside_cons first h
  have hquoted : c₁.rest = f.name.toList.flatMap encodeChar ++ '"' ::
      ':' :: ' ' :: (v.print (depth + 1) ++ inside '\x7d' depth rest false items) := by
    rw [hc₁]
    simp
  obtain ⟨c₂, hname, hc₂⟩ := readText_gives hquoted
  obtain ⟨c₃, hcolon, hc₃⟩ := expectColon_reaches hc₂
  obtain ⟨c₄, hread, hc₄⟩ := hv.gives (depth + 1) [' '] _ c₃ (by simp [isSpace]) hc₃
  exact ⟨c₁, c₂, c₃, c₄, hnext, hname, hcolon, hread, hc₄⟩

/-- A result inside a record is the result. -/
theorem placed_ok {α : Type} (a : α) : placed (.ok a) = pure a := rfl

/-- A field that is read and was not seen before is stored, and then the others are. -/
theorem readFields_field {all : List (Field δ)} {f : Field δ} {store : δ → δ} {first : Bool} {seen : List String} {draft : δ}
    {c₁ c₂ c₃ c₄ : Cursor} (fuel : Nat) (hfind : all.find? (·.name = f.name) = some f) (hunseen : f.name ∉ seen)
    (hnext : nextName? first c = .ok (some c₁)) (hname : readText c₁ = .ok (f.name, c₂)) (hcolon : expectColon c₂ = .ok c₃)
    (hread : f.read c₃ = .ok (store, c₄)) :
    readFields all (fuel + 1) first seen draft c = readFields all fuel false (f.name :: seen) (store draft) c₄ := by
  rw [readFields, hnext, placed_ok, pure_bind]
  dsimp only
  rw [hname, placed_ok, pure_bind]
  dsimp only
  rw [hfind]
  dsimp only
  rw [if_neg (by simpa using hunseen)]
  change (placed (expectColon c₂ >>= f.read) >>= fun p => readFields all fuel false (f.name :: seen) (p.1 draft) p.2) = _
  rw [hcolon]
  change (placed (f.read c₃) >>= fun p => readFields all fuel false (f.name :: seen) (p.1 draft) p.2) = _
  rw [hread]
  rfl

/-- At the closing bracket the draft is the record, as no required field is missing. -/
theorem readFields_closing {all : List (Field δ)} {first : Bool} {seen : List String} {draft : δ} (fuel : Nat)
    (hpassed : Passed all seen) (h : c.skipSpaces.rest = '\x7d' :: rest) :
    readFields all (fuel + 1) first seen draft c = .ok (draft, c) := by
  have hmissing : all.find? (fun f => f.required && !seen.contains f.name) = none := by
    rw [List.find?_eq_none]
    intro f hf hmissing
    obtain ⟨hrequired, hunseen⟩ := Bool.and_eq_true_iff.mp hmissing
    simp [hpassed.seen_of_required f hf hrequired] at hunseen
  rw [readFields, nextName?_closing first h, placed_ok, pure_bind]
  dsimp only
  rw [hmissing]
  rfl

/-- The fields of an object that follow those of a shape from some field on are stored. -/
theorem Follows.readFields_gives {depth : Nat} {all fields : List (Field δ)} {entries : List (String × Value)} {store : δ → δ}
    (h : Follows fields entries store) (hnames : (all.map (·.name)).Nodup) :
    ∀ (done : List (Field δ)) (first : Bool) (seen : List String) (fuel : Nat) (draft : δ) (c : Cursor), all = done ++ fields →
      Passed done seen → c.rest.length < fuel → c.rest = inside '\x7d' depth rest first (Value.printFields depth entries) →
      ∃ c', readFields all fuel first seen draft c = .ok (store draft, c') ∧ c'.skipSpaces.rest = '\x7d' :: rest := by
  -- the induction is on the fields still to come; those before them are passed
  induction h with
  | nil =>
    intro done first seen fuel draft c hall hpassed hfuel hc
    obtain ⟨fuel, rfl⟩ := Nat.exists_eq_add_of_lt hfuel
    rw [List.append_nil] at hall
    have hskip := skipSpaces_inside_nil rfl hc
    exact ⟨c, readFields_closing _ (hall ▸ hpassed) hskip, hskip⟩
  | @stored f v store fields entries others hv _ ih =>
    intro done first seen fuel draft c hall hpassed hfuel hc
    obtain ⟨fuel, rfl⟩ := Nat.exists_eq_add_of_lt hfuel
    rw [Value.printFields] at hc
    have hshorter := hc ▸ length_inside_lt '\x7d' depth rest first (printedField f.name (v.print (depth + 1)))
      (Value.printFields depth entries)
    obtain ⟨c₁, c₂, c₃, c₄, hnext, hname, hcolon, hread, hc₄⟩ := exists_reads_field hv first hc
    obtain ⟨hfind, hdifferent⟩ := find?_name (hall ▸ hnames)
    rw [← hall] at hfind
    have hunseen : f.name ∉ seen := by
      intro hmem
      obtain ⟨g, hg, hgname⟩ := hpassed.exists_of_seen f.name hmem
      exact hdifferent g hg hgname
    rw [readFields_field _ hfind hunseen hnext hname hcolon hread]
    exact ih (done ++ [f]) false (f.name :: seen) (c.rest.length + fuel) (store draft) c₄
      (by rw [hall, List.append_assoc, List.singleton_append]) (hpassed.store f) (by rw [hc₄]; omega) hc₄
  | @omitted f _ _ _ hrequired _ ih =>
    intro done first seen fuel draft c hall hpassed hfuel hc
    exact ih (done ++ [f]) first seen fuel draft c (by rw [hall, List.append_assoc, List.singleton_append])
      (hpassed.omit hrequired) hfuel hc

/-- An object whose fields follow a shape is read as the record that they store. -/
theorem Follows.reads {shape : Shape δ} {entries : List (String × Value)} {store : δ → δ} {record : δ}
    (h : Follows shape.fields entries store) (hnames : (shape.fields.map (·.name)).Nodup) (hrecord : store shape.empty = record) :
    Reads (readRecord shape) (.object entries) record where
  opens depth := by
    obtain ⟨tail, htail⟩ := exists_bracketed '\x7b' '\x7d' depth (Value.printFields depth entries)
    exact ⟨'\x7b', tail, by rw [Value.print, htail], rfl⟩
  gives depth blanks rest c hblanks hc := by
    rw [Value.print, bracketed_append] at hc
    refine (valueStart_reaches hblanks rfl hc).bind fun c' hc' => ?_
    rw [hc']
    obtain ⟨c'', hfields, hc''⟩ := h.readFields_gives hnames [] true [] _ shape.empty _ rfl
      ⟨List.forall_mem_nil _, List.forall_mem_nil _⟩ (by rw [Cursor.past_rest]; exact Nat.lt_succ_self _) (Cursor.past_rest c' '\x7b' _)
    change Gives (closeRecord .object (readFields _ _ _ _ _ _)) _ _
    rw [hfields, hrecord, closeRecord]
    obtain ⟨l, hclose, hl⟩ := expectClose_reaches .object hc''
    rw [hclose]
    exact ⟨l, rfl, hl⟩

end SchemaScript.Json
