import Mathlib.Data.List.Forall2
import SchemaScript.Json.Reader
import SchemaScript.Json.Value
import SchemaScript.Proofs.Json.Text

/-!
# Reading what was printed: texts, flags and lists

`Reads read v a` says that a reader gives `a` wherever `v` is printed, at any depth and behind any blanks. Texts and flags are
read (`reads_text`, `reads_flag`), what is read item by item is read as a list (`Reads.list`), and a text that is one printed value
is read as a document (`Reads.document`).
-/

namespace SchemaScript.Json

open Cursor (isSpace)

variable {α : Type} {a : α} {blanks rest : List Char} {c : Cursor} {v : Value}

/-- Whether a character starts a text, a flag, a list or an object. -/
def opensValue (ch : Char) : Bool := ['"', 't', 'f', '[', '\x7b'].contains ch

/-- A reader gives `a` wherever `v` is printed. -/
structure Reads (read : Reader α) (v : Value) (a : α) : Prop where
  opens : ∀ depth, ∃ ch tail, v.print depth = ch :: tail ∧ opensValue ch = true
  gives : ∀ (depth : Nat) (blanks rest : List Char) (c : Cursor), (∀ b ∈ blanks, isSpace b = true) →
    c.rest = blanks ++ (v.print depth ++ rest) → Gives (read c) a rest

/-- The start of a value is no blank, closes nothing and does not start null. -/
theorem of_opensValue {ch : Char} (h : opensValue ch = true) :
    isSpace ch = false ∧ ch ≠ ']' ∧ ch ≠ 'n' := by
  simp only [opensValue, List.contains_eq_mem, List.mem_cons, List.not_mem_nil, or_false, decide_eq_true_eq] at h
  rcases h with rfl | rfl | rfl | rfl | rfl <;> decide

/-! ## Texts and flags -/

/-- Blanks in front of a value are skipped. -/
theorem valueStart_reaches {ch : Char} {tail : List Char} (hblanks : ∀ b ∈ blanks, isSpace b = true) (hch : isSpace ch = false)
    (h : c.rest = blanks ++ ch :: tail) : Reaches (valueStart c) (ch :: tail) := by
  have hskip := Cursor.skipSpaces_rest_of_blanks hblanks hch h
  rw [valueStart, hskip]
  exact ⟨_, rfl, hskip⟩

/-- A keyword is taken as a whole. -/
theorem Cursor.keyword_reaches (word : List Char) (h : c.rest = word ++ rest) : Reaches (c.keyword word) rest := by
  induction word generalizing c with
  | nil => exact ⟨c, rfl, h⟩
  | cons ch word ih =>
    rw [keyword, h, List.cons_append]
    dsimp only
    rw [if_pos rfl]
    exact ih (past_rest ..)

theorem reads_text (s : String) : Reads readString (.text s) s where
  opens _ := ⟨'"', _, rfl, rfl⟩
  gives _ blanks rest c hblanks h := by
    have hquoted : c.rest = blanks ++ '"' :: (s.toList.flatMap encodeChar ++ '"' :: rest) := by
      rw [h, Value.print, encode, List.append_assoc, List.cons_append, List.singleton_append]
    refine (valueStart_reaches hblanks rfl hquoted).bind fun c' hc' => ?_
    rw [hc']
    exact readText_gives (Cursor.past_rest ..)

theorem reads_flag (b : Bool) : Reads readFlag (.flag b) b where
  opens _ := by
    cases b with
    | true => exact ⟨'t', _, rfl, rfl⟩
    | false => exact ⟨'f', _, rfl, rfl⟩
  gives _ blanks rest c hblanks h := by
    cases b with
    | true =>
      refine (valueStart_reaches hblanks rfl h).bind fun c' hc' => ?_
      rw [hc']
      exact (Cursor.keyword_reaches ['r', 'u', 'e'] (Cursor.past_rest ..)).bind fun c'' hc'' => ⟨c'', rfl, hc''⟩
    | false =>
      refine (valueStart_reaches hblanks rfl h).bind fun c' hc' => ?_
      rw [hc']
      exact (Cursor.keyword_reaches ['a', 'l', 's', 'e'] (Cursor.past_rest ..)).bind fun c'' hc'' => ⟨c'', rfl, hc''⟩

/-- What is read is read as an optional value that is there. -/
theorem Reads.optional {read : Reader α} (hread : Reads read v a) : Reads (readOptional read) v (some a) where
  opens := hread.opens
  gives depth blanks rest c hblanks h := by
    obtain ⟨ch, tail, hprint, hch⟩ := hread.opens depth
    obtain ⟨hspace, -, hn⟩ := of_opensValue hch
    have hskip : c.skipSpaces.rest = ch :: (tail ++ rest) :=
      Cursor.skipSpaces_rest_of_blanks hblanks hspace (by rw [h, hprint, List.cons_append])
    obtain ⟨c', hc', hrest⟩ := hread.gives depth [] rest c.skipSpaces nofun (by rw [hskip, hprint]; rfl)
    refine ⟨c', ?_, hrest⟩
    rw [readOptional]
    dsimp only
    rw [hskip]
    split
    · rename_i heq
      exact absurd (List.cons.inj heq).1 hn
    · rw [hc']
      rfl

/-! ## Between brackets -/

/-- A new line is blank. -/
theorem isSpace_of_mem_newLine (depth : Nat) : ∀ b ∈ newLine depth, isSpace b = true := by
  intro b hb
  rcases List.mem_cons.mp hb with rfl | hb
  · rfl
  · rw [List.eq_of_mem_replicate hb]
    rfl

/-- What stands between brackets from some item on, and what follows: each item on a line of its own, behind a comma unless it is
the first, and the closing bracket on the next line unless there is no item at all. -/
def inside (closing : Char) (depth : Nat) (rest : List Char) : Bool → List (List Char) → List Char
  | true, [] => closing :: rest
  | false, [] => newLine depth ++ closing :: rest
  | true, item :: items => newLine (depth + 1) ++ (item ++ inside closing depth rest false items)
  | false, item :: items => ',' :: (newLine (depth + 1) ++ (item ++ inside closing depth rest false items))

/-- What is printed between brackets, and what follows it. -/
theorem bracketed_append (opening closing : Char) (depth : Nat) (items : List (List Char)) (rest : List Char) :
    bracketed opening closing depth items ++ rest = opening :: inside closing depth rest true items := by
  have hitems : ∀ (item : List Char) (items : List (List Char)),
      [','].intercalate ((item :: items).map (newLine (depth + 1) ++ ·)) ++ (newLine depth ++ closing :: rest) =
        newLine (depth + 1) ++ (item ++ inside closing depth rest false items) := by
    intro item items
    induction items generalizing item with
    | nil => rw [List.map_singleton, List.intercalate_singleton, List.append_assoc, inside]
    | cons next items ih =>
      rw [List.map_cons, List.map_cons, List.intercalate_cons_cons, inside, List.append_assoc, List.append_assoc,
        ← List.map_cons (f := (newLine (depth + 1) ++ ·)), ih, List.append_assoc, List.singleton_append]
  cases items with
  | nil => rfl
  | cons item items =>
    rw [bracketed, if_neg (by simp), inside, ← hitems]
    simp only [List.cons_append, List.append_assoc, List.nil_append]

/-- What is bracketed starts with its opening. -/
theorem exists_bracketed (opening closing : Char) (depth : Nat) (items : List (List Char)) :
    ∃ tail, bracketed opening closing depth items = opening :: tail :=
  ⟨_, (List.append_nil _).symm.trans (bracketed_append opening closing depth items [])⟩

/-- What stands between brackets gets shorter by every item. -/
theorem length_inside_lt (closing : Char) (depth : Nat) (rest : List Char) (first : Bool) (item : List Char)
    (items : List (List Char)) :
    (inside closing depth rest false items).length < (inside closing depth rest first (item :: items)).length := by
  have hnewLine : 0 < (newLine (depth + 1)).length := Nat.succ_pos _
  cases first <;> simp only [inside, List.length_append, List.length_cons] <;> omega

/-- Behind the last item stands the closing bracket. -/
theorem skipSpaces_inside_nil {closing : Char} {depth : Nat} {first : Bool} (hclosing : isSpace closing = false)
    (h : c.rest = inside closing depth rest first []) : c.skipSpaces.rest = closing :: rest := by
  cases first with
  | true => exact Cursor.skipSpaces_rest_of_visible hclosing h
  | false => exact Cursor.skipSpaces_rest_of_blanks (isSpace_of_mem_newLine depth) hclosing h

/-- The closing bracket ends a list or a record. -/
theorem expectClose_reaches (b : Bracket) (h : c.skipSpaces.rest = b.closing :: rest) : Reaches (expectClose b c) rest := by
  rw [expectClose, closeBracket]
  dsimp only
  rw [h]
  dsimp only
  rw [if_pos rfl]
  exact ⟨_, rfl, Cursor.past_rest ..⟩

/-! ## Lists -/

/-- There is no item at the closing bracket. -/
theorem nextItem?_closing (first : Bool) (h : c.skipSpaces.rest = ']' :: rest) : nextItem? first c = .ok none := by
  rw [nextItem?]
  dsimp only
  rw [h]
  rfl

/-- The next item is found behind its comma and on its line. -/
theorem nextItem?_inside_cons {depth : Nat} {ch : Char} {tail : List Char} {items : List (List Char)} (hch : opensValue ch = true)
    (first : Bool) (h : c.rest = inside ']' depth rest first ((ch :: tail) :: items)) :
    ∃ c', nextItem? first c = .ok (some c') ∧ c'.rest = (ch :: tail) ++ inside ']' depth rest false items := by
  obtain ⟨hspace, hclose, -⟩ := of_opensValue hch
  have hnewLine := isSpace_of_mem_newLine (depth + 1)
  cases first with
  | true =>
    have hskip : c.skipSpaces.rest = ch :: (tail ++ inside ']' depth rest false items) :=
      Cursor.skipSpaces_rest_of_blanks hnewLine hspace h
    refine ⟨c.skipSpaces, ?_, hskip⟩
    rw [nextItem?]
    dsimp only
    rw [hskip]
    split
    · rename_i heq
      nomatch heq
    · rename_i heq
      exact absurd (List.cons.inj heq).1 hclose
    · rfl
  | false =>
    have hcomma := Cursor.skipSpaces_rest_of_visible rfl h
    have hskip : (c.skipSpaces.past ',' (newLine (depth + 1) ++ ch :: (tail ++ inside ']' depth rest false items))).skipSpaces.rest =
      _ := Cursor.skipSpaces_rest_of_blanks hnewLine hspace (Cursor.past_rest ..)
    refine ⟨_, ?_, hskip⟩
    rw [nextItem?]
    dsimp only
    rw [hcomma]
    split
    · rename_i heq
      nomatch heq
    · rename_i heq
      exact absurd (List.cons.inj heq).1 (by decide)
    · rename_i heq
      obtain ⟨rfl, rfl⟩ := List.cons.inj heq
      rw [if_neg Bool.false_ne_true, if_pos rfl]
      dsimp only [List.cons_append]
      rw [hskip]
      split
      · rename_i heq
        nomatch heq
      · rename_i heq
        exact absurd (List.cons.inj heq).1 hclose
      · rfl

/-- One item is read, and then the others. -/
theorem readItems_item {read : Reader α} {as : List α} {first : Bool} {c₁ c₂ c₃ : Cursor} (fuel : Nat)
    (hnext : nextItem? first c = .ok (some c₁)) (hread : read c₁ = .ok (a, c₂)) (hothers : readItems read fuel false c₂ = .ok (as, c₃)) :
    readItems read (fuel + 1) first c = .ok (a :: as, c₃) := by
  rw [readItems, hnext]
  change (read c₁ >>= fun p => readItems read fuel false p.2 >>= fun q => pure (p.1 :: q.1, q.2)) = _
  rw [hread]
  change (readItems read fuel false c₂ >>= fun q => pure (a :: q.1, q.2)) = _
  rw [hothers]
  rfl

/-- The items of a printed list are read one after the other. -/
theorem readItems_gives {read : Reader α} {depth : Nat} {vs : List Value} {as : List α} (h : List.Forall₂ (Reads read) vs as) :
    ∀ (first : Bool) (fuel : Nat) (c : Cursor), c.rest.length < fuel →
      c.rest = inside ']' depth rest first (vs.map (Value.print (depth + 1))) → Gives (readItems read fuel first c) as (']' :: rest) := by
  induction h with
  | nil =>
    intro first fuel c hfuel hc
    obtain ⟨fuel, rfl⟩ := Nat.exists_eq_add_of_lt hfuel
    have hskip := skipSpaces_inside_nil rfl hc
    refine ⟨c.skipSpaces, ?_, hskip⟩
    rw [readItems, nextItem?_closing first hskip]
    rfl
  | @cons v a vs as hv _ ih =>
    intro first fuel c hfuel hc
    obtain ⟨fuel, rfl⟩ := Nat.exists_eq_add_of_lt hfuel
    obtain ⟨ch, tail, hprint, hch⟩ := hv.opens (depth + 1)
    rw [List.map_cons, hprint] at hc
    -- what is left behind the item is shorter, and so the fuel is enough for the others
    have hshorter := hc ▸ length_inside_lt ']' depth rest first (ch :: tail) (vs.map (Value.print (depth + 1)))
    obtain ⟨c₁, hnext, hc₁⟩ := nextItem?_inside_cons hch first hc
    obtain ⟨c₂, hread, hc₂⟩ := hv.gives (depth + 1) [] _ c₁ nofun (by rw [hc₁, hprint]; rfl)
    obtain ⟨c₃, hothers, hc₃⟩ := ih false (c.rest.length + fuel) c₂ (by rw [hc₂]; omega) hc₂
    exact ⟨c₃, readItems_item _ hnext hread hothers, hc₃⟩

/-- Items are printed one by one, a level deeper. -/
theorem Value.printItems_eq_map (depth : Nat) (items : List Value) : printItems depth items = items.map (print (depth + 1)) := by
  induction items with
  | nil => rw [printItems, List.map_nil]
  | cons item items ih => rw [printItems, ih, List.map_cons]

/-- A list is read if its items are. -/
theorem Reads.list {read : Reader α} {vs : List Value} {as : List α} (h : List.Forall₂ (Reads read) vs as) :
    Reads (readList read) (.list vs) as where
  opens depth := by
    obtain ⟨tail, htail⟩ := exists_bracketed '[' ']' depth (Value.printItems depth vs)
    exact ⟨'[', tail, by rw [Value.print, htail], rfl⟩
  gives depth blanks rest c hblanks hc := by
    rw [Value.print, bracketed_append, Value.printItems_eq_map] at hc
    refine (valueStart_reaches hblanks rfl hc).bind fun c' hc' => ?_
    rw [hc']
    refine (readItems_gives h true _ _ ?_ (Cursor.past_rest ..)).bind fun c'' hc'' => ?_
    · rw [Cursor.past_rest]
      exact Nat.lt_succ_self _
    · have hclose := Cursor.skipSpaces_rest_of_visible rfl hc''
      exact (expectClose_reaches .list hclose).bind fun l hl => ⟨l, rfl, hl⟩

/-- Objects are read one after the other if each is. -/
theorem Reads.map {read : Reader α} {toJson : α → Value} (h : ∀ a, Reads read (toJson a) a) (as : List α) :
    Reads (readList read) (.list (as.map toJson)) as :=
  .list (List.forall₂_map_left_iff.mpr (List.forall₂_same.mpr fun a _ => h a))

/-! ## Documents -/

/-- A document that is one printed value and blanks behind it is read as a whole. -/
theorem Reads.document_append {read : Reader α} (hread : Reads read v a) (hblanks : ∀ b ∈ blanks, isSpace b = true) :
    readDocument read (v.pretty ++ String.ofList blanks) = .ok a := by
  obtain ⟨c, hc, hrest⟩ := hread.gives 0 [] blanks (Cursor.start (v.pretty ++ String.ofList blanks).toList) nofun
    (by rw [String.toList_append, Value.pretty, String.toList_ofList, String.toList_ofList]; rfl)
  have hskip : c.skipSpaces.rest = [] := by
    rw [Cursor.skipSpaces_rest, hrest, ← List.append_nil blanks, List.dropWhile_append_of_pos hblanks]
    rfl
  rw [readDocument, hc]
  change (if c.skipSpaces.rest.isEmpty then _ else _) = _
  rw [hskip]
  rfl

/-- A document that is one printed value is read as a whole. -/
theorem Reads.document {read : Reader α} (hread : Reads read v a) : readDocument read v.pretty = .ok a := by
  rw [← hread.document_append (List.forall_mem_nil _), String.ofList_nil, String.append_empty]

end SchemaScript.Json
