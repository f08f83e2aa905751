import SchemaScript.Proofs.FileTree.Place

/-!
# What a written file holds

Writing puts a file at the place of its path and changes nothing else (`exists_of_written`); as no directory is lost, paths lead
where they led before (`placeOf_insert`). So the file holds what was written (`readText_written`), and every other file holds what it
held (`readText_written_of_ne`). Files of different names in a directory do not meet (`readText_written_sibling`). Where a file can be
written, a file of any content can be, also after other files were written (`Accepts.written`, `Accepts.insert`).
-/

namespace SchemaScript

namespace FileTree

open SchemaScript.Action (exists_of_bind_eq_ok)

variable {t t' : FileTree} {p q here : Place} {path : String}

/-! ## Walking past a file -/

/-- Looking up one place is not changed by taking out another. -/
theorem lookup_filter_of_ne (h : q ≠ p) (nodes : List (Place × Node)) :
    (nodes.filter (·.1 ≠ p)).lookup q = nodes.lookup q := by
  induction nodes with
  | nil => rfl
  | cons e nodes ih =>
    by_cases he : e.1 = p
    · rw [List.filter_cons_of_neg (by simp [he]), ih, List.lookup_cons, beq_eq_false_iff_ne.mpr (he ▸ h)]
    · rw [List.filter_cons_of_pos (by simp [he]), List.lookup_cons, List.lookup_cons, ih]

/-- What was inserted lies at its place. -/
theorem get?_insert_self (hp : p ≠ []) (n : Node) : (t.insert p n).get? p = some n := by
  have hrest : (t.nodes.filter (·.1 ≠ p)).lookup p = none := by
    rw [List.lookup_eq_none_iff]
    intro e he
    have hne : e.1 ≠ p := of_decide_eq_true (List.mem_filter.mp he).2
    exact bne_iff_ne.mpr hne.symm
  rw [get?, if_neg hp, insert, List.lookup_append, hrest, Option.none_or, List.lookup_cons, beq_self_eq_true]

/-- What lies elsewhere is not replaced. -/
theorem get?_insert_of_ne (h : q ≠ p) (n : Node) : (t.insert p n).get? q = t.get? q := by
  have hlast : [(p, n)].lookup q = none := by
    rw [List.lookup_cons, beq_eq_false_iff_ne.mpr h]
    rfl
  simp only [get?, insert]
  rw [List.lookup_append, lookup_filter_of_ne h, hlast, Option.or_none]

/-- A step looks at nothing but the place it starts from. -/
theorem enter_congr (h : t'.get? here = t.get? here) (name : String) : t'.enter here name = t.enter here name := by
  rw [enter, enter, h]

/-- The last step of a walk. -/
theorem walk_concat (t : FileTree) (here : Place) (names : List String) (name : String) :
    t.walk here (names ++ [name]) = t.walk here names >>= fun next => t.enter next name := by
  induction names generalizing here with
  | nil =>
    rw [List.nil_append, walk_cons]
    change (t.enter here name >>= pure) = t.enter here name
    exact bind_pure _
  | cons first names ih =>
    rw [List.cons_append, walk_cons, walk_cons]
    cases t.enter here first with
    | error f => rfl
    | ok next => exact ih next

/-- A file put where no directory is stands in the way of no walk. -/
theorem walk_insert (hp : t.get? p ≠ some .directory) (c : Content) {names : List String}
    (h : t.walk here names = .ok q) : (t.insert p (.file c)).walk here names = .ok q := by
  induction names generalizing here with
  | nil => exact h
  | cons name names ih =>
    obtain ⟨next, hstep, hrest⟩ := exists_of_bind_eq_ok h
    have hne : here ≠ p := by
      rintro rfl
      exact hp (get?_of_enter hstep)
    rw [walk_cons, enter_congr (get?_insert_of_ne hne _), hstep]
    exact ih hrest

/-- A file put where no directory is leaves every path leading where it led. -/
theorem placeOf_insert (hp : t.get? p ≠ some .directory) (c : Content) (h : t.placeOf path = .ok q) :
    (t.insert p (.file c)).placeOf path = .ok q := by
  obtain ⟨parts, hparts, hwalk⟩ := exists_of_bind_eq_ok h
  rw [placeOf, hparts]
  exact walk_insert hp c hwalk

/-! ## Writing -/

/-- The last part of a path is entered from its parent. -/
theorem placeOf_of_locateParent {name : String} (h : t.locateParent path = .ok (here, name)) (hname : isDots name = false) :
    t.placeOf path = .ok (here ++ [name]) := by
  obtain ⟨parts, hparts, h⟩ := exists_of_bind_eq_ok h
  obtain ⟨here', hwalk, h⟩ := exists_of_bind_eq_ok h
  obtain ⟨q, henter, h⟩ := exists_of_bind_eq_ok h
  obtain ⟨rfl, hlast⟩ := Prod.mk.inj (Except.ok.inj h)
  rw [hlast] at henter
  have hsplit : parts = parts.dropLast ++ [name] := by
    cases hgetLast : parts.getLast? with
    | none =>
      rw [hgetLast] at hlast
      rw [← hlast] at hname
      nomatch hname
    | some last =>
      rw [hgetLast] at hlast
      exact (List.dropLast_append_getLast? name (hlast ▸ hgetLast)).symm
  rw [placeOf, hparts]
  change t.walk (t.base path) parts = _
  rw [hsplit, walk_concat, hwalk]
  exact henter.trans (congrArg _ (eq_of_enter henter hname))

/-- A file is written into a directory that is there, where no directory is. -/
theorem exists_parent_of_written {content : Content} (h : t.written path content = .ok t') :
    ∃ here name, t.locateParent path = .ok (here, name) ∧ wantsDirectory path = false ∧ isDots name = false ∧
      t.get? (here ++ [name]) ≠ some .directory ∧ t' = t.insert (here ++ [name]) (.file content) := by
  obtain ⟨⟨here, name⟩, hparent, h⟩ := exists_of_bind_eq_ok h
  dsimp only at h
  split at h
  · nomatch h
  rename_i hname
  obtain ⟨hslash, hdots⟩ := not_or.mp hname
  refine ⟨here, name, hparent, by simpa using hslash, by simpa using hdots, ?_⟩
  split at h
  · nomatch h
  · exact ⟨by assumption, (Except.ok.inj h).symm⟩

/-- Writing puts a file at the place of its path, where no directory is, and does nothing else. -/
theorem exists_of_written {content : Content} (h : t.written path content = .ok t') :
    ∃ p, t.placeOf path = .ok p ∧ p ≠ [] ∧ t.get? p ≠ some .directory ∧ wantsDirectory path = false ∧
      t' = t.insert p (.file content) := by
  obtain ⟨here, name, hparent, hslash, hdots, hdir, rfl⟩ := exists_parent_of_written h
  exact ⟨here ++ [name], placeOf_of_locateParent hparent hdots, by simp, hdir, hslash, rfl⟩

/-- Into a directory that is there a file is written, unless a directory is where it would be. -/
theorem written_of_locateParent {name : String} (h : t.locateParent path = .ok (here, name)) (hpath : wantsDirectory path = false)
    (hname : isDots name = false) (hdir : t.get? (here ++ [name]) ≠ some .directory) (content : Content) :
    t.written path content = .ok (t.insert (here ++ [name]) (.file content)) := by
  have h : t.locateParent path = pure (here, name) := h
  rw [written, h, pure_bind]
  dsimp only
  rw [if_neg (by simp [hpath, hname])]
  split
  · contradiction
  · rfl

/-- Whether a file can be written at a path: an empty one can. -/
def Accepts (t : FileTree) (path : String) : Prop := (t.written path (.text "")).isOk = true

instance (t : FileTree) (path : String) : Decidable (t.Accepts path) :=
  inferInstanceAs (Decidable ((t.written path (.text "")).isOk = true))

/-- Where a file can be written its directory is there, and no directory is at its place. -/
theorem Accepts.exists_parent (h : t.Accepts path) : ∃ here name, t.locateParent path = .ok (here, name) ∧
    wantsDirectory path = false ∧ isDots name = false ∧ t.get? (here ++ [name]) ≠ some .directory := by
  rw [Accepts] at h
  cases hwritten : t.written path (.text "") with
  | error fault =>
    rw [hwritten] at h
    nomatch h
  | ok t' =>
    obtain ⟨here, name, hparent, hpath, hname, hdir, -⟩ := exists_parent_of_written hwritten
    exact ⟨here, name, hparent, hpath, hname, hdir⟩

/-- Where a file can be written, one of any content can be. -/
theorem Accepts.written (h : t.Accepts path) (content : Content) : ∃ t', t.written path content = .ok t' := by
  obtain ⟨here, name, hparent, hpath, hname, hdir⟩ := h.exists_parent
  exact ⟨_, written_of_locateParent hparent hpath hname hdir content⟩

/-- The parent of a path is found where it was found before a file was put where no directory is. -/
theorem locateParent_insert {name : String} (hp : t.get? p ≠ some .directory) (c : Content)
    (h : t.locateParent path = .ok (here, name)) : (t.insert p (.file c)).locateParent path = .ok (here, name) := by
  obtain ⟨parts, hparts, h⟩ := exists_of_bind_eq_ok h
  obtain ⟨parent, hwalk, h⟩ := exists_of_bind_eq_ok h
  obtain ⟨q, henter, h⟩ := exists_of_bind_eq_ok h
  have hne : parent ≠ p := by
    rintro rfl
    exact hp (get?_of_enter henter)
  have hwalk' : (t.insert p (.file c)).walk (t.base path) parts.dropLast = .ok parent := walk_insert hp c hwalk
  have henter' : (t.insert p (.file c)).enter parent (parts.getLast?.getD ".") = .ok q :=
    (enter_congr (get?_insert_of_ne hne _) _).trans henter
  rw [locateParent, hparts]
  change ((t.insert p (.file c)).walk (t.base path) parts.dropLast >>= _) = _
  rw [hwalk']
  change ((t.insert p (.file c)).enter parent _ >>= _) = _
  rw [henter']
  exact h

/-- Where a file can be written it still can be after a file was put where no directory is. -/
theorem Accepts.insert (h : t.Accepts path) (hp : t.get? p ≠ some .directory) (c : Content) :
    (t.insert p (.file c)).Accepts path := by
  obtain ⟨here, name, hparent, hpath, hname, hdir⟩ := h.exists_parent
  have hdir' : (t.insert p (.file c)).get? (here ++ [name]) ≠ some .directory := by
    by_cases hplace : here ++ [name] = p
    · rw [hplace, get?_insert_self (hplace ▸ by simp)]
      nofun
    · rwa [get?_insert_of_ne hplace]
  rw [Accepts, written_of_locateParent (locateParent_insert hp c hparent) hpath hname hdir']
  rfl

/-! ## Reading -/

/-- A file at the place of a path that may lead to a file is read there. -/
theorem readText_of_get? {text : String} (h : t.placeOf path = .ok p) (hpath : wantsDirectory path = false)
    (hp : t.get? p = some (.file (.text text))) : t.readText path = .ok text := by
  have hlocate : t.locate path = .ok (p, .file (.text text)) := by
    obtain ⟨parts, hparts, hwalk⟩ := exists_of_bind_eq_ok h
    have hwalk : t.walk (t.base path) parts = pure p := hwalk
    rw [locate, hparts]
    change (t.walk (t.base path) parts >>= _) = _
    rw [hwalk, pure_bind, hp]
    exact if_neg (by simp [hpath])
  rw [readText, hlocate]
  rfl

/-- What is found at a path lies at its place, and is a directory if the path may only lead to one. -/
theorem placeOf_of_locate {n : Node} (h : t.locate path = .ok (p, n)) :
    t.placeOf path = .ok p ∧ t.get? p = some n ∧ (wantsDirectory path = true → n = .directory) := by
  obtain ⟨parts, hparts, h⟩ := exists_of_bind_eq_ok h
  obtain ⟨q, hwalk, h⟩ := exists_of_bind_eq_ok h
  have hplace : t.placeOf path = .ok q := by
    rw [placeOf, hparts]
    exact hwalk
  split at h
  · nomatch h
  · rename_i hget
    split at h
    · nomatch h
    · rename_i hpath
      obtain ⟨rfl, rfl⟩ := Prod.mk.inj (Except.ok.inj h)
      exact ⟨hplace, hget, fun hwants => absurd hwants hpath⟩
  · rename_i hget
    obtain ⟨rfl, rfl⟩ := Prod.mk.inj (Except.ok.inj h)
    exact ⟨hplace, hget, fun _ => rfl⟩

/-- A path at which a text is read leads to a file with this text. -/
theorem exists_of_readText {text : String} (h : t.readText path = .ok text) :
    ∃ p, t.placeOf path = .ok p ∧ wantsDirectory path = false ∧ t.get? p = some (.file (.text text)) := by
  obtain ⟨⟨q, n⟩, hlocate, h⟩ := exists_of_bind_eq_ok h
  obtain rfl : n = .file (.text text) := by
    match n, h with
    | .file (.text _), h => exact congrArg (Node.file ∘ Content.text) (Except.ok.inj h)
  obtain ⟨hplace, hget, hwants⟩ := placeOf_of_locate hlocate
  exact ⟨q, hplace, Bool.eq_false_iff.mpr fun h => Node.noConfusion (hwants h), hget⟩

/-- A written file holds what was written. -/
theorem readText_written {text : String} (h : t.written path (.text text) = .ok t') : t'.readText path = .ok text := by
  obtain ⟨p, hplace, hp, hdir, hpath, rfl⟩ := exists_of_written h
  exact readText_of_get? (placeOf_insert hdir _ hplace) hpath (get?_insert_self hp _)

/-- Writing leaves every other file as it was. -/
theorem readText_written_of_ne {other text : String} {content : Content} (h : t.written path content = .ok t')
    (hother : t.readText other = .ok text) (hne : t.placeOf other ≠ t.placeOf path) : t'.readText other = .ok text := by
  obtain ⟨p, hplace, -, hdir, -, rfl⟩ := exists_of_written h
  obtain ⟨q, hq, hpath, hget⟩ := exists_of_readText hother
  have hqp : q ≠ p := by
    rintro rfl
    exact hne (hq.trans hplace.symm)
  exact readText_of_get? (placeOf_insert hdir _ hq) hpath (by rw [get?_insert_of_ne hqp, hget])

/-- Writing a file leaves the files of other names in its directory as they were. -/
theorem readText_written_sibling {name other : String} (hname : IsPlain name) (hother : IsPlain other) (hne : other ≠ name) {directory text : String}
    {content : Content} (h : t.written (Path.join directory name) content = .ok t')
    (hread : t.readText (Path.join directory other) = .ok text) : t'.readText (Path.join directory other) = .ok text := by
  refine readText_written_of_ne h hread fun hplaces => hne ?_
  obtain ⟨p, hplace, -⟩ := exists_of_written h
  have hlast := hother.getLast?_of_placeOf_join (hplaces.trans hplace)
  exact Option.some.inj (hlast.symm.trans (hname.getLast?_of_placeOf_join hplace))

end FileTree

end SchemaScript
