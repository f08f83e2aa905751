import SchemaScript.Proofs.FileTree.Remove
import SchemaScript.Proofs.Text.Bytes
import SchemaScript.Script.Select

/-!
# Which script a directory has

Of the names in a directory those count that belong to files and end in the extension of scripts (`Script.Qualifies`). The script is
the one whose name has the least bytes (`Script.first?_filter_eq_some_iff`). What is least among some names does not depend on the
order in which they are listed, so neither does the script (`Script.find_selects_least`).
-/

namespace SchemaScript

open SchemaScript.Action (exists_of_bind_eq_ok)

/-! ## Extensions -/

/-- The extension of a name is what stands behind its last dot, if something stands before that. -/
theorem Path.extension?_eq_some_iff {name ext : String} :
    extension? name = some ext ↔ name ≠ ".." ∧ '.' ∉ ext.toList ∧ ∃ stem, stem ≠ [] ∧ name.toList = stem ++ '.' :: ext.toList := by
  -- the name is searched backwards: the reversed extension, the dot, the reversed stem
  have hsplit : ∀ {stem ext : List Char}, name.toList = stem ++ '.' :: ext → '.' ∉ ext →
      extension? name = if stem = [] ∨ name = ".." then none else some (String.ofList ext) := by
    intro stem ext hname hext
    have hreversed : name.toList.reverse = ext.reverse ++ '.' :: stem.reverse := by simp [hname]
    have hbehind : ∀ c ∈ ext.reverse, decide (c ≠ '.') = true := fun c hc =>
      decide_eq_true (ne_of_mem_of_not_mem (List.mem_reverse.mp hc) hext)
    have hdot : '.' ∈ name.toList := by simp [hname]
    rw [extension?, hreversed, List.dropWhile_append_of_pos hbehind, List.takeWhile_append_of_pos hbehind]
    simp [hdot]
  constructor
  · intro h
    have hdot : '.' ∈ name.toList := by
      by_contra hdot
      rw [extension?, if_pos (.inl hdot)] at h
      nomatch h
    obtain ⟨behind, before, hreversed, hbehind⟩ := List.eq_append_cons_of_mem (List.mem_reverse.mpr hdot)
    have hname : name.toList = before.reverse ++ '.' :: behind.reverse := by
      rw [← List.reverse_reverse name.toList, hreversed]
      simp
    rw [hsplit hname (by simpa using hbehind)] at h
    split at h
    · nomatch h
    · rename_i hstem
      obtain ⟨hstem, hdots⟩ := not_or.mp hstem
      obtain rfl := Option.some.inj h
      rw [String.toList_ofList]
      exact ⟨hdots, by simpa using hbehind, before.reverse, hstem, hname⟩
  · rintro ⟨hdots, hext, stem, hstem, hname⟩
    rw [hsplit hname hext, if_neg (not_or.mpr ⟨hstem, hdots⟩), String.ofList_toList]

/-! ## Files in a directory -/

namespace FileTree

variable {t : FileTree} {directory name : String} {names : List String}

/-- A directory that can be listed is at its place. -/
theorem exists_of_list (h : t.list directory = .ok names) :
    ∃ here, t.placeOf directory = .ok here ∧ t.get? here = some .directory ∧ names = t.children here := by
  obtain ⟨⟨here, n⟩, hlocate, h⟩ := exists_of_bind_eq_ok h
  cases n with
  | file c => nomatch h
  | directory =>
    obtain ⟨hplace, hget, -⟩ := placeOf_of_locate hlocate
    exact ⟨here, hplace, hget, (Except.ok.inj h).symm⟩

/-- A path that ends in a plain name may lead to a file. -/
theorem IsPlain.wantsDirectory_join (h : IsPlain name) (directory : String) : wantsDirectory (Path.join directory name) = false := by
  have hchars : name.toList ≠ [] := fun hnil => h.not_empty (String.toList_inj.mp hnil)
  have hlast : (Path.join directory name).toList.getLast? = name.toList.getLast? := by
    rw [Path.join, if_neg (by rw [h.isAbsolute_eq]; exact Bool.false_ne_true)]
    split <;> rw [String.toList_append, List.getLast?_append_of_ne_nil _ hchars]
  rw [wantsDirectory, hlast]
  exact decide_eq_false fun hslash => h.no_slash (List.mem_of_getLast? hslash)

/-- A plain name leads from its directory to the place of that name, unless the name or the path to it is too long. -/
theorem IsPlain.placeOf_join (h : IsPlain name) {here : Place} (hplace : t.placeOf directory = .ok here)
    (hdir : t.get? here = some .directory) (hlength : name.utf8ByteSize ≤ nameLimit)
    (hpath : (partsOf (Path.join directory name)).isOk = true) : t.placeOf (Path.join directory name) = .ok (here ++ [name]) := by
  obtain ⟨parts, hparts, hwalk⟩ := exists_of_bind_eq_ok hplace
  obtain ⟨joined, hjoined⟩ : ∃ joined, partsOf (Path.join directory name) = .ok joined := by
    cases hr : partsOf (Path.join directory name) with
    | ok joined => exact ⟨joined, rfl⟩
    | error fault =>
      rw [hr] at hpath
      nomatch hpath
  have hdots : name ≠ "." ∧ name ≠ ".." := by simpa [isDots] using h.not_dots
  have henter : t.enter here name = .ok (here ++ [name]) := by
    rw [enter, if_neg (not_not.mpr hdir), if_neg hdots.1, if_neg hdots.2, if_neg (not_lt.mpr hlength)]
  rw [placeOf, hjoined, eq_of_partsOf hjoined, h.parts_join, ← eq_of_partsOf hparts, base, h.isAbsolute_join, ← base]
  change t.walk (t.base directory) (parts ++ [name]) = _
  rw [walk_concat, hwalk]
  exact henter

/-- A plain name in a directory has a file exactly if a file lies at its place, unless the name or the path to it is too long. -/
theorem isFile_join_iff {here : Place} (hplace : t.placeOf directory = .ok here) (hdir : t.get? here = some .directory)
    (hname : IsPlain name) (hlength : name.utf8ByteSize ≤ nameLimit) (hpath : (partsOf (Path.join directory name)).isOk = true) :
    t.isFile (Path.join directory name) = true ↔ ∃ c, t.get? (here ++ [name]) = some (.file c) := by
  rw [isFile, locate_of_placeOf (hname.placeOf_join hplace hdir hlength hpath), hname.wantsDirectory_join]
  match t.get? (here ++ [name]) with
  | none => simp
  | some .directory => simp
  | some (.file c) => simp

end FileTree

/-- A name in a directory that is a script's: a file has it, and behind something else it ends in a dot and the letters of the
extension in any case. -/
structure Script.Qualifies (t : FileTree) (directory name : String) : Prop where
  isFile : t.isFile (Path.join directory name) = true
  extension : ∃ stem ext, stem ≠ [] ∧ name.toList = stem ++ '.' :: ext ∧ ext.map Char.toLower = ['s', 'q', 'l']

namespace Script

variable {t : FileTree} {directory name : String} {names names' : List String}

/-- The extension of scripts in any letter case. -/
theorem equalsKeyword_iff {ext : String} :
    Text.equalsKeyword ext scriptExtension = true ↔ ext.toList.map Char.toLower = ['s', 'q', 'l'] := by
  rw [Text.equalsKeyword, Text.sameLetters, beq_iff_eq]
  rfl

/-- A name has the extension of scripts exactly if it ends in a dot and its letters, behind something else. -/
theorem hasExtension_iff :
    Path.hasExtension name scriptExtension = true ↔
      ∃ stem ext, stem ≠ [] ∧ name.toList = stem ++ '.' :: ext ∧ ext.map Char.toLower = ['s', 'q', 'l'] := by
  rw [Path.hasExtension, Option.any_eq_true]
  constructor
  · rintro ⟨ext, hext, hletters⟩
    obtain ⟨-, -, stem, hstem, hname⟩ := Path.extension?_eq_some_iff.mp hext
    exact ⟨stem, ext.toList, hstem, hname, equalsKeyword_iff.mp hletters⟩
  · rintro ⟨stem, ext, hstem, hname, hletters⟩
    have hdot : '.' ∉ ext := fun hmem => absurd (hletters ▸ List.mem_map_of_mem hmem) (by decide)
    have hdots : name ≠ ".." := by
      rintro rfl
      have hlength := congrArg List.length hname
      have hthree := congrArg List.length hletters
      rw [List.length_append, List.length_cons, show "..".toList.length = 2 from rfl] at hlength
      rw [List.length_map, show ['s', 'q', 'l'].length = 3 from rfl] at hthree
      omega
    refine ⟨String.ofList ext, Path.extension?_eq_some_iff.mpr ⟨hdots, ?_, stem, hstem, ?_⟩, ?_⟩
    · rwa [String.toList_ofList]
    · rwa [String.toList_ofList]
    · rwa [equalsKeyword_iff, String.toList_ofList]

/-- The test for scripts passes exactly the names that qualify. -/
theorem isScript_iff : isScript t directory name = true ↔ Qualifies t directory name := by
  rw [isScript, Bool.and_eq_true, hasExtension_iff]
  exact ⟨fun ⟨hext, hfile⟩ => ⟨hfile, hext⟩, fun ⟨hfile, hext⟩ => ⟨hext, hfile⟩⟩

/-! ## The least name -/

/-- There is no first name exactly if there is no name. -/
theorem first?_eq_none_iff : first? names = none ↔ names = [] := by
  cases names with
  | nil => exact iff_of_true rfl rfl
  | cons name rest =>
    rw [first?]
    cases first? rest <;> exact iff_of_false nofun nofun

/-- The first of some names is one of them, and no other one comes before it. -/
theorem least_of_first? (h : first? names = some name) : name ∈ names ∧ ∀ other ∈ names, ¬other < name := by
  induction names generalizing name with
  | nil => nomatch h
  | cons first rest ih =>
    rw [first?] at h
    cases hrest : first? rest with
    | none =>
      rw [hrest] at h
      obtain rfl := Option.some.inj h
      rw [first?_eq_none_iff.mp hrest]
      exact ⟨List.mem_singleton_self _, List.forall_mem_singleton.mpr (lt_irrefl _)⟩
    | some least =>
      rw [hrest] at h
      obtain rfl := Option.some.inj h
      obtain ⟨hmem, hleast⟩ := ih hrest
      split
      · rename_i hlt
        exact ⟨List.mem_cons_of_mem _ hmem, List.forall_mem_cons.mpr ⟨lt_asymm hlt, hleast⟩⟩
      · rename_i hnlt
        refine ⟨List.mem_cons_self, List.forall_mem_cons.mpr ⟨lt_irrefl _, fun other hother hlt => ?_⟩⟩
        exact hleast other hother (hlt.trans_le (not_lt.mp hnlt))

/-- The first of some names is the one that no other one comes before. -/
theorem first?_eq_some_iff : first? names = some name ↔ name ∈ names ∧ ∀ other ∈ names, ¬other < name := by
  refine ⟨least_of_first?, fun ⟨hmem, hleast⟩ => ?_⟩
  cases hfirst : first? names with
  | none =>
    rw [first?_eq_none_iff.mp hfirst] at hmem
    nomatch hmem
  | some first =>
    obtain ⟨hfirstmem, hfirstleast⟩ := least_of_first? hfirst
    exact congrArg some (le_antisymm (not_lt.mp (hfirstleast name hmem)) (not_lt.mp (hleast first hfirstmem)))

/-- The first of some names depends on nothing but which names there are. -/
theorem first?_congr (h : ∀ name, name ∈ names ↔ name ∈ names') : first? names = first? names' := by
  ext name
  rw [first?_eq_some_iff, first?_eq_some_iff, h]
  simp only [h]

/-! ## The script of a directory -/

/-- Finding the script of a directory that can be listed. -/
theorem find_eq (h : t.list directory = .ok names) :
    find t directory =
      match first? (names.filter (isScript t directory)) with
      | some name => .ok (Path.join directory name)
      | none => .error (.noScript directory) := by
  rw [find, h]
  change (match first? (names.filter (isScript t directory)) with
    | some name => _
    | none => _) = _
  cases first? (names.filter (isScript t directory)) <;> rfl

/-- The name of a directory's script. -/
theorem first?_filter_eq_some_iff :
    first? (names.filter (isScript t directory)) = some name ↔
      (name ∈ names ∧ Qualifies t directory name) ∧
      ∀ other ∈ names, Qualifies t directory other → other = name ∨ Text.bytes name < Text.bytes other := by
  simp only [first?_eq_some_iff, List.mem_filter, isScript_iff, and_imp]
  refine and_congr_right fun _ => forall₃_congr fun other _ _ => ?_
  rw [← Text.lt_iff_bytes_lt, not_lt, le_iff_eq_or_lt, eq_comm]

/-- The script of a directory that can be listed is at the path of the name with the least bytes among those that qualify, and there is
none exactly if no name qualifies. Another order of the list, with the same files, makes no other script. A name that something in a
directory can have belongs to a file exactly if a file lies at its place in the directory, unless its path is too long to be looked
up. -/
theorem find_selects_least (h : t.list directory = .ok names) :
    (∀ path, find t directory = .ok path ↔ ∃ name ∈ names, Qualifies t directory name ∧
      (∀ other ∈ names, Qualifies t directory other → other = name ∨ Text.bytes name < Text.bytes other) ∧
      path = Path.join directory name) ∧
    (∀ e, find t directory = .error e ↔ e = .noScript directory ∧ ∀ name ∈ names, ¬Qualifies t directory name) ∧
    (∀ t' names', t'.list directory = .ok names' → names'.Perm names →
      (∀ name ∈ names, t'.isFile (Path.join directory name) = t.isFile (Path.join directory name)) →
      find t' directory = find t directory) ∧
    ∀ name ∈ names, FileTree.IsPlain name → name.utf8ByteSize ≤ FileTree.nameLimit →
      (FileTree.partsOf (Path.join directory name)).isOk = true →
      (t.isFile (Path.join directory name) = true ↔ ∃ c, t.get? (t.named directory ++ [name]) = some (.file c)) := by
  refine ⟨fun path => ?_, fun e => ?_, fun t' names' h' hperm hfiles => ?_, fun name _ hname hlength hpath => ?_⟩
  · rw [find_eq h]
    constructor
    · intro hfind
      split at hfind
      · rename_i name hfirst
        obtain ⟨⟨hmem, hqualifies⟩, hleast⟩ := first?_filter_eq_some_iff.mp hfirst
        exact ⟨name, hmem, hqualifies, hleast, (Except.ok.inj hfind).symm⟩
      · nomatch hfind
    · rintro ⟨name, hmem, hqualifies, hleast, rfl⟩
      rw [first?_filter_eq_some_iff.mpr ⟨⟨hmem, hqualifies⟩, hleast⟩]
  · have hnone : first? (names.filter (isScript t directory)) = none ↔ ∀ name ∈ names, ¬Qualifies t directory name := by
      simp only [first?_eq_none_iff, List.filter_eq_nil_iff, isScript_iff]
    rw [find_eq h, ← hnone]
    cases first? (names.filter (isScript t directory)) with
    | none => exact ⟨fun hfind => ⟨(Except.error.inj hfind).symm, rfl⟩, fun hfind => by rw [hfind.1]⟩
    | some name => exact ⟨nofun, fun hfind => nomatch hfind.2⟩
  · rw [find_eq h, find_eq h']
    have hfirst : first? (names'.filter (isScript t' directory)) = first? (names.filter (isScript t directory)) := by
      refine first?_congr fun name => ?_
      rw [List.mem_filter, List.mem_filter, hperm.mem_iff]
      exact and_congr_right fun hmem => by rw [isScript, isScript, hfiles name hmem]
    rw [hfirst]
  · obtain ⟨here, hplace, hdir, -⟩ := FileTree.exists_of_list h
    rw [FileTree.isFile_join_iff hplace hdir hname hlength hpath, FileTree.eq_named_of_placeOf hplace]

/-- A tree with a directory of files of some names, and a directory among them that is named like a script. -/
def scriptsTree (files : List String) : FileTree :=
  files.foldl (fun t name => t.insert ["scripts", name] (.file (.text "")))
    (((FileTree.fresh []).insert ["scripts"] .directory).insert ["scripts", "0.sql"] .directory)

/-- Files that are listed in another order: of the two that qualify the same one is found. -/
theorem find_scriptsTree :
    let t := scriptsTree [".sql", "b.sql", "A.b.SQL", "notes.txt"]
    let t' := scriptsTree ["A.b.SQL", "notes.txt", ".sql", "b.sql"]
    find t' "scripts" = .ok "scripts/A.b.SQL" ∧ find t "scripts" = find t' "scripts" ∧
      ∃ name ∈ ["0.sql", "A.b.SQL", "notes.txt", ".sql", "b.sql"], Qualifies t' "scripts" name ∧
        "scripts/A.b.SQL" = Path.join "scripts" name := by
  intro t t'
  have hlist' : t'.list "scripts" = .ok ["0.sql", "A.b.SQL", "notes.txt", ".sql", "b.sql"] :=
    Action.eq_ok_of_toOption (by decide +kernel)
  have hlist : t.list "scripts" = .ok ["0.sql", ".sql", "b.sql", "A.b.SQL", "notes.txt"] :=
    Action.eq_ok_of_toOption (by decide +kernel)
  have hfind : find t' "scripts" = .ok "scripts/A.b.SQL" := Action.eq_ok_of_toOption (by decide +kernel)
  obtain ⟨hfound, -, hperm, -⟩ := find_selects_least hlist'
  obtain ⟨name, hmem, hqualifies, -, hpath⟩ := (hfound _).mp hfind
  exact ⟨hfind, hperm t _ hlist (by decide) (by decide +kernel), name, hmem, hqualifies, hpath⟩

end Script

end SchemaScript
