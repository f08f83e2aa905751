import Mathlib.Data.List.Basic
import Mathlib.Data.List.TakeWhile
import SchemaScript.FileTree.Basic
import SchemaScript.Proofs.Action
import SchemaScript.Proofs.Text.Trim

/-!
# Where a path leads

A path leads to a place (`FileTree.placeOf`), whatever lies there. If it leads somewhere, that is the place that its parts name,
whatever else lies in the tree (`FileTree.eq_named_of_placeOf`). A plain name joined to a directory names a place directly in it
(`FileTree.IsPlain.named_join`). The parent of a path starts where the path starts and has the first of its parts
(`Path.isFrontOf_parent?`).
-/

namespace SchemaScript

/-- A path has the parts of what stands before a slash in it and of what stands behind. -/
theorem Path.parts_append_slash (front rest : List Char) :
    parts (String.ofList (front ++ '/' :: rest)) = parts (String.ofList front) ++ parts (String.ofList rest) := by
  simp only [parts, String.toList_ofList, Text.splitOn_eq, List.splitOn_append_cons_self, List.filter_append, List.map_append]

namespace FileTree

open SchemaScript.Action (exists_of_bind_eq_ok)

variable {t : FileTree} {here q : Place} {path : String}

/-! ## Following names -/

/-- The place that a path leads to, whatever lies there. -/
def placeOf (t : FileTree) (path : String) : Except FileFault Place := do t.walk (t.base path) (← partsOf path)

/-- The place behind a step by a name. -/
def step (here : Place) (name : String) : Place :=
  if name = "." then here else if name = ".." then here.dropLast else here ++ [name]

/-- A name that is not one of the dots leads one level down. -/
theorem step_of_isDots {name : String} (h : isDots name = false) : step here name = here ++ [name] := by
  obtain ⟨hdot, hdots⟩ : name ≠ "." ∧ name ≠ ".." := by simpa [isDots] using h
  exact (if_neg hdot).trans (if_neg hdots)

/-- The place that names lead to, one after the other, if nothing stands in their way. -/
def follow (here : Place) (names : List String) : Place := names.foldl step here

/-- The place that a path names. -/
def named (t : FileTree) (path : String) : Place := follow (t.base path) (Path.parts path)

/-- A step is taken from a directory. -/
theorem get?_of_enter {name : String} (h : t.enter here name = .ok q) : t.get? here = some .directory := by
  by_contra hne
  rw [enter, if_pos hne] at h
  nomatch h

/-- A step that can be taken leads where the name says. -/
theorem eq_step_of_enter {name : String} (h : t.enter here name = .ok q) : q = step here name := by
  rw [enter, if_neg (not_not.mpr (get?_of_enter h))] at h
  unfold step
  by_cases hdot : name = "."
  · rw [if_pos hdot] at h ⊢
    exact (Except.ok.inj h).symm
  rw [if_neg hdot] at h ⊢
  by_cases hdots : name = ".."
  · rw [if_pos hdots] at h ⊢
    exact (Except.ok.inj h).symm
  rw [if_neg hdots] at h ⊢
  split at h
  · nomatch h
  · exact (Except.ok.inj h).symm

/-- A step by a name of its own leads to the part of that name. -/
theorem eq_of_enter {name : String} (h : t.enter here name = .ok q) (hname : isDots name = false) : q = here ++ [name] :=
  (eq_step_of_enter h).trans (step_of_isDots hname)

/-- A walk is a step and then the walk from there. -/
theorem walk_cons (t : FileTree) (here : Place) (name : String) (names : List String) :
    t.walk here (name :: names) = t.enter here name >>= fun next => t.walk next names := rfl

/-- A walk that succeeds follows its names. -/
theorem eq_follow_of_walk {names : List String} (h : t.walk here names = .ok q) : q = follow here names := by
  induction names generalizing here with
  | nil => exact (Except.ok.inj h).symm
  | cons name names ih =>
    obtain ⟨next, henter, hwalk⟩ := exists_of_bind_eq_ok h
    rw [ih hwalk, eq_step_of_enter henter]
    rfl

/-- A path that can be looked up is looked up part by part. -/
theorem eq_of_partsOf {parts : List String} (h : partsOf path = .ok parts) : parts = Path.parts path := by
  rw [partsOf] at h
  split_ifs at h
  exact (Except.ok.inj h).symm

/-- A path that leads somewhere leads to the place that it names. -/
theorem eq_named_of_placeOf (h : t.placeOf path = .ok q) : q = t.named path := by
  obtain ⟨parts, hparts, hwalk⟩ := exists_of_bind_eq_ok h
  rw [eq_follow_of_walk hwalk, eq_of_partsOf hparts, named]

/-! ## Joined paths -/

/-- A name that something in a directory can have: it is not empty, has no slash, and does not stand for a directory by itself. -/
structure IsPlain (name : String) : Prop where
  no_slash : '/' ∉ name.toList
  not_empty : name ≠ ""
  not_dots : isDots name = false

variable {name : String}

/-- A plain name is no absolute path. -/
theorem IsPlain.isAbsolute_eq (h : IsPlain name) : Path.isAbsolute name = false :=
  decide_eq_false fun hhead => h.no_slash (List.mem_of_head? hhead)

/-- A plain name is its only part. -/
theorem IsPlain.parts_eq (h : IsPlain name) : Path.parts name = [name] := by
  have hpiece : [name.toList].filter (!·.isEmpty) = [name.toList] := List.filter_cons_of_pos (by simpa using h.not_empty)
  rw [Path.parts, Text.splitOn_eq, List.splitOn_eq_singleton h.no_slash, hpiece]
  simp

/-- A plain name joined to a directory is one more part. -/
theorem IsPlain.parts_join (h : IsPlain name) (directory : String) :
    Path.parts (Path.join directory name) = Path.parts directory ++ [name] := by
  rw [Path.join, if_neg (by rw [h.isAbsolute_eq]; exact Bool.false_ne_true)]
  split
  · rename_i hend
    rcases hend with rfl | hslash
    · rw [String.empty_append, h.parts_eq]
      rfl
    · obtain ⟨front, hfront⟩ := List.getLast?_eq_some_iff.mp hslash
      have hdirectory : directory = String.ofList (front ++ '/' :: []) := by rw [← hfront, String.ofList_toList]
      have hjoin : directory ++ name = String.ofList (front ++ '/' :: name.toList) := by
        rw [← String.toList_inj, String.toList_append, hfront, String.toList_ofList, List.append_assoc, List.singleton_append]
      rw [hjoin, Path.parts_append_slash, String.ofList_toList, h.parts_eq, hdirectory, Path.parts_append_slash]
      exact (congrArg (· ++ [name]) (List.append_nil _)).symm
  · have hjoin : directory ++ "/" ++ name = String.ofList (directory.toList ++ '/' :: name.toList) := by
      rw [← String.toList_inj, String.toList_append, String.toList_append, List.append_assoc]
      exact String.toList_ofList.symm
    rw [hjoin, Path.parts_append_slash, String.ofList_toList, String.ofList_toList, h.parts_eq]

/-- A joined path starts where its directory starts. -/
theorem IsPlain.isAbsolute_join (h : IsPlain name) (directory : String) :
    Path.isAbsolute (Path.join directory name) = Path.isAbsolute directory := by
  rw [Path.join, if_neg (by rw [h.isAbsolute_eq]; exact Bool.false_ne_true)]
  by_cases hempty : directory = ""
  · subst hempty
    rw [if_pos (.inl rfl), String.empty_append, h.isAbsolute_eq]
    rfl
  · have hchars : directory.toList ≠ [] := fun hnil => hempty (String.toList_inj.mp hnil)
    split
    · rw [Path.isAbsolute, String.toList_append, List.head?_append_of_ne_nil _ hchars, Path.isAbsolute]
    · rw [Path.isAbsolute, String.toList_append, String.toList_append, List.append_assoc, List.head?_append_of_ne_nil _ hchars,
        Path.isAbsolute]

/-- A plain name joined to a directory names a place directly in it. -/
theorem IsPlain.named_join (h : IsPlain name) (t : FileTree) (directory : String) :
    t.named (Path.join directory name) = t.named directory ++ [name] := by
  rw [named, base, h.isAbsolute_join, h.parts_join, follow, List.foldl_concat]
  exact step_of_isDots h.not_dots

/-- A plain name joined to a directory leads to a place of that name. -/
theorem IsPlain.getLast?_of_placeOf_join (h : IsPlain name) {directory : String}
    (hplace : t.placeOf (Path.join directory name) = .ok q) : q.getLast? = some name := by
  rw [eq_named_of_placeOf hplace, h.named_join, List.getLast?_concat]

end FileTree

/-! ## Parents -/

namespace Path

/-- Whether a path starts where another one starts and has the first of its parts. -/
structure IsFrontOf (front path : String) : Prop where
  parts : Path.parts front <+: Path.parts path
  start : isAbsolute front = isAbsolute path

namespace IsFrontOf

theorem refl (path : String) : IsFrontOf path path := ⟨List.prefix_refl _, rfl⟩

theorem trans {a b c : String} (h : IsFrontOf a b) (h' : IsFrontOf b c) : IsFrontOf a c :=
  ⟨h.parts.trans h'.parts, h.start.trans h'.start⟩

/-- A path cut behind a slash. -/
theorem cut (front rest : List Char) : IsFrontOf (String.ofList (front ++ ['/'])) (String.ofList (front ++ '/' :: rest)) := by
  constructor
  · rw [parts_append_slash, parts_append_slash]
    exact List.prefix_append_right_inj _ |>.mpr List.nil_prefix
  · rw [isAbsolute, isAbsolute, String.toList_ofList, String.toList_ofList]
    cases front <;> rfl

/-- A path cut before a slash that is not its start. -/
theorem cut_before {front : List Char} (hfront : front ≠ []) :
    IsFrontOf (String.ofList front) (String.ofList (front ++ ['/'])) := by
  constructor
  · rw [parts_append_slash]
    exact List.prefix_append _ _
  · rw [isAbsolute, isAbsolute, String.toList_ofList, String.toList_ofList, List.head?_append_of_ne_nil _ hfront]

end IsFrontOf

/-- A path without the slashes and single dots at its end, character by character from the end. -/
theorem isFrontOf_dropIdleReversed (fuel : Nat) (cs : List Char) :
    IsFrontOf (String.ofList (dropIdleReversed fuel cs).reverse) (String.ofList cs.reverse) := by
  -- only a slash that is the whole path is kept at the end, so no cut takes the start of an absolute path away
  induction fuel, cs using dropIdleReversed.induct with
  | case1 cs => exact .refl _
  | case2 fuel => exact .refl _
  | case3 fuel cs hcs ih =>
    have hne : cs.reverse ≠ [] := fun hnil => hcs (List.reverse_eq_nil_iff.mp hnil)
    rw [dropIdleReversed.eq_3 _ _ hcs, List.reverse_cons]
    exact ih.trans (.cut_before hne)
  | case4 fuel cs ih =>
    rw [dropIdleReversed, List.reverse_cons, List.reverse_cons, List.append_assoc]
    rw [List.reverse_cons] at ih
    exact ih.trans (.cut _ _)
  | case5 fuel cs h₁ h₂ h₃ =>
    rw [dropIdleReversed.eq_5 _ _ h₁ h₂ h₃]
    exact .refl _

/-- A path without its last part. -/
theorem isFrontOf_dropWhile (cs : List Char) :
    IsFrontOf (String.ofList (cs.dropWhile (· ≠ '/')).reverse) (String.ofList cs.reverse) := by
  have hsplit := List.takeWhile_append_dropWhile (p := (· ≠ '/')) (l := cs)
  cases hdrop : cs.dropWhile (· ≠ '/') with
  | nil =>
    refine ⟨List.nil_prefix, ?_⟩
    have hslash : '/' ∉ cs := fun hmem => by simpa using List.dropWhile_eq_nil_iff.mp hdrop _ hmem
    rw [isAbsolute, isAbsolute, String.toList_ofList, String.toList_ofList]
    exact (decide_eq_false fun hhead => hslash (List.mem_reverse.mp (List.mem_of_head? hhead))).symm
  | cons c rest =>
    have hhead := List.head?_dropWhile_not (· ≠ '/') cs
    rw [hdrop] at hhead hsplit
    obtain rfl : c = '/' := by simpa using hhead
    rw [← hsplit, List.reverse_append, List.reverse_cons, List.append_assoc]
    exact .cut _ _

/-- The parent of a path starts where the path starts and has the first of its parts. -/
theorem isFrontOf_parent? {path parent : String} (h : parent? path = some parent) : IsFrontOf parent path := by
  have htrim := isFrontOf_dropIdleReversed (path.toList.reverse.length + 1) path.toList.reverse
  rw [List.reverse_reverse, String.ofList_toList] at htrim
  unfold parent? at h
  split at h
  · nomatch h
  · nomatch h
  · obtain rfl := Option.some.inj h
    exact (isFrontOf_dropIdleReversed _ _).trans ((isFrontOf_dropWhile _).trans htrim)

end Path

end SchemaScript
