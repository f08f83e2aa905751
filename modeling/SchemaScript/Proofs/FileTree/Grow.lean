import SchemaScript.Proofs.FileTree.Write

/-!
# How a file tree grows

Creating directories and writing files takes nothing away. `FileTree.GrowsWithin` says at which places a tree may have changed, and
how: a directory where nothing was, or a file where no directory was. Creating directories grows a tree on the way along their path
(`FileAction.createDirectories_grows`), whether it succeeds or fails on the way, and so loses nothing
(`FileAction.createDirectories_keeps`). Writing a file grows a tree at the place that its path names (`FileTree.written_grows`).
-/

namespace SchemaScript

namespace FileTree

open SchemaScript.Action (exists_of_bind_eq_ok)

variable {dirs files dirs' files' : Place → Prop} {t t' t'' : FileTree} {p : Place} {path : String}

/-- A tree that another one grew into: each place is as it was, or it is among those for directories, nothing was there and a
directory is there now, or it is among those for files, no directory was there and a text is there now. -/
structure GrowsWithin (dirs files : Place → Prop) (t t' : FileTree) : Prop where
  current : t'.current = t.current
  get? (p : Place) : t'.get? p = t.get? p ∨
    (dirs p ∧ t.get? p = none ∧ t'.get? p = some .directory) ∨
    (files p ∧ t.get? p ≠ some .directory ∧ ∃ text, t'.get? p = some (.file (.text text)))

namespace GrowsWithin

theorem refl (t : FileTree) : GrowsWithin dirs files t t := ⟨rfl, fun _ => .inl rfl⟩

theorem trans (h : GrowsWithin dirs files t t') (h' : GrowsWithin dirs files t' t'') : GrowsWithin dirs files t t'' := by
  -- a place that changed twice held a file before the second change, as a directory is never replaced
  refine ⟨h'.current.trans h.current, fun p => ?_⟩
  rcases h'.get? p with hsame | ⟨hdirs, hnone, hdir⟩ | ⟨hfiles, hnot, hfile⟩
  · rw [hsame]
    exact h.get? p
  · rcases h.get? p with hsame | ⟨-, -, hdir'⟩ | ⟨-, -, text, hfile⟩
    · exact .inr (.inl ⟨hdirs, hsame ▸ hnone, hdir⟩)
    · rw [hdir'] at hnone
      nomatch hnone
    · rw [hfile] at hnone
      nomatch hnone
  · rcases h.get? p with hsame | ⟨-, -, hdir⟩ | ⟨-, hnot', -⟩
    · exact .inr (.inr ⟨hfiles, hsame ▸ hnot, hfile⟩)
    · exact absurd hdir hnot
    · exact .inr (.inr ⟨hfiles, hnot', hfile⟩)

/-- A tree that grows within some places grows within more of them. -/
theorem weaken (h : GrowsWithin dirs files t t') (hdirs : ∀ p, dirs p → dirs' p) (hfiles : ∀ p, files p → files' p) :
    GrowsWithin dirs' files' t t' := by
  refine ⟨h.current, fun p => ?_⟩
  rcases h.get? p with hsame | ⟨hp, hrest⟩ | ⟨hp, hrest⟩
  · exact .inl hsame
  · exact .inr (.inl ⟨hdirs p hp, hrest⟩)
  · exact .inr (.inr ⟨hfiles p hp, hrest⟩)

/-- Whatever lay somewhere, something lies there. -/
theorem isSome (h : GrowsWithin dirs files t t') (hp : (t.get? p).isSome) : (t'.get? p).isSome := by
  rcases h.get? p with hsame | ⟨-, -, hdir⟩ | ⟨-, -, text, hfile⟩
  · rw [hsame]
    exact hp
  · rw [hdir]
    rfl
  · rw [hfile]
    rfl

theorem base (h : GrowsWithin dirs files t t') (path : String) : t'.base path = t.base path := by
  rw [FileTree.base, FileTree.base, h.current]

end GrowsWithin

/-- What is put somewhere changes no other place. -/
theorem get?_insert_eq_or (t : FileTree) (hp : p ≠ []) (n : Node) (q : Place) :
    (t.insert p n).get? q = t.get? q ∨ q = p ∧ (t.insert p n).get? q = some n := by
  by_cases hq : q = p
  · subst hq
    exact .inr ⟨rfl, get?_insert_self hp n⟩
  · exact .inl (get?_insert_of_ne hq n)

/-- A directory is created at the place of its path, where nothing is. -/
theorem exists_of_withDirectory (h : t.withDirectory path = .ok t') :
    ∃ p, t.placeOf path = .ok p ∧ t.get? p = none ∧ t' = t.insert p .directory := by
  obtain ⟨⟨here, name⟩, hparent, h⟩ := exists_of_bind_eq_ok h
  dsimp only at h
  split at h
  · nomatch h
  · rename_i hfree
    obtain ⟨hdots, hget⟩ := not_or.mp hfree
    refine ⟨here ++ [name], placeOf_of_locateParent hparent (by simpa using hdots), ?_, (Except.ok.inj h).symm⟩
    simpa using hget

/-- Creating a directory grows a tree at the place that the path names. -/
theorem withDirectory_grows (h : t.withDirectory path = .ok t') : GrowsWithin (· = t.named path) files t t' := by
  obtain ⟨p, hplace, hnone, rfl⟩ := exists_of_withDirectory h
  have hp : p ≠ [] := by
    rintro rfl
    nomatch hnone
  refine ⟨rfl, fun q => ?_⟩
  rcases t.get?_insert_eq_or hp .directory q with hsame | ⟨rfl, hdir⟩
  · exact .inl hsame
  · exact .inr (.inl ⟨eq_named_of_placeOf hplace, hnone, hdir⟩)

/-- Writing a text grows a tree at the place that the path names. -/
theorem written_grows {text : String} (h : t.written path (.text text) = .ok t') : GrowsWithin dirs (· = t.named path) t t' := by
  obtain ⟨p, hplace, hp, hnot, -, rfl⟩ := exists_of_written h
  refine ⟨rfl, fun q => ?_⟩
  rcases t.get?_insert_eq_or hp (.file (.text text)) q with hsame | ⟨rfl, hfile⟩
  · exact .inl hsame
  · exact .inr (.inr ⟨eq_named_of_placeOf hplace, hnot, text, hfile⟩)

/-- The places on the way along a path, with the one that it names. -/
def OnWay (t : FileTree) (path : String) (p : Place) : Prop := ∃ names, names <+: Path.parts path ∧ p = follow (t.base path) names

theorem onWay_named (t : FileTree) (path : String) : t.OnWay path (t.named path) := ⟨_, List.prefix_refl _, rfl⟩

/-- The way along a front of a path is on the way along the path. -/
theorem OnWay.of_isFrontOf {front : String} (hfront : Path.IsFrontOf front path) (h : t.OnWay front p) : t.OnWay path p := by
  obtain ⟨names, hnames, rfl⟩ := h
  refine ⟨names, hnames.trans hfront.parts, ?_⟩
  rw [base, base, hfront.start]

theorem GrowsWithin.onWay (h : GrowsWithin dirs files t t') (path : String) : t'.OnWay path = t.OnWay path := by
  funext p
  rw [OnWay, OnWay, h.base]

theorem GrowsWithin.named (h : GrowsWithin dirs files t t') (path : String) : t'.named path = t.named path := by
  rw [FileTree.named, FileTree.named, h.base]

end FileTree

namespace FileAction

open FileTree (GrowsWithin)

variable {α β : Type} {dirs files : Place → Prop} {t : FileTree}

/-- A sequence grows the tree as its parts do. -/
theorem bind_grows {a : FileAction α} {f : α → FileAction β} (h : GrowsWithin dirs files t ((ExceptT.run a).run t).2)
    (hf : ∀ x t', GrowsWithin dirs files t t' → GrowsWithin dirs files t' ((ExceptT.run (f x)).run t').2) :
    GrowsWithin dirs files t ((ExceptT.run (a >>= f)).run t).2 := by
  change GrowsWithin dirs files t (ExceptT.bindCont (fun x => f x) ((ExceptT.run a).run t).1 ((ExceptT.run a).run t).2).2
  cases ((ExceptT.run a).run t).1 with
  | ok x => exact h.trans (hf x _ h)
  | error fault => exact h

/-- Creating a directory answers as the tree does, or finds that it is there. -/
theorem run_ensureDirectory (path : String) (t : FileTree) :
    (ExceptT.run (ensureDirectory path)).run t =
      match t.withDirectory path with
      | .ok t' => (.ok (), t')
      | .error fault => (if t.isDirectory path then .ok () else .error fault, t) := by
  change (match t.withDirectory path with
    | .ok t' => (set t' : FileAction Unit)
    | .error fault => (do if (← get).isDirectory path then return () else throw fault : FileAction Unit)) t = _
  cases t.withDirectory path with
  | ok t' => rfl
  | error fault =>
    change (if t.isDirectory path then (pure () : FileAction Unit) else throw fault) t = _
    dsimp only
    split <;> rfl

/-- Creating a directory unless it is there grows a tree on the way along the path. -/
theorem ensureDirectory_grows (path : String) (t : FileTree) :
    GrowsWithin (t.OnWay path) files t ((ExceptT.run (ensureDirectory path)).run t).2 := by
  rw [run_ensureDirectory]
  cases h : t.withDirectory path with
  | error fault => exact .refl t
  | ok t' => exact (FileTree.withDirectory_grows h).weaken (fun p hp => hp ▸ t.onWay_named path) fun _ hp => hp

/-- Creating several directories first creates those above that are missing. -/
theorem run_createDirectoriesFrom {path : String} (hpath : path ≠ "") (fuel : Nat) (t : FileTree) :
    (ExceptT.run (createDirectoriesFrom (fuel + 1) path)).run t =
      match t.withDirectory path with
      | .ok t' => (.ok (), t')
      | .error fault =>
        if fault.isNotFound then
          match Path.parent? path with
          | none => (.error (.reported "failed to create whole tree" []), t)
          | some parent => (ExceptT.run (createDirectoriesFrom fuel parent >>= fun _ => ensureDirectory path)).run t
        else (if t.isDirectory path then .ok () else .error fault, t) := by
  rw [createDirectoriesFrom, if_neg hpath]
  change (match t.withDirectory path with
    | .ok t' => (set t' : FileAction Unit)
    | .error fault => _) t = _
  cases t.withDirectory path with
  | ok t' => rfl
  | error fault =>
    dsimp only
    split
    · cases Path.parent? path <;> rfl
    · change (if t.isDirectory path then (pure () : FileAction Unit) else throw fault) t = _
      split <;> rfl

/-- Creating directories grows a tree on the way along the path, by induction over the fuel. -/
theorem createDirectoriesFrom_grows (fuel : Nat) (path : String) (t : FileTree) :
    GrowsWithin (t.OnWay path) files t ((ExceptT.run (createDirectoriesFrom fuel path)).run t).2 := by
  -- the recursion goes to the parent, which is on the way along the path, and comes back with the same current directory
  induction fuel generalizing path with
  | zero => exact ensureDirectory_grows path t
  | succ fuel ih =>
    by_cases hpath : path = ""
    · rw [createDirectoriesFrom, if_pos hpath]
      exact .refl t
    · rw [run_createDirectoriesFrom hpath]
      cases h : t.withDirectory path with
      | ok t' => exact (FileTree.withDirectory_grows h).weaken (fun p hp => hp ▸ t.onWay_named path) fun _ hp => hp
      | error fault =>
        dsimp only
        split
        · cases hparent : Path.parent? path with
          | none => exact .refl t
          | some parent =>
            refine bind_grows ((ih parent).weaken (fun p hp => ?_) fun _ hp => hp) fun _ t' ht' => ?_
            · exact hp.of_isFrontOf (Path.isFrontOf_parent? hparent)
            · rw [← ht'.onWay path]
              exact ensureDirectory_grows path t'
        · exact .refl t

/-- Creating directories grows a tree on the way along their path. -/
theorem createDirectories_grows (path : String) (t : FileTree) :
    GrowsWithin (t.OnWay path) files t ((ExceptT.run (createDirectories path)).run t).2 :=
  createDirectoriesFrom_grows _ path t

/-- Work on the files after which everything lies where it lay. -/
def Keeps (a : FileAction α) : Prop :=
  ∀ (t : FileTree) (p : Place) (n : Node), t.get? p = some n → ((ExceptT.run a).run t).2.get? p = some n

/-- After creating directories everything lies where it lay. -/
theorem createDirectories_keeps (path : String) : (createDirectories path).Keeps := by
  intro t p n hp
  have hgrows : GrowsWithin (t.OnWay path) (fun _ => False) t _ := createDirectories_grows path t
  rcases hgrows.get? p with hsame | ⟨-, hnone, -⟩ | ⟨hfalse, -⟩
  · rw [hsame]
    exact hp
  · rw [hnone] at hp
    nomatch hp
  · exact hfalse.elim

end FileAction

end SchemaScript
