import SchemaScript.Proofs.FileTree.Write

/-!
# What removing a file changes

Removing takes away the file at the place of its path and nothing else (`get?_of_removed_iff`). Where nothing is found at a path, no
file is at its place (`get?_of_hasEntry`).
-/

namespace SchemaScript

namespace FileTree

open SchemaScript.Action (exists_of_bind_eq_ok)

variable {t t' : FileTree} {p q : Place} {path : String}

/-- Nothing lies at an erased place. -/
theorem get?_erase_self (hp : p ≠ []) : (t.erase p).get? p = none := by
  rw [get?, if_neg hp, erase, List.lookup_eq_none_iff]
  intro e he
  have hne : e.1 ≠ p := of_decide_eq_true (List.mem_filter.mp he).2
  exact bne_iff_ne.mpr hne.symm

/-- What lies elsewhere is not erased. -/
theorem get?_erase_of_ne (h : q ≠ p) : (t.erase p).get? q = t.get? q := by
  simp only [get?, erase]
  rw [lookup_filter_of_ne h]

/-- What is removed is the file at the place of the path. -/
theorem exists_of_removed (h : t.removed path = .ok t') :
    ∃ p c, t.placeOf path = .ok p ∧ p ≠ [] ∧ t.get? p = some (.file c) ∧ t' = t.erase p := by
  obtain ⟨⟨here, name⟩, hparent, h⟩ := exists_of_bind_eq_ok h
  dsimp only at h
  split at h
  · nomatch h
  rename_i hdots
  split at h
  · nomatch h
  · nomatch h
  · rename_i c hget
    split at h
    · nomatch h
    · exact ⟨here ++ [name], c, placeOf_of_locateParent hparent (by simpa using hdots), by simp, hget,
        (Except.ok.inj h).symm⟩

/-- A file lies where it lay exactly if the path of the removed one does not lead there. -/
theorem get?_of_removed_iff {c : Content} (h : t.removed path = .ok t') (hp : t.get? p = some (.file c)) :
    t'.get? p = some (.file c) ↔ t.placeOf path ≠ .ok p := by
  obtain ⟨q, _, hplace, hq, -, rfl⟩ := exists_of_removed h
  rw [hplace]
  by_cases hqp : q = p
  · subst hqp
    simp [get?_erase_self hq]
  · rw [get?_erase_of_ne (Ne.symm hqp)]
    exact iff_of_true hp fun heq => hqp (Except.ok.inj heq)

/-- What a path leads to is found out from its place. -/
theorem locate_of_placeOf (h : t.placeOf path = .ok p) :
    t.locate path =
      match t.get? p with
      | none => .error (.system SystemError.notFound)
      | some (.file c) => if wantsDirectory path then .error (.system SystemError.notDirectory) else .ok (p, .file c)
      | some .directory => .ok (p, .directory) := by
  obtain ⟨parts, hparts, hwalk⟩ := exists_of_bind_eq_ok h
  rw [locate, hparts]
  change (t.walk (t.base path) parts >>= _) = _
  rw [hwalk]
  rfl

/-- Where nothing is found at a path, nothing is at its place. -/
theorem get?_of_hasEntry (h : t.hasEntry path = .ok false) (hp : t.placeOf path = .ok p) : t.get? p = none := by
  rw [hasEntry, locate_of_placeOf hp] at h
  cases hget : t.get? p with
  | none => rfl
  | some n =>
    rw [hget] at h
    cases n with
    | directory => nomatch h
    | file c =>
      dsimp only at h
      split at h
      · nomatch h
      · rename_i heq
        split at heq
        · obtain rfl := FileFault.system.inj (Except.error.inj heq)
          rw [if_neg (by decide)] at h
          nomatch h
        · nomatch heq
      · nomatch h

end FileTree

end SchemaScript
