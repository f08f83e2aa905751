/-!
# The first entry that does not hold

What is asked of settings and what is required of a schema are lists of entries that hold or do not. `FirstUnmet` is the first entry
that does not hold: there is one of it at most (`FirstUnmet.unique`). A search `Finds` the first entry if it comes back with nothing
exactly when all entries hold, and otherwise with something that tells of the first one that does not. Searches through the parts of a
list make up a search through the whole (`Finds.append`, `Finds.flatMap`).
-/

namespace SchemaScript

/-- The first one of some entries that does not hold. -/
def FirstUnmet {α : Type} (holds : α → Prop) (xs : List α) (x : α) : Prop :=
  ∃ before behind, xs = before ++ x :: behind ∧ (∀ y ∈ before, holds y) ∧ ¬holds x

namespace FirstUnmet

variable {α : Type} {holds : α → Prop} {xs ys : List α} {x x' : α}

/-- The first entry of a list is the first one that does not hold if it does not. -/
theorem head (hx : ¬holds x) (xs : List α) : FirstUnmet holds (x :: xs) x := ⟨[], xs, rfl, nofun, hx⟩

/-- What stands behind the first entry that does not hold does not matter. -/
theorem append_right (h : FirstUnmet holds xs x) (ys : List α) : FirstUnmet holds (xs ++ ys) x := by
  obtain ⟨before, behind, rfl, hbefore, hx⟩ := h
  exact ⟨before, behind ++ ys, by rw [List.append_assoc, List.cons_append], hbefore, hx⟩

/-- Entries that hold may stand before the first one that does not. -/
theorem append_left (hxs : ∀ y ∈ xs, holds y) (h : FirstUnmet holds ys x) : FirstUnmet holds (xs ++ ys) x := by
  obtain ⟨before, behind, rfl, hbefore, hx⟩ := h
  exact ⟨xs ++ before, behind, (List.append_assoc ..).symm, List.forall_mem_append.mpr ⟨hxs, hbefore⟩, hx⟩

/-- If there is a first entry that does not hold, not all of them hold. -/
theorem not_forall (h : FirstUnmet holds xs x) : ¬∀ y ∈ xs, holds y := by
  obtain ⟨before, behind, rfl, -, hx⟩ := h
  exact fun hall => hx (hall x (List.mem_append_right before List.mem_cons_self))

/-- The first entry that does not hold is the one that a search by the predicate comes back with. -/
theorem find?_eq_some [DecidablePred holds] (h : FirstUnmet holds xs x) : xs.find? (fun y => decide ¬holds y) = some x := by
  obtain ⟨before, behind, rfl, hbefore, hx⟩ := h
  refine List.find?_eq_some_iff_append.mpr ⟨decide_eq_true hx, before, behind, rfl, fun y hy => ?_⟩
  rw [Bool.not_eq_true', decide_eq_false_iff_not, Decidable.not_not]
  exact hbefore y hy

/-- At most one entry is the first one that does not hold. -/
theorem unique (h : FirstUnmet holds xs x) (h' : FirstUnmet holds xs x') : x = x' := by
  classical
  exact Option.some.inj (h.find?_eq_some.symm.trans h'.find?_eq_some)

end FirstUnmet

/-- What a search through some entries comes back with: nothing, and all of them hold, or something that tells of the first one that
does not. -/
def Finds {α δ : Type} (holds : α → Prop) (tells : δ → α → Prop) (xs : List α) : Option δ → Prop
  | none => ∀ x ∈ xs, holds x
  | some d => ∃ x, FirstUnmet holds xs x ∧ tells d x

namespace Finds

variable {α δ : Type} {holds : α → Prop} {tells : δ → α → Prop} {xs ys : List α} {x : α} {d? e? : Option δ}

/-- A search comes back with nothing exactly if all entries hold. -/
theorem eq_none_iff (h : Finds holds tells xs d?) : d? = none ↔ ∀ x ∈ xs, holds x := by
  cases d? with
  | none => exact iff_of_true rfl h
  | some d =>
    obtain ⟨x, hx, -⟩ := h
    exact iff_of_false nofun hx.not_forall

/-- One entry is told of unless it holds. -/
theorem ite {p : Prop} [Decidable p] {d : δ} (hp : p ↔ ¬holds x) (hd : tells d x) :
    Finds holds tells [x] (if p then some d else none) := by
  split
  · rename_i h
    exact ⟨x, .head (hp.mp h) [], hd⟩
  · rename_i h
    exact List.forall_mem_singleton.mpr (Classical.not_not.mp (mt hp.mpr h))

/-- A search through two parts comes back with what is found in the first part, or else with what is found in the second one, where all
entries of the first are known to hold. -/
theorem append (h : Finds holds tells xs d?) (h' : (∀ x ∈ xs, holds x) → Finds holds tells ys e?) :
    Finds holds tells (xs ++ ys) (d?.or e?) := by
  cases d? with
  | some d =>
    obtain ⟨x, hx, hd⟩ := h
    exact ⟨x, hx.append_right ys, hd⟩
  | none =>
    cases e? with
    | none => exact List.forall_mem_append.mpr ⟨h, h' h⟩
    | some e =>
      obtain ⟨x, hx, he⟩ := h' h
      exact ⟨x, .append_left h hx, he⟩

/-- A search through several places comes back with what is found at the first one, or else with what is found behind it. -/
theorem findSome?_cons {β : Type} {find : β → Option δ} {b : β} {bs : List β} (h : Finds holds tells xs (find b))
    (h' : (∀ x ∈ xs, holds x) → Finds holds tells ys (bs.findSome? find)) :
    Finds holds tells (xs ++ ys) ((b :: bs).findSome? find) := by
  have hor : (b :: bs).findSome? find = (find b).or (bs.findSome? find) := by
    rw [List.findSome?_cons]
    cases find b <;> rfl
  rw [hor]
  exact h.append h'

/-- A search through entries whose findings are listed comes back with the first finding. -/
theorem cons {ds : List (Option δ)} (h : Finds holds tells [x] d?) (h' : Finds holds tells xs (ds.findSome? id)) :
    Finds holds tells (x :: xs) ((d? :: ds).findSome? id) :=
  findSome?_cons h fun _ => h'

/-- A search through the entries of several objects comes back with what is found in the first object where anything is. -/
theorem flatMap {β : Type} {entries : β → List α} {find : β → Option δ} (h : ∀ b, Finds holds tells (entries b) (find b))
    (bs : List β) : Finds holds tells (bs.flatMap entries) (bs.findSome? find) := by
  induction bs with
  | nil => exact List.forall_mem_nil _
  | cons b bs ih =>
    rw [List.flatMap_cons]
    exact findSome?_cons (h b) fun _ => ih

end Finds

end SchemaScript
