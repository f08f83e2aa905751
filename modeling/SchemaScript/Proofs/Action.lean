import SchemaScript.Action

/-!
# Running actions

What an action does on a journal, operation by operation: an action that succeeds hands its journal to the next one
(`on_bind_ok`), one that fails ends the run (`on_bind_error`), and the outcome of an action never fails (`on_outcome`).
`Ensures` says how an action ends in terms of the state alone; what is ensured of a sequence follows from what is ensured of its
parts (`Ensures.bind`). `Preserves` is the case of a condition that holds before and behind it. `FailsWith` says what an action can
fail with, and `Shows` that work on a state does to a part of it what other work does to that part alone.
-/

namespace SchemaScript.Action

variable {σ α β : Type}

/-- What an action does on a journal: its result or failure and the journal behind it. -/
def on (a : Action σ α) (j : Journal σ) : Except Failure α × Journal σ := (ExceptT.run a).run j

/-- Starting an action is running it with nothing reported yet. -/
theorem start_eq_on (a : Action σ α) (s : σ) : start a s = on a ⟨s, []⟩ := rfl

@[simp] theorem on_pure (x : α) (j : Journal σ) : on (pure x) j = (.ok x, j) := rfl

@[simp] theorem on_throw (f : Failure) (j : Journal σ) : on (throw f : Action σ α) j = (.error f, j) := rfl

@[simp] theorem on_note (level : Level) (text : String) (j : Journal σ) :
    on (note level text) j = (.ok (), { j with log := j.log ++ [⟨level, text⟩] }) := rfl

@[simp] theorem on_outcome (a : Action σ α) (j : Journal σ) : on (outcome a) j = (.ok (on a j).1, (on a j).2) := rfl

/-- Work that only reports leaves the state as it is. -/
theorem on_reporting (a : Action Unit α) (j : Journal σ) :
    on (reporting a) j = ((on a ⟨(), j.log⟩).1, ⟨j.state, (on a ⟨(), j.log⟩).2.log⟩) := rfl

/-- A sequence goes on from where its first action ends, unless that fails. -/
theorem on_bind (a : Action σ α) (f : α → Action σ β) (j : Journal σ) :
    on (a >>= f) j =
      match on a j with
      | (.ok x, k) => on (f x) k
      | (.error e, k) => (.error e, k) := by
  change (match on a j with | (r, k) => (ExceptT.bindCont (fun x => f x) r).run k) = _
  rcases on a j with ⟨_ | _, _⟩ <;> rfl

/-- A sequence whose first action succeeds goes on with the second one. -/
theorem on_bind_ok {a : Action σ α} {f : α → Action σ β} {j k : Journal σ} {x : α} (h : on a j = (.ok x, k)) :
    on (a >>= f) j = on (f x) k := by
  rw [on_bind, h]

/-- A sequence whose first action fails ends there. -/
theorem on_bind_error {a : Action σ α} {f : α → Action σ β} {j k : Journal σ} {e : Failure} (h : on a j = (.error e, k)) :
    on (a >>= f) j = (.error e, k) := by
  rw [on_bind, h]

/-- A sequence that succeeds succeeds in both of its parts. -/
theorem exists_of_on_bind {a : Action σ α} {f : α → Action σ β} {j l : Journal σ} {y : β} (h : on (a >>= f) j = (.ok y, l)) :
    ∃ x k, on a j = (.ok x, k) ∧ on (f x) k = (.ok y, l) := by
  rw [on_bind] at h
  rcases hr : on a j with ⟨_ | x, k⟩
  · rw [hr] at h
    nomatch h
  · rw [hr] at h
    exact ⟨x, k, rfl, h⟩

/-- A sequence that fails fails in one of its parts. -/
theorem on_bind_eq_error {a : Action σ α} {f : α → Action σ β} {j l : Journal σ} {e : Failure}
    (h : on (a >>= f) j = (.error e, l)) :
    on a j = (.error e, l) ∨ ∃ x k, on a j = (.ok x, k) ∧ on (f x) k = (.error e, l) := by
  rw [on_bind] at h
  rcases hr : on a j with ⟨e' | x, k⟩
  · rw [hr] at h
    obtain ⟨he, rfl⟩ := Prod.mk.inj h
    obtain rfl := Except.error.inj he
    exact .inl rfl
  · rw [hr] at h
    exact .inr ⟨x, k, rfl, h⟩

/-- A result that comes of two steps comes of a result of each. -/
theorem exists_of_bind_eq_ok {ε α β : Type} {x : Except ε α} {f : α → Except ε β} {b : β} (h : (x >>= f) = .ok b) :
    ∃ a, x = .ok a ∧ f a = .ok b := by
  cases x with
  | error e => nomatch h
  | ok a => exact ⟨a, rfl, h⟩

/-- Two steps that fail fail in one of them. -/
theorem bind_eq_error {ε α β : Type} {x : Except ε α} {f : α → Except ε β} {e : ε} (h : (x >>= f) = .error e) :
    x = .error e ∨ ∃ a, x = .ok a ∧ f a = .error e := by
  cases x with
  | error e' => exact .inl (congrArg Except.error (Except.error.inj h))
  | ok a => exact .inr ⟨a, rfl, h⟩

/-- A failure in other words comes of a failure. -/
theorem exists_of_mapError {ε ε' α : Type} {r : Except ε α} {f : ε → ε'} {e : ε'} (h : r.mapError f = .error e) :
    ∃ fault, r = .error fault ∧ f fault = e := by
  cases r with
  | error fault => exact ⟨fault, rfl, Except.error.inj h⟩
  | ok x => nomatch h

/-- A result in other words for its failures comes of the same result. -/
theorem eq_ok_of_mapError {ε ε' α : Type} {r : Except ε α} {f : ε → ε'} {x : α} (h : r.mapError f = .ok x) : r = .ok x := by
  cases r with
  | error fault => nomatch h
  | ok y => exact congrArg Except.ok (Except.ok.inj h)

/-- A result is told by its value. -/
theorem eq_ok_of_toOption {ε : Type} {r : Except ε α} {x : α} (h : r.toOption = some x) : r = .ok x := by
  cases r with
  | error e => nomatch h
  | ok y => exact congrArg Except.ok (Option.some.inj h)

/-- A run is told by how it ends and what it leaves. -/
theorem eq_mk_of_fst {ρ : Type} {run : ρ × σ} {r : ρ} (h : run.1 = r) : run = (r, run.2) := Prod.ext h rfl

/-- The reason of a refused configuration. -/
def refusal? : Except Failure α → Option String
  | .error (.config reason) => some reason
  | _ => none

/-- A refused configuration is told by its reason. -/
theorem eq_error_of_refusal? {r : Except Failure α} {reason : String} (h : refusal? r = some reason) :
    r = .error (.config reason) := by
  match r, h with
  | .error (.config _), h => exact congrArg (Except.error ∘ Failure.config) (Option.some.inj h)

/-! ## What an action can fail with -/

/-- Whenever the action fails, it fails with a failure of a kind. -/
def FailsWith (P : Failure → Prop) (a : Action σ α) : Prop := ∀ j e, (on a j).1 = .error e → P e

namespace FailsWith

variable {P : Failure → Prop} {a : Action σ α} {f : α → Action σ β}

theorem pure (x : α) : FailsWith (σ := σ) P (Pure.pure x) := fun _ _ h => nomatch h

/-- Throwing a failure of the kind fails with one of the kind. -/
theorem throw {e : Failure} (h : P e) : FailsWith (σ := σ) (α := α) P (MonadExcept.throw e) :=
  fun _ _ he => Except.error.inj he ▸ h

theorem note (level : Level) (text : String) : FailsWith (σ := σ) P (Action.note level text) := fun _ _ h => nomatch h

/-- Taking the outcome of an action never fails. -/
theorem outcome (a : Action σ α) : FailsWith P (Action.outcome a) := fun _ _ h => nomatch h

/-- A result as an action fails as the result says. -/
theorem ofExcept {r : Except Failure α} (h : ∀ e, r = .error e → P e) : FailsWith (σ := σ) P (Action.ofExcept r) :=
  fun _ e he => h e he

/-- A sequence fails with failures of a kind if both of its parts do. -/
theorem bind (h : FailsWith P a) (hf : ∀ x, FailsWith P (f x)) : FailsWith P (a >>= f) := by
  intro j e he
  rcases on_bind_eq_error (Prod.ext (y := (_, _)) he rfl) with ha | ⟨x, k, -, hx⟩
  · exact h j e (congrArg Prod.fst ha)
  · exact hf x k e (congrArg Prod.fst hx)

/-- What follows the outcome of an action decides what the whole fails with. -/
theorem outcome_bind {Q : Failure → Prop} {g : Except Failure α → Action σ β} (h : FailsWith Q a)
    (hok : ∀ x, FailsWith P (g (.ok x))) (herror : ∀ e, Q e → FailsWith P (g (.error e))) : FailsWith P (Action.outcome a >>= g) := by
  intro j e he
  rw [on_bind_ok (on_outcome a j)] at he
  cases hr : (on a j).1 with
  | ok x => exact hok x _ e (hr ▸ he)
  | error f => exact herror f (h j f hr) _ e (hr ▸ he)

end FailsWith

/-! ## What an action does to a part of the state -/

/-- Work that does to the part of the state that `view` shows, and to the log, what other work does to a state of that part alone. -/
def Shows {τ : Type} (view : σ → τ) (a : Action σ α) (b : Action τ α) : Prop :=
  ∀ j : Journal σ, on b ⟨view j.state, j.log⟩ = ((on a j).1, ⟨view (on a j).2.state, (on a j).2.log⟩)

namespace Shows

variable {τ : Type} {view : σ → τ}

theorem pure (x : α) : Shows view (Pure.pure x) (Pure.pure x) := fun _ => rfl

theorem throw (f : Failure) : Shows (α := α) view (MonadExcept.throw f) (MonadExcept.throw f) := fun _ => rfl

theorem note (level : Level) (text : String) : Shows view (Action.note level text) (Action.note level text) := fun _ => rfl

theorem ofExcept (r : Except Failure α) : Shows view (Action.ofExcept r) (Action.ofExcept r) := fun _ => rfl

/-- The outcomes of work that is shown are shown. -/
theorem outcome {a : Action σ α} {b : Action τ α} (h : Shows view a b) : Shows view (Action.outcome a) (Action.outcome b) := by
  intro j
  simp [h j]

/-- Sequences whose parts are shown are shown. -/
theorem bind {a : Action σ α} {b : Action τ α} {f : α → Action σ β} {g : α → Action τ β} (h : Shows view a b)
    (hf : ∀ x, Shows view (f x) (g x)) : Shows view (a >>= f) (b >>= g) := by
  intro j
  have hj := h j
  rcases ha : on a j with ⟨r, k⟩
  rw [ha] at hj
  cases r with
  | error e => rw [on_bind_error ha, on_bind_error hj]
  | ok x =>
    rw [on_bind_ok ha, on_bind_ok hj]
    exact hf x k

end Shows

/-! ## What an action ensures -/

/-- From a state with `P` the action ends as `Q` says of its result or failure and of the state behind it, whatever was reported
before. -/
def Ensures (P : σ → Prop) (a : Action σ α) (Q : Except Failure α → σ → Prop) : Prop :=
  ∀ j : Journal σ, P j.state → Q (on a j).1 (on a j).2.state

namespace Ensures

variable {P : σ → Prop} {a : Action σ α} {f : α → Action σ β} {Q : Except Failure α → σ → Prop}
  {S : Except Failure β → σ → Prop}

theorem pure {x : α} (h : ∀ s, P s → Q (.ok x) s) : Ensures P (Pure.pure x) Q := fun j hj => h j.state hj

theorem throw {e : Failure} (h : ∀ s, P s → Q (.error e) s) : Ensures P (MonadExcept.throw e) Q := fun j hj => h j.state hj

/-- What is ensured may be said more weakly. -/
theorem imp {Q' : Except Failure α → σ → Prop} (h : Ensures P a Q) (hQ : ∀ r s, Q r s → Q' r s) : Ensures P a Q' :=
  fun j hj => hQ _ _ (h j hj)

/-- What is known of a state besides `P` can be used on the way. -/
theorem assuming {p : Prop} (h : p → Ensures P a Q) : Ensures (fun s => P s ∧ p) a Q := fun j hj => h hj.2 j hj.1

/-- A sequence ensures what its second part ensures from where the first part ended, and whatever the first part leaves behind
when it fails. -/
theorem bind (h : Ensures P a Q) (hf : ∀ x, Ensures (Q (.ok x)) (f x) S) (he : ∀ e s, Q (.error e) s → S (.error e) s) :
    Ensures P (a >>= f) S := by
  intro j hj
  have ha := h j hj
  rcases hr : on a j with ⟨r, k⟩
  rw [hr] at ha
  cases r with
  | ok x =>
    rw [on_bind_ok hr]
    exact hf x k ha
  | error e =>
    rw [on_bind_error hr]
    exact he e k.state ha

/-- What follows the outcome of an action goes on from where the action ended, whether it failed or not. -/
theorem outcome_bind {g : Except Failure α → Action σ β} (h : Ensures P a Q) (hok : ∀ x, Ensures (Q (.ok x)) (g (.ok x)) S)
    (herror : ∀ e, Ensures (Q (.error e)) (g (.error e)) S) : Ensures P (outcome a >>= g) S := by
  intro j hj
  have ha := h j hj
  rw [on_bind_ok (on_outcome a j)]
  cases hr : (on a j).1 with
  | ok x => exact hok x _ (hr ▸ ha)
  | error e => exact herror e _ (hr ▸ ha)

/-- A report changes no state. -/
theorem note_bind {level : Level} {text : String} {g : Unit → Action σ β} (h : Ensures P (g ()) S) :
    Ensures P (note level text >>= g) S := by
  intro j hj
  rw [on_bind_ok (on_note level text j)]
  exact h _ hj

end Ensures

/-! ## What an action preserves -/

/-- From a state with `P` the action ends in a state with `P`, whether it fails or not. -/
def Preserves (P : σ → Prop) (a : Action σ α) : Prop := Ensures P a fun _ s => P s

namespace Preserves

variable {P : σ → Prop} {a : Action σ α} {f : α → Action σ β}

theorem pure (x : α) : Preserves P (Pure.pure x) := fun _ hj => hj

theorem throw (e : Failure) : Preserves (α := α) P (MonadExcept.throw e) := fun _ hj => hj

theorem note (level : Level) (text : String) : Preserves P (Action.note level text) := fun _ hj => hj

/-- Taking the outcome of an action preserves what the action preserves. -/
theorem outcome (h : Preserves P a) : Preserves P (Action.outcome a) := fun j hj => h j hj

/-- A sequence preserves what both of its parts preserve. -/
theorem bind (h : Preserves P a) (hf : ∀ x, Preserves P (f x)) : Preserves P (a >>= f) :=
  Ensures.bind h hf fun _ _ hs => hs

end Preserves

end SchemaScript.Action
