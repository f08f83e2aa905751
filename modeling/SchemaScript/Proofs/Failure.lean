import SchemaScript.Failure

/-!
# What is told of a failure

The errors behind a failure form a chain: each caused the one before it, and nothing caused the last (`Cause.Chain`). Every error has one
chain, because a cause is a part of what it caused (`Cause.exists_chain`, `Cause.Chain.unique`). A failure told in full goes down its
chain and tells each error once, numbered from 1, behind the error of a failed rollback (`Failure.detailed_lists_causes`). A file fault that
passes on an error begins with the text of that error and goes on with what caused it, so that the error is told once as well
(`Cause.Chain.texts_file`).
-/

namespace SchemaScript

namespace Cause

/-- The errors from a cause on, outermost first: each caused the one before it, and nothing caused the last. -/
inductive Chain : Option Cause → List Cause → Prop
  | ends : Chain none []
  | goesOn {cause : Cause} {behind : List Cause} : Chain cause.cause? behind → Chain (some cause) (cause :: behind)

/-- Going from cause to cause comes to an end. -/
theorem exists_chain (first : Option Cause) : ∃ chain, Chain first chain := by
  -- Telling the causes goes down the chain as well, and is known to end.
  fun_induction Failure.numberedCauses 1 first with
  | case1 => exact ⟨[], .ends⟩
  | case2 _ cause ih =>
    obtain ⟨behind, hbehind⟩ := ih
    exact ⟨cause :: behind, .goesOn hbehind⟩

namespace Chain

variable {first : Option Cause} {chain : List Cause}

/-- An error is caused by one error at most, so there is one chain. -/
theorem unique {other : List Cause} (h : Chain first chain) (h' : Chain first other) : other = chain := by
  induction h generalizing other with
  | ends =>
    cases h'
    rfl
  | goesOn _ ih =>
    cases h' with
    | goesOn hbehind => rw [ih hbehind]

/-- The chain behind an error has the texts that the error names. -/
theorem texts_behind (error : Reported) (h : Chain (error.cause?.map reported) chain) : chain.map message = error.causes := by
  obtain ⟨text, causes⟩ := error
  induction causes generalizing text chain with
  | nil =>
    cases h
    rfl
  | cons next causes ih =>
    cases h with
    | goesOn hbehind => rw [List.map_cons, ih next hbehind, message]

/-- The chain of a fault that passes on an error: the error and the errors behind it, each once. -/
theorem texts_file {text : String} {causes : List String} (h : Chain (some (.file (.reported text causes))) chain) :
    chain.map message = text :: causes := by
  cases h with
  | goesOn hbehind =>
    have hcauses := texts_behind ⟨text, causes⟩ hbehind
    rw [List.map_cons, hcauses]
    rfl

end Chain

end Cause

namespace Failure

/-- What is told of a failure behind its own text. -/
inductive Detail
  | rollback (error : String)
  | cause (number : Nat) (text : String)

/-- A detail as it is printed. -/
def Detail.text : Detail → String
  | rollback error => "\nRollback also failed: " ++ error
  | cause number text => "\nCaused by:\n  " ++ toString number ++ ": " ++ text

@[simp] theorem Detail.text_rollback (error : String) : (rollback error).text = "\nRollback also failed: " ++ error := rfl

@[simp] theorem Detail.text_cause (number : Nat) (text : String) :
    (cause number text).text = "\nCaused by:\n  " ++ toString number ++ ": " ++ text := rfl

/-- The details of some causes, numbered from `n`. -/
def causeDetails (n : Nat) (texts : List String) : List Detail := texts.mapIdx fun i text => .cause (n + i) text

/-- The first cause has the first number, and the others go on from the next one. -/
theorem causeDetails_cons (n : Nat) (text : String) (texts : List String) :
    causeDetails n (text :: texts) = .cause n text :: causeDetails (n + 1) texts := by
  rw [causeDetails, List.mapIdx_cons, causeDetails]
  simp only [Nat.add_zero, Nat.add_assoc, Nat.add_comm 1]

/-- Going from cause to cause tells each error of the chain once, with consecutive numbers. -/
theorem numberedCauses_eq {first : Option Cause} {chain : List Cause} (h : Cause.Chain first chain) (n : Nat) :
    numberedCauses n first = String.join ((causeDetails n (chain.map Cause.message)).map Detail.text) := by
  induction h generalizing n with
  | ends =>
    rw [numberedCauses]
    rfl
  | goesOn _ ih =>
    rw [numberedCauses, ih (n + 1), List.map_cons, causeDetails_cons, List.map_cons, String.join_cons, Detail.text_cause]

/-- A rollback that failed as well is told of exactly the statements whose rollback failed. -/
theorem rollbackError?_eq_some_iff (f : Failure) (error : String) :
    f.rollbackError? = some error ↔ ∃ index text cause, f = .statement index text cause (some error) := by
  cases f <;> simp [rollbackError?]

/-- A failure told in full: its text, then the error of the rollback if it is a statement whose rollback failed as well, then each error
of its chain of causes in order, numbered from 1. For a file fault that passes on an error these are the texts of that error and of every
error behind it, each once. -/
theorem detailed_lists_causes (f : Failure) :
    ∃ chain : List Cause, (∀ other, Cause.Chain f.cause? other ↔ other = chain) ∧
      f.detailed = "Error: " ++ f.message ++ "\n" ++ String.join
        ((f.rollbackError?.toList.map Detail.rollback ++ causeDetails 1 (chain.map Cause.message)).map Detail.text) ∧
      (∀ error, f.rollbackError? = some error ↔ ∃ index text cause, f = .statement index text cause (some error)) ∧
      ∀ text causes, f = .file (.reported text causes) → chain.map Cause.message = text :: causes := by
  obtain ⟨chain, hchain⟩ := Cause.exists_chain f.cause?
  refine ⟨chain, fun other => ⟨hchain.unique, ?_⟩, ?_, f.rollbackError?_eq_some_iff, ?_⟩
  · rintro rfl
    exact hchain
  · rw [detailed, numberedCauses_eq hchain, List.map_append, String.join_append, ← String.append_assoc]
    cases f.rollbackError? with
    | none => rw [Option.toList_none, List.map_nil, List.map_nil, String.join_nil]
    | some error =>
      rw [Option.toList_some, List.map_singleton, List.map_singleton, String.join_cons, String.join_nil, String.append_empty,
        Detail.text_rollback]
  · rintro text causes rfl
    exact hchain.texts_file

example : (Failure.file (.reported "no answer" ["timed out", "no route"])).detailed =
    "Error: IO error: no answer\n\nCaused by:\n  1: no answer\nCaused by:\n  2: timed out\nCaused by:\n  3: no route" := by
  decide +kernel

end Failure

end SchemaScript
