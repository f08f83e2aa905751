import SchemaScript.CommandLine.Reading
import SchemaScript.Proofs.Action

/-!
# Which flags a command line gives

A word with two dashes in front names a flag, up to its equals sign (`longName?`). Words are read one after the other, up to the name of
a subcommand (`Interface.takes_read`); each of them adds the flag that it names and no other one (`Takes`), and a word that names no flag
of its interface is refused. So a flag without a letter has a value exactly if a word names it (`Takes.value?_eq_none_iff`), and a command
line that is understood gives a connection string exactly if a word of it names the flag or the environment gives one
(`Request.connectionString?_eq_none_iff`).
-/

namespace SchemaScript.CommandLine

open SchemaScript.Action (exists_of_bind_eq_ok)

/-- The name behind the two dashes in front of a word, up to its equals sign. -/
def longName? (word : String) : Option String :=
  match word.toList with
  | '-' :: '-' :: long => some (String.ofList (long.takeWhile (· ≠ '=')))
  | _ => none

/-- Whether one of some words names a flag. -/
def Names (name : String) (words : List String) : Prop := ∃ word ∈ words, longName? word = some name

/-- Whether a flag of a name was read, with its value or still without it. -/
def Reading.Mentions (r : Reading) (name : String) : Prop :=
  (∃ entry ∈ r.given, entry.1.name = name) ∨ ∃ entry, r.pending? = some entry ∧ entry.1.name = name

/-- Words take one reading to another: a flag without a letter was read behind them exactly if it was read before them or if one of them
names it, and they name flags of the interface alone. -/
structure Takes (i : Interface) (r : Reading) (words : List String) (r' : Reading) : Prop where
  mentions : ∀ name, name ≠ "" → (∀ f ∈ i.flags, f.name = name → f.letter? = none) →
    (r'.Mentions name ↔ r.Mentions name ∨ Names name words)
  known : ∀ name, name ≠ "" → Names name words → ∃ f ∈ i.flags, f.name = name

section

variable {i : Interface} {r r' r'' : Reading} {f : Flag} {name value word : String} {words : List String}

theorem names_cons : Names name (word :: words) ↔ longName? word = some name ∨ Names name words := by
  simp [Names]

theorem names_append {words' : List String} : Names name (words ++ words') ↔ Names name words ∨ Names name words' := by
  simp [Names, or_and_right, exists_or]

theorem not_names_nil : ¬Names name [] := by
  simp [Names]

/-- A word that does not start with two hyphens names no flag by its long name. -/
theorem longName?_eq_none (h : ∀ long, word.toList ≠ '-' :: '-' :: long) : longName? word = none := by
  rw [longName?]
  split
  · rename_i long hword
    exact absurd hword (h long)
  · rfl

theorem Takes.nil (i : Interface) (r : Reading) : Takes i r [] r where
  mentions _ _ _ := (or_iff_left not_names_nil).symm
  known _ _ h := absurd h not_names_nil

theorem Takes.cons (h : Takes i r [word] r') (h' : Takes i r' words r'') : Takes i r (word :: words) r'' where
  mentions name hne hletter := by
    rw [h'.mentions name hne hletter, h.mentions name hne hletter, names_cons, names_cons, or_iff_left not_names_nil, or_assoc]
  known name hne hnames := by
    rcases names_cons.mp hnames with hword | hwords
    · exact h.known name hne ⟨word, List.mem_cons_self, hword⟩
    · exact h'.known name hne hwords

/-- A word that names nothing, and behind which the same flags were read, takes one reading to the other. -/
theorem takes_unnamed (hword : ∀ name, name ≠ "" → longName? word ≠ some name)
    (h : ∀ name, (∀ f ∈ i.flags, f.name = name → f.letter? = none) → (r'.Mentions name ↔ r.Mentions name)) : Takes i r [word] r' where
  mentions name hne hletter := by
    rw [h name hletter, names_cons, or_iff_left not_names_nil, or_iff_left (hword name hne)]
  known name hne hnames := absurd hnames (by rw [names_cons, or_iff_left not_names_nil]; exact hword name hne)

namespace Interface

/-! ## One flag -/

/-- A value that can be given is added to what is given, and nothing else changes. -/
theorem give_eq_ok (h : i.give r f value = .ok r') : r' = { r with given := r.given ++ [(f, value)] } := by
  unfold give at h
  split at h
  · nomatch h
  · split at h
    · nomatch h
    · exact (Except.ok.inj h).symm

/-- Giving a value to a flag mentions that flag besides those mentioned before. -/
theorem mentions_give (h : i.give r f value = .ok r') : r'.Mentions name ↔ r.Mentions name ∨ f.name = name := by
  rw [give_eq_ok h, Reading.Mentions, Reading.Mentions, or_right_comm]
  simp [or_and_right, exists_or]

/-- Looking at the value of the pending flag changes nothing about the flags that were read, and no flag is pending behind it. -/
theorem mentions_settle (h : i.settle r = .ok r') : (∀ name, r'.Mentions name ↔ r.Mentions name) ∧ r'.pending? = none := by
  rw [settle] at h
  split at h
  · rename_i hpending
    obtain rfl := Except.ok.inj h
    exact ⟨fun _ => Iff.rfl, hpending⟩
  · nomatch h
  · rename_i g value hpending
    refine ⟨fun name => ?_, by rw [give_eq_ok h]⟩
    rw [mentions_give h, Reading.Mentions, Reading.Mentions, hpending]
    simp

/-- A flag that is taken was read behind it. -/
theorem mentions_take {attached? : Option String} (h : i.take r f attached? = .ok r') :
    r'.Mentions name ↔ r.Mentions name ∨ f.name = name := by
  unfold take at h
  split at h
  · obtain ⟨settled, hsettled, hgive⟩ := exists_of_bind_eq_ok h
    rw [mentions_give hgive, (mentions_settle hsettled).1 name]
  · obtain ⟨settled, hsettled, hpending⟩ := exists_of_bind_eq_ok h
    obtain ⟨hmentions, hnone⟩ := mentions_settle hsettled
    rw [← hmentions name, ← Except.ok.inj hpending, Reading.Mentions, Reading.Mentions, hnone]
    simp
  · nomatch h
  · obtain ⟨settled, hsettled, hgive⟩ := exists_of_bind_eq_ok h
    rw [mentions_give hgive, (mentions_settle hsettled).1 name]
  · obtain ⟨_, -, hhelp⟩ := exists_of_bind_eq_ok h
    nomatch hhelp
  · obtain ⟨_, -, hversion⟩ := exists_of_bind_eq_ok h
    nomatch hversion

/-- Letters behind one dash add no flag that has no letter. -/
theorem mentions_takeLetters {letters : List Char} (hletter : ∀ f ∈ i.flags, f.name = name → f.letter? = none)
    (h : i.takeLetters r letters = .ok r') : r'.Mentions name ↔ r.Mentions name := by
  induction letters generalizing r with
  | nil => rw [← Except.ok.inj h]
  | cons letter rest ih =>
    rw [takeLetters] at h
    split at h
    · nomatch h
    · rename_i f hf
      have hother : f.name ≠ name := by
        intro hname
        have hsome : f.letter? = some letter := by simpa using List.find?_some hf
        rw [hletter f (List.mem_of_find?_eq_some hf) hname] at hsome
        nomatch hsome
      split at h
      · rw [mentions_take h, or_iff_left hother]
      · obtain ⟨taken, htaken, hrest⟩ := exists_of_bind_eq_ok h
        rw [ih hrest, mentions_take htaken, or_iff_left hother]

/-! ## One word -/

/-- A word behind two dashes names the flag that it adds. -/
theorem takes_long {long : List Char} {rest : List String} (hword : word.toList = '-' :: '-' :: long)
    (h : i.takeLong r long rest = .ok r') : Takes i r [word] r' := by
  have hname : longName? word = some (String.ofList (long.takeWhile (· ≠ '='))) := by
    rw [longName?, hword]
    rfl
  rw [takeLong] at h
  split at h
  · nomatch h
  · rename_i f hf
    have hfname : f.name = String.ofList (long.takeWhile (· ≠ '=')) := by simpa using List.find?_some hf
    have hmentions : ∀ name, r'.Mentions name ↔ r.Mentions name ∨ f.name = name := by
      intro name
      split at h <;> exact mentions_take h
    constructor
    · intro name _ _
      rw [hmentions, names_cons, or_iff_left not_names_nil, hname, hfname, Option.some.injEq]
    · intro name _ hnames
      rw [names_cons, or_iff_left not_names_nil, hname, ← hfname, Option.some.injEq] at hnames
      exact ⟨f, List.mem_of_find?_eq_some hf, hnames⟩

/-- Letters behind one dash name no flag. -/
theorem takes_letters {letter : Char} {letters : List Char} (hword : word.toList = '-' :: letter :: letters) (hdash : letter ≠ '-')
    (h : i.takeLetters r (letter :: letters) = .ok r') : Takes i r [word] r' := by
  have hname : longName? word = none := by
    refine longName?_eq_none fun long hlong => ?_
    rw [hword] at hlong
    exact hdash (List.cons.inj (List.cons.inj hlong).2).1
  exact takes_unnamed (fun name _ => by rw [hname]; nofun) fun name hletter => mentions_takeLetters hletter h

/-- Two dashes alone have an empty name. -/
theorem takes_dashes (hword : word.toList = ['-', '-']) : Takes i r [word] { r with literal := true } := by
  have hname : longName? word = some "" := by
    rw [longName?, hword]
    rfl
  exact takes_unnamed (fun name hne heq => hne (Option.some.inj (heq.symm.trans hname))) fun _ _ => Iff.rfl

/-- A value belongs to the flag that waits for it. -/
theorem takes_value (hname : longName? word = none) (hpending : r.pending? = some (f, none)) :
    Takes i r [word] { r with pending? := some (f, some word) } := by
  refine takes_unnamed (fun name _ => by rw [hname]; nofun) fun name _ => ?_
  rw [Reading.Mentions, Reading.Mentions, hpending]
  simp

/-! ## All words -/

/-- The words that are left when the reading stops at a subcommand. -/
def wordsFrom (next? : Option (Subcommand × List String)) : List String :=
  next?.elim [] fun (c, rest) => c.name :: rest

/-- Words take one reading to another up to a subcommand of the interface, if there is one. -/
structure TakesUpTo (i : Interface) (r : Reading) (words : List String) (r' : Reading) (next? : Option (Subcommand × List String)) :
    Prop where
  front : ∃ front, words = front ++ wordsFrom next? ∧ Takes i r front r'
  command : ∀ next, next? = some next → next.1 ∈ i.commands

variable {next? : Option (Subcommand × List String)}

theorem TakesUpTo.nil (i : Interface) (r : Reading) : TakesUpTo i r [] r none where
  front := ⟨[], rfl, .nil i r⟩
  command := nofun

theorem TakesUpTo.cons (h : Takes i r [word] r') (h' : TakesUpTo i r' words r'' next?) : TakesUpTo i r (word :: words) r'' next? where
  front := by
    obtain ⟨front, rfl, htakes⟩ := h'.front
    exact ⟨word :: front, rfl, h.cons htakes⟩
  command := h'.command

/-- The name of a subcommand ends the words of its level. -/
theorem takesUpTo_command {c : Subcommand} (h : i.command? word = some c) : TakesUpTo i r (word :: words) r (some (c, words)) where
  front := by
    have hname : c.name = word := by simpa using List.find?_some h
    exact ⟨[], congrArg (· :: words) hname.symm, .nil i r⟩
  command next hnext := by
    rw [← Option.some.inj hnext]
    exact List.mem_of_find?_eq_some h

/-- Reading takes the words in front of the subcommand, one after the other. -/
theorem takes_read (h : i.read r words = .ok (r', next?)) : TakesUpTo i r words r' next? := by
  induction words generalizing r with
  | nil =>
    obtain ⟨rfl, rfl⟩ := Prod.mk.inj (Except.ok.inj h)
    exact .nil i r
  | cons word rest ih =>
    rw [read] at h
    split at h
    · nomatch h
    · split at h
      · -- the name of a subcommand
        rename_i c hc
        obtain ⟨rfl, rfl⟩ := Prod.mk.inj (Except.ok.inj h)
        split at hc
        · nomatch hc
        · exact takesUpTo_command hc
      · split at h
        · rename_i hdashes
          exact .cons (takes_dashes hdashes) (ih h)
        · rename_i hlong
          obtain ⟨taken, htaken, hread⟩ := exists_of_bind_eq_ok h
          exact .cons (takes_long hlong htaken) (ih hread)
        · rename_i hdash hletters
          obtain ⟨taken, htaken, hread⟩ := exists_of_bind_eq_ok h
          exact .cons (takes_letters hletters hdash htaken) (ih hread)
        · rename_i hlong _
          split at h
          · rename_i f hpending
            exact .cons (takes_value (longName?_eq_none hlong) hpending) (ih h)
          · nomatch h

end Interface

end

/-! ## Requests -/

/-- No word behind the name of a command names a flag that the command does not have. -/
theorem Command.not_names_of_read {c : Command} {job : Job} {name : String} {words : List String} (h : c.read words = .ok job)
    (hne : name ≠ "") (hname : ∀ f ∈ c.interface.flags, f.name ≠ name) : ¬Names name words := by
  obtain ⟨⟨r, next?⟩, hread, -⟩ := exists_of_bind_eq_ok h
  obtain ⟨⟨front, rfl, htakes⟩, hcommand⟩ := Interface.takes_read hread
  obtain rfl : next? = none := Option.eq_none_iff_forall_ne_some.mpr fun next hnext => List.not_mem_nil (hcommand next hnext)
  intro hnames
  rw [Interface.wordsFrom, Option.elim_none, List.append_nil] at hnames
  obtain ⟨f, hf, hfname⟩ := htakes.known name hne hnames
  exact hname f hf hfname

/-- A flag has no value exactly if nothing of its name is given. -/
theorem Given.value?_eq_none_iff {g : Given} {f : Flag} : g.value? f = none ↔ ¬∃ entry ∈ g, entry.1.name = f.name := by
  simp [value?]

/-- A flag without a letter has no value behind the words of an interface exactly if none of them names it. -/
theorem Takes.value?_eq_none_iff {i : Interface} {words : List String} {taken settled : Reading} {f : Flag}
    (h : Takes i .start words taken) (hsettled : i.settle taken = .ok settled) (hne : f.name ≠ "")
    (hletter : ∀ g ∈ i.flags, g.name = f.name → g.letter? = none) : settled.given.value? f = none ↔ ¬Names f.name words := by
  obtain ⟨hmentions, hpending⟩ := Interface.mentions_settle hsettled
  have hsame := hmentions f.name
  rw [h.mentions f.name hne hletter, Reading.Mentions, hpending] at hsame
  have hgiven : (∃ entry ∈ settled.given, entry.1.name = f.name) ↔ Names f.name words := by
    simpa [Reading.Mentions, Reading.start] using hsame
  rw [Given.value?_eq_none_iff, hgiven]

namespace Request

variable {environment? : Option String} {words : List String} {r : Request}

/-- A command line that is understood is flags of the tool, the name of a command, and words that give its job. -/
theorem exists_of_ofWords (h : ofWords environment? words = .ok r) :
    ∃ (front rest : List String) (c : Command) (job : Job) (taken settled : Reading), words = front ++ c.name :: rest ∧
      Takes (tool environment?) .start front taken ∧ (tool environment?).settle taken = .ok settled ∧ c.read rest = .ok job ∧
      r = job.request settled.given environment? := by
  obtain ⟨⟨taken, next?⟩, hread, h⟩ := exists_of_bind_eq_ok h
  obtain ⟨⟨front, hwords, htakes⟩, -⟩ := Interface.takes_read hread
  match next?, h, hwords with
  | some (.help, rest), h, _ => nomatch h
  | some (.run c, rest), h, hwords =>
    obtain ⟨job, hjob, h⟩ := exists_of_bind_eq_ok h
    obtain ⟨settled, hsettled, h⟩ := exists_of_bind_eq_ok h
    exact ⟨front, rest, c, job, taken, settled, hwords, htakes, hsettled, hjob, (Except.ok.inj h).symm⟩
  | none, h, _ =>
    obtain ⟨settled, -, h⟩ := exists_of_bind_eq_ok h
    dsimp only at h
    split at h <;> nomatch h

/-- A request has no connection string exactly if the environment gives none and no word of the command line names the flag. -/
theorem connectionString?_eq_none_iff (h : ofWords environment? words = .ok r) :
    r.connectionString? = none ↔ environment? = none ∧ ¬Names "connection-string" words := by
  obtain ⟨front, rest, c, job, taken, settled, rfl, htakes, hsettled, hjob, rfl⟩ := exists_of_ofWords h
  have hletter : ∀ f ∈ (tool environment?).flags, f.name = "connection-string" → f.letter? = none := by
    simp only [tool, List.forall_mem_cons, List.not_mem_nil, false_imp_iff, implies_true, and_true]
    refine ⟨?_, fun _ => rfl, ?_, ?_, ?_, ?_, ?_⟩ <;> decide
  have hvalue : settled.given.value? (.connectionString environment?) = none ↔ ¬Names "connection-string" front :=
    htakes.value?_eq_none_iff hsettled (by decide : "connection-string" ≠ "") hletter
  have hrest : ¬Names "connection-string" (c.name :: rest) := by
    rw [names_cons, not_or]
    exact ⟨by cases c <;> decide, c.not_names_of_read hjob (by decide) (by cases c <;> decide)⟩
  rw [Job.request, Option.or_eq_none_iff, hvalue, names_append, or_iff_left hrest, and_comm]

end Request

end SchemaScript.CommandLine
