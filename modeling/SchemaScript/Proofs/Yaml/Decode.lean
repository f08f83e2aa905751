import SchemaScript.Proofs.Action
import SchemaScript.Yaml.Decode

/-!
# What a reader takes from a document

A reader that is `Placeless` takes from a node what it holds, and neither its place nor its anchors nor the document around it matter;
readers of texts and flags are, and so are records of placeless fields (`placeless_readRecord`). Of a mapping whose keys are
scalars a record of one field takes the values under the name of the field (`readPairs_single`). A shape that is `PartOf` another one
reads whatever the other one reads, and finds in it the part that it knows (`Shape.PartOf.readDocument_of_whole`).
-/

namespace SchemaScript.Yaml

open SchemaScript.Action (exists_of_bind_eq_ok)

variable {ν α δ ε : Type}

/-! ## Nodes that hold the same -/

mutual

/-- Whether two nodes hold the same, whatever their places and anchors: a scalar of one text, style and tag, or a collection of nodes
that hold the same. Aliases do not count. -/
def Node.alike : Node ν → Node ν → Bool
  | .scalar _ _ s, .scalar _ _ s' => s == s'
  | .sequence _ _ items, .sequence _ _ items' => alikeItems items items'
  | .mapping _ _ pairs, .mapping _ _ pairs' => alikePairs pairs pairs'
  | _, _ => false

/-- Whether two lists of nodes hold the same, one by one. -/
def alikeItems : List (Node ν) → List (Node ν) → Bool
  | [], [] => true
  | n :: ns, n' :: ns' => n.alike n' && alikeItems ns ns'
  | _, _ => false

/-- Whether two lists of pairs hold the same, one by one. -/
def alikePairs : List (Node ν × Node ν) → List (Node ν × Node ν) → Bool
  | [], [] => true
  | (k, v) :: ps, (k', v') :: ps' => k.alike k' && v.alike v' && alikePairs ps ps'
  | _, _ => false

end

/-- The forms of two nodes that hold the same. -/
theorem Node.alike_cases {n n' : Node ν} (h : n.alike n' = true) :
    (∃ m m' a a' s, n = .scalar m a s ∧ n' = .scalar m' a' s) ∨
    (∃ m m' a a' items items', n = .sequence m a items ∧ n' = .sequence m' a' items') ∨
    ∃ m m' a a' pairs pairs', n = .mapping m a pairs ∧ n' = .mapping m' a' pairs' ∧ alikePairs pairs pairs' = true := by
  match n, n', h with
  | .scalar m a s, .scalar m' a' s', h =>
    obtain rfl : s = s' := by simpa [alike] using h
    exact .inl ⟨m, m', a, a', s, rfl, rfl⟩
  | .sequence m a items, .sequence m' a' items', _ => exact .inr (.inl ⟨m, m', a, a', items, items', rfl, rfl⟩)
  | .mapping m a pairs, .mapping m' a' pairs', h =>
    exact .inr (.inr ⟨m, m', a, a', pairs, pairs', rfl, rfl, by simpa [alike] using h⟩)

/-- A fault without its place. -/
def Fault.unplaced : Fault → Fault
  | malformed problem _ => .malformed problem .start
  | unfit path mismatch _ => .unfit path mismatch .start

/-- A result whose fault, if it is one, is told without its place. -/
def unplaced (r : Except Fault α) : Except Fault α := r.mapError Fault.unplaced

/-- Results that are told alike without a place are the same value, or faults that differ in their place only. -/
theorem eq_ok_or_error_of_unplaced {r r' : Except Fault α} (h : unplaced r = unplaced r') :
    (∃ x, r = .ok x ∧ r' = .ok x) ∨ ∃ e e', r = .error e ∧ r' = .error e' ∧ e.unplaced = e'.unplaced := by
  match r, r', h with
  | .ok x, .ok _, h => exact .inl ⟨x, rfl, congrArg Except.ok (Except.ok.inj h).symm⟩
  | .error e, .error e', h => exact .inr ⟨e, e', rfl, rfl, Except.error.inj h⟩

/-- A reader whose result depends on what a node holds: neither on its place and its anchors nor on the document around it. -/
def Placeless (read : Decoder α) : Prop :=
  ∀ (d d' : Document) (path : String) {n n' : Node Nat}, n.alike n' = true →
    unplaced (read ⟨d, path, n⟩) = unplaced (read ⟨d', path, n'⟩)

/-- Faults of one path and one mismatch are the same but for their place. -/
theorem unplaced_unfit {i i' : Item} (h : i.path = i'.path) (m : Mismatch) :
    unplaced (i.unfit m : Except Fault α) = unplaced (i'.unfit m) := by
  rw [Item.unfit, Item.unfit, h]
  rfl

/-- Nodes that hold the same are as unexpected. -/
theorem placeless_unexpected (expected : String) : Placeless (α := α) fun i => i.unexpected expected := by
  intro d d' path n n' h
  rcases n.alike_cases h with ⟨m, m', a, a', s, rfl, rfl⟩ | ⟨m, m', a, a', items, items', rfl, rfl⟩ |
    ⟨m, m', a, a', pairs, pairs', rfl, rfl, -⟩
  · simp only [Item.unexpected]
    cases s.meaning <;> exact unplaced_unfit rfl _
  · exact unplaced_unfit rfl _
  · exact unplaced_unfit rfl _

/-- Texts are read wherever they stand. -/
theorem placeless_readText : Placeless readText := by
  intro d d' path n n' h
  rcases n.alike_cases h with ⟨_, _, _, _, s, rfl, rfl⟩ | ⟨_, _, _, _, _, _, rfl, rfl⟩ | ⟨_, _, _, _, _, _, rfl, rfl, -⟩
  · rfl
  all_goals exact placeless_unexpected "a string" d d' path h

theorem placeless_readFlag : Placeless readFlag := by
  intro d d' path n n' h
  have hunexpected := placeless_unexpected (α := Bool) "a boolean" d d' path h
  rcases n.alike_cases h with ⟨_, _, _, _, s, rfl, rfl⟩ | ⟨_, _, _, _, _, _, rfl, rfl⟩ | ⟨_, _, _, _, _, _, rfl, rfl, -⟩
  · unfold readFlag
    dsimp only [Item.followed, Document.follow]
    split
    · rfl
    · exact hunexpected
  all_goals exact hunexpected

theorem placeless_readKey : Placeless readKey := by
  intro d d' path n n' h
  rcases n.alike_cases h with ⟨_, _, _, _, s, rfl, rfl⟩ | ⟨_, _, _, _, _, _, rfl, rfl⟩ | ⟨_, _, _, _, _, _, rfl, rfl, -⟩
  · rfl
  all_goals exact placeless_unexpected "field identifier" d d' path h

/-- Two readings in a row are told without a place if each is. -/
theorem unplaced_bind {r r' : Except Fault α} {f f' : α → Except Fault δ} (h : unplaced r = unplaced r')
    (hf : ∀ x, unplaced (f x) = unplaced (f' x)) : unplaced (r >>= f) = unplaced (r' >>= f') := by
  rcases eq_ok_or_error_of_unplaced h with ⟨x, rfl, rfl⟩ | ⟨e, e', rfl, rfl, he⟩
  · exact hf x
  · exact congrArg Except.error he

/-- A field that reads an item reads a value from it and stores that. -/
theorem exists_of_read_of {read : Decoder α} {name : String} {required : Bool} {store : α → δ → δ} {i : Item} {put : δ → δ}
    (h : (Field.of name required read store).read i = .ok put) : ∃ value, read i = .ok value ∧ store value = put := by
  change (read i).map store = .ok put at h
  cases hr : read i with
  | error e =>
    rw [hr] at h
    nomatch h
  | ok value =>
    rw [hr] at h
    exact ⟨value, rfl, Except.ok.inj h⟩

/-- A field is placeless if the reader of its value is. -/
theorem placeless_of {read : Decoder α} (h : Placeless read) (name : String) (required : Bool) (store : α → δ → δ) :
    Placeless (Field.of name required read store).read := by
  intro d d' path n n' hn
  have hread := h d d' path hn
  change unplaced ((read _).map store) = unplaced ((read _).map store)
  rcases eq_ok_or_error_of_unplaced hread with ⟨x, hr, hr'⟩ | ⟨e, e', hr, hr', he⟩
  · rw [hr, hr']
  · rw [hr, hr']
    exact congrArg Except.error he

/-! ## Records -/

/-- A pair whose key has a name is passed over if no field has this name, and otherwise stored unless one of the name was. -/
theorem readPairs_cons {fields : List (Field δ)} {i : Item} {key : Node Nat} {name : String}
    (h : readKey { i with node := key } = .ok name) (value : Node Nat) (pairs : List (Node Nat × Node Nat)) (seen : List String)
    (draft : δ) :
    readPairs fields i ((key, value) :: pairs) seen draft =
      match fields.find? (·.name = name) with
      | none => readPairs fields i pairs seen draft
      | some f =>
        if seen.contains name then i.unfit (.duplicateField name)
        else f.read (i.below key value) >>= fun store => readPairs fields i pairs (name :: seen) (store draft) := by
  rw [readPairs, h]
  rfl

/-- Pairs that hold the same are stored alike in a record of placeless fields, wherever the record stands. -/
theorem readPairs_placeless {fields : List (Field δ)} (hfields : ∀ f ∈ fields, Placeless f.read) (i i' : Item)
    (hpath : i.path = i'.path) {pairs pairs' : List (Node Nat × Node Nat)} (h : alikePairs pairs pairs' = true)
    (seen : List String) (draft : δ) :
    unplaced (readPairs fields i pairs seen draft) = unplaced (readPairs fields i' pairs' seen draft) := by
  induction pairs generalizing pairs' seen draft with
  | nil =>
    obtain rfl : pairs' = [] := by
      cases pairs' with
      | nil => rfl
      | cons => nomatch h
    simp only [readPairs]
    split
    · exact unplaced_unfit hpath _
    · rfl
  | cons pair pairs ih =>
    obtain ⟨key, value⟩ := pair
    match pairs', h with
    | (key', value') :: pairs', h =>
      simp only [alikePairs, Bool.and_eq_true] at h
      obtain ⟨⟨hkey, hvalue⟩, hpairs⟩ := h
      have hbelow : (i.below key value).path = (i'.below key' value').path := by
        rcases key.alike_cases hkey with ⟨_, _, _, _, s, rfl, rfl⟩ | ⟨_, _, _, _, _, _, rfl, rfl⟩ |
            ⟨_, _, _, _, _, _, rfl, rfl, -⟩ <;>
          simp only [Item.below, hpath]
      simp only [readPairs]
      refine unplaced_bind (hpath ▸ placeless_readKey i.document i'.document i.path hkey) fun name => ?_
      split
      · exact ih hpairs seen draft
      · rename_i f hf
        split
        · exact unplaced_unfit hpath _
        · refine unplaced_bind ?_ fun store => ih hpairs (name :: seen) (store draft)
          have hitem : i.below key value = ⟨i.document, (i'.below key' value').path, value⟩ := by rw [← hbelow]; rfl
          rw [hitem]
          exact hfields f (List.mem_of_find?_eq_some hf) i.document i'.document (i'.below key' value').path hvalue

/-- A record of placeless fields is placeless. -/
theorem placeless_readRecord {shape : Shape δ} (h : ∀ f ∈ shape.fields, Placeless f.read) : Placeless (readRecord shape) := by
  intro d d' path n n' hn
  have hunexpected := placeless_unexpected (α := δ) ("struct " ++ shape.name) d d' path hn
  rcases n.alike_cases hn with ⟨_, _, _, _, s, rfl, rfl⟩ | ⟨_, _, _, _, _, _, rfl, rfl⟩ | ⟨_, _, _, _, _, _, rfl, rfl, hpairs⟩
  · unfold readRecord
    dsimp only [Item.followed, Document.follow]
    split
    · have hnone : alikePairs ([] : List (Node Nat × Node Nat)) [] = true := rfl
      exact readPairs_placeless h ⟨d, path, _⟩ ⟨d', path, _⟩ rfl hnone [] shape.empty
    · exact hunexpected
  · exact hunexpected
  · exact readPairs_placeless h ⟨d, path, _⟩ ⟨d', path, _⟩ rfl hpairs [] shape.empty

/-! ## A part of a shape -/

/-- What is unexpected is no result. -/
theorem Item.unexpected_ne_ok (i : Item) (expected : String) (x : α) : i.unexpected expected ≠ .ok x := by
  unfold unexpected
  split
  · split <;> exact nofun
  all_goals exact nofun

/-- A shape is a part of another one if the view of a draft of the whole is a draft of the part. The part needs no field to be there; a
field that it knows the whole knows as well, stores nothing that the part does not take, and stores the same in the view; every other
field of the whole leaves the view as it is. -/
structure Shape.PartOf (part : Shape δ) (whole : Shape ε) (view : ε → δ) : Prop where
  empty : view whole.empty = part.empty
  optional : ∀ f ∈ part.fields, f.required = false
  shared : ∀ {name : String} {f : Field δ}, part.fields.find? (·.name = name) = some f →
    ∃ g, whole.fields.find? (·.name = name) = some g ∧ ∀ {i : Item} {store : ε → ε}, g.read i = .ok store →
      ∃ store', f.read i = .ok store' ∧ ∀ draft, view (store draft) = store' (view draft)
  other : ∀ {name : String} {g : Field ε}, part.fields.find? (·.name = name) = none → whole.fields.find? (·.name = name) = some g →
    ∀ {i : Item} {store : ε → ε}, g.read i = .ok store → ∀ draft, view (store draft) = view draft

namespace Shape.PartOf

variable {part : Shape δ} {whole : Shape ε} {view : ε → δ}

/-- Pairs that the whole stores the part stores in the view, if it has seen no more than the whole. -/
theorem readPairs_of_whole (h : part.PartOf whole view) (i : Item) {pairs : List (Node Nat × Node Nat)} {seen seen' : List String}
    {draft d : ε} (hseen : seen' ⊆ seen) (hok : readPairs whole.fields i pairs seen draft = .ok d) :
    readPairs part.fields i pairs seen' (view draft) = .ok (view d) := by
  induction pairs generalizing seen seen' draft with
  | nil =>
    have hpart : part.fields.find? (fun f => f.required && !seen'.contains f.name) = none :=
      List.find?_eq_none.mpr fun f hf => by simp [h.optional f hf]
    simp only [readPairs] at hok
    split at hok
    · nomatch hok
    · obtain rfl := Except.ok.inj hok
      simp only [readPairs, hpart]
  | cons pair pairs ih =>
    obtain ⟨key, value⟩ := pair
    obtain ⟨name, hname, hrest⟩ := exists_of_bind_eq_ok hok
    rw [readPairs_cons hname]
    cases hf : part.fields.find? (·.name = name) with
    | none =>
      cases hg : whole.fields.find? (·.name = name) with
      | none =>
        simp only [hg] at hrest
        exact ih hseen hrest
      | some g =>
        simp only [hg] at hrest
        split at hrest
        · nomatch hrest
        · obtain ⟨store, hstore, hrest⟩ := exists_of_bind_eq_ok hrest
          have hok' := ih (List.subset_cons_of_subset name hseen) hrest
          rwa [h.other hf hg hstore] at hok'
    | some f =>
      obtain ⟨g, hg, hread⟩ := h.shared hf
      simp only [hg] at hrest
      split at hrest
      · nomatch hrest
      · rename_i hnew
        have hnew' : ¬seen'.contains name = true := fun hmem =>
          hnew (List.elem_eq_true_of_mem (hseen (List.mem_of_elem_eq_true hmem)))
        obtain ⟨store, hstore, hrest⟩ := exists_of_bind_eq_ok hrest
        obtain ⟨store', hstore', hview⟩ := hread hstore
        have hok' := ih (List.cons_subset_cons name hseen) hrest
        rw [hview] at hok'
        simp only [if_neg hnew', hstore']
        exact hok'

/-- What the whole reads the part reads too, and finds in it what it knows. -/
theorem readRecord_of_whole (h : part.PartOf whole view) {i : Item} {d : ε} (hok : readRecord whole i = .ok d) :
    readRecord part i = .ok (view d) := by
  have hnone : ([] : List String) ⊆ [] := List.Subset.refl []
  unfold readRecord at hok ⊢
  dsimp only at hok ⊢
  rw [← h.empty]
  split at hok
  · exact h.readPairs_of_whole _ hnone hok
  · split at hok
    · rename_i hempty
      rw [if_pos hempty]
      exact h.readPairs_of_whole _ hnone hok
    · exact absurd hok (i.followed.unexpected_ne_ok _ d)
  · exact absurd hok (i.followed.unexpected_ne_ok _ d)

/-- A document that is read as the whole is read as the part. -/
theorem readDocument_of_whole (h : part.PartOf whole view) {text : String} {d : ε}
    (hok : readDocument (readRecord whole) text = .ok d) : readDocument (readRecord part) text = .ok (view d) := by
  obtain ⟨document, htext, hread⟩ := exists_of_bind_eq_ok hok
  rw [readDocument, htext]
  exact h.readRecord_of_whole hread

end Shape.PartOf

/-! ## The entries of a mapping -/

/-- The text of a key that is a scalar. -/
def Node.keyText? : Node ν → Option String
  | .scalar _ _ s => some s.text
  | _ => none

/-- The entries of a mapping whose keys are scalars: the texts of the keys and the values. -/
def entries? : List (Node ν × Node ν) → Option (List (String × Node ν))
  | [] => some []
  | (key, value) :: pairs => key.keyText?.bind fun name => (entries? pairs).map ((name, value) :: ·)

/-- The values of the entries of a name, in order. -/
def valuesAt (name : String) (entries : List (String × Node ν)) : List (Node ν) :=
  (entries.filter (·.1 = name)).map (·.2)

/-- A pair of a key and a value whose key is a plain scalar. -/
def plainPair (name : String) (value : Node ν) : Node ν × Node ν := (.scalar .start none ⟨name, .plain, none⟩, value)

/-- A record of one field takes from a mapping whose keys are scalars the values under the name of the field, and nothing else. -/
theorem readPairs_single {f : Field δ} (i : Item) {pairs : List (Node Nat × Node Nat)} {entries : List (String × Node Nat)}
    (h : entries? pairs = some entries) (seen : List String) (draft : δ) :
    readPairs [f] i pairs seen draft = readPairs [f] i ((valuesAt f.name entries).map (plainPair f.name)) seen draft := by
  induction pairs generalizing entries seen draft with
  | nil =>
    obtain rfl := Option.some.inj h
    rfl
  | cons pair pairs ih =>
    obtain ⟨key, value⟩ := pair
    obtain ⟨name, hname, hrest⟩ := Option.bind_eq_some_iff.mp h
    obtain ⟨rest, hentries, rfl⟩ := Option.map_eq_some_iff.mp hrest
    obtain ⟨m, a, s, rfl, rfl⟩ : ∃ m a s, key = .scalar m a s ∧ s.text = name := by
      match key, hname with
      | .scalar m a s, hname => exact ⟨m, a, s, rfl, Option.some.inj hname⟩
    have hkey : ∀ m a style tag?, readKey { i with node := .scalar m a ⟨s.text, style, tag?⟩ } = .ok s.text := fun _ _ _ _ => rfl
    rw [readPairs_cons (hkey m a s.style s.tag?)]
    by_cases hf : f.name = s.text
    · have hvalues : valuesAt f.name ((s.text, value) :: rest) = value :: valuesAt f.name rest := by
        rw [valuesAt, List.filter_cons_of_pos (by simpa using hf.symm), List.map_cons, valuesAt]
      rw [hvalues, hf, List.map_cons, plainPair, readPairs_cons (hkey _ _ _ _), List.find?_cons_of_pos (by simpa using hf)]
      dsimp only
      split
      · rfl
      · exact bind_congr fun store => hf ▸ ih hentries _ _
    · have hvalues : valuesAt f.name ((s.text, value) :: rest) = valuesAt f.name rest := by
        rw [valuesAt, List.filter_cons_of_neg (by simpa using Ne.symm hf), valuesAt]
      rw [hvalues, List.find?_cons_of_neg (by simpa using hf)]
      exact ih hentries seen draft

end SchemaScript.Yaml
