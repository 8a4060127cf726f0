import ClientGen.Proofs.Number.Digits
import ClientGen.Proofs.Reference

/-!
Pointers to places in a document. A way down a document goes from key to key and from index to index (`Value.at?`);
its pointer spells the keys and indices one behind the other, with their escapes. The pointer of a way leads to where
the way leads, and the pointer of a component schema names this component, whatever the keys are
(`pointers_read_back`).
-/

namespace ClientGen

/-- Pieces without the separator are found again between the separators. -/
theorem Text.fields_intercalate {separator : Char} {pieces : List (List Char)} (some : pieces ≠ [])
    (free : ∀ piece ∈ pieces, separator ∉ piece) :
    Text.fields (· = separator) ([separator].intercalate pieces) = pieces := by
  have apart : ∀ piece ∈ pieces, ∀ c ∈ piece, decide (c = separator) = false := by
    intro piece member c inPiece
    refine decide_eq_false ?_
    rintro rfl
    exact free piece member inPiece
  induction pieces with
  | nil => exact absurd rfl some
  | cons piece rest ih =>
    have first := apart piece List.mem_cons_self
    cases rest with
    | nil => rw [List.intercalate_singleton, Text.fields_of_none first]
    | cons next rest =>
      have later := ih (List.cons_ne_nil next rest) (fun p member => free p (List.mem_cons_of_mem piece member))
        fun p member => apart p (List.mem_cons_of_mem piece member)
      rw [List.intercalate_cons_cons, List.append_assoc, List.singleton_append, Text.fields_append first (by simp),
        later]

namespace Reference

/-! ### Escapes -/

/-- Only a tilde begins an escape. -/
theorem unescape_cons {c : Char} (plain : c ≠ '~') (rest : List Char) : unescape (c :: rest) = c :: unescape rest := by
  rw [unescape]
  · rintro _ rfl
    exact absurd rfl plain
  · rintro _ rfl
    exact absurd rfl plain

/-- What was escaped is what is read. -/
theorem unescape_escape (cs : List Char) : unescape (escape cs) = cs := by
  induction cs with
  | nil => rfl
  | cons c rest ih =>
    by_cases tilde : c = '~'
    · rw [escape, if_pos tilde, unescape, ih, tilde]
    · by_cases slash : c = '/'
      · rw [escape, if_neg tilde, if_pos slash, unescape, ih, slash]
      · rw [escape, if_neg tilde, if_neg slash, unescape_cons tilde, ih]

/-- No separator is left among escaped characters. -/
theorem slash_not_mem_escape (cs : List Char) : '/' ∉ escape cs := by
  induction cs with
  | nil => exact List.not_mem_nil
  | cons c rest ih =>
    by_cases tilde : c = '~'
    · simp [escape, tilde, ih]
    · by_cases slash : c = '/'
      · simp [escape, slash, ih]
      · simpa [escape, tilde, slash, eq_comm (a := '/')] using ih

/-- Two characters in a row replaced by one wherever they stand, from left to right. -/
def replacePair (first second new : Char) : List Char → List Char
  | c :: d :: rest =>
    if c = first ∧ d = second then new :: replacePair first second new rest
    else c :: replacePair first second new (d :: rest)
  | rest => rest

section

variable {first second new : Char}

private theorem replacePair_pair (rest : List Char) :
    replacePair first second new (first :: second :: rest) = new :: replacePair first second new rest := by
  rw [replacePair, if_pos ⟨rfl, rfl⟩]

private theorem replacePair_first {c : Char} (different : c ≠ first) (rest : List Char) :
    replacePair first second new (c :: rest) = c :: replacePair first second new rest := by
  cases rest with
  | nil => rfl
  | cons d rest => rw [replacePair, if_neg fun same => different same.1]

private theorem replacePair_second {d : Char} (different : d ≠ second) (rest : List Char) :
    replacePair first second new (first :: d :: rest) = first :: replacePair first second new (d :: rest) := by
  rw [replacePair, if_neg fun same => different same.2]

private theorem head_replacePair (c : Char) (rest : List Char) :
    ∃ d more, replacePair first second new (c :: rest) = d :: more ∧ (d = c ∨ d = new) := by
  cases rest with
  | nil => exact ⟨c, [], rfl, .inl rfl⟩
  | cons d rest =>
    rw [replacePair]
    split
    · exact ⟨new, _, rfl, .inr rfl⟩
    · exact ⟨c, _, rfl, .inl rfl⟩

end

/-- Escapes can be resolved one kind after the other: first those of the slash, then those of the tilde. The other way
round `~01` would become a slash. -/
theorem unescape_eq_replacePair (cs : List Char) :
    unescape cs = replacePair '~' '0' '~' (replacePair '~' '1' '/' cs) := by
  fun_induction unescape cs with
  | case1 rest ih => rw [replacePair_pair, replacePair_first (by decide), ih]
  | case2 rest ih =>
    have kept : replacePair '~' '1' '/' ('0' :: rest) = '0' :: replacePair '~' '1' '/' rest :=
      replacePair_first (by decide) rest
    rw [replacePair_second (by decide), kept, replacePair_pair, ih]
  | case3 c rest noSlash noTilde ih =>
    by_cases tilde : c = '~'
    · subst tilde
      cases rest with
      | nil => rfl
      | cons d rest =>
        have notOne : d ≠ '1' := fun one => noSlash rest rfl (by rw [one])
        have notZero : d ≠ '0' := fun zero => noTilde rest rfl (by rw [zero])
        -- Resolving slashes leaves the next character or makes it a slash, so that no new escape arises.
        obtain ⟨e, more, resolved, isNext⟩ : ∃ e more,
            replacePair '~' '1' '/' (d :: rest) = e :: more ∧ (e = d ∨ e = '/') :=
          head_replacePair d rest
        have differs : e ≠ '0' := by
          rcases isNext with rfl | rfl
          · exact notZero
          · decide
        rw [replacePair_second notOne, ih, resolved, replacePair_second differs]
    · rw [replacePair_first tilde, replacePair_first tilde, ih]
  | case4 => rfl

example : unescape "~01".toList = "~1".toList := by decide

/-! ### Ways -/

/-- A step down a document: to the value under a key, or to an item of a list. -/
inductive Descent where
  | key (name : String)
  | item (index : Nat)

/-- The text that a pointer spells for a step; an index is in decimal. -/
def Descent.text : Descent → String
  | key name => name
  | item index => toString index

/-- The pointer of a way: its keys and indices, escaped, one behind the other. -/
def pointer (way : List Descent) : String :=
  "#/" ++ Text.join "/" (way.map fun descent => String.ofList (escape descent.text.toList))

end Reference

namespace Value

open Reference (Descent)

/-- What is one step below a value. -/
def child? : Value → Descent → Option Value
  | map entries, .key name => Entries.field? entries name
  | list items, .item index => items[index]?
  | _, _ => none

/-- The value that a way leads to. -/
def at? (v : Value) : List Descent → Option Value
  | [] => some v
  | descent :: rest => (v.child? descent).bind fun next => next.at? rest

end Value

namespace Reference

/-- The segments of a pointer are the texts of its steps. -/
theorem segments?_pointer {way : List Descent} (goes : way ≠ []) :
    segments? (pointer way) = some (way.map fun descent => descent.text.toList) := by
  have spelled : (pointer way).toList =
      '#' :: '/' :: ['/'].intercalate (way.map fun descent => escape descent.text.toList) := by
    rw [pointer, Text.join, String.toList_append, String.toList_intercalate, List.map_map]
    simp [Function.comp_def]
  have pieces : Text.fields (· = '/') (['/'].intercalate (way.map fun descent => escape descent.text.toList)) =
      way.map fun descent => escape descent.text.toList := by
    refine Text.fields_intercalate (by simpa using goes) fun piece member => ?_
    obtain ⟨descent, -, rfl⟩ := List.mem_map.mp member
    exact slash_not_mem_escape _
  rw [segments?, spelled]
  simp only [pieces, List.map_map, Function.comp_def, unescape_escape]

/-- A segment leads where the step leads that it spells. -/
theorem step_of_child {ref : String} {v next : Value} {descent : Descent} (leads : v.child? descent = some next)
    (writable : ∀ index : Nat, descent = .item index → (Atom.int index).isWritable = true) :
    (step ref descent.text.toList v : Except Fault Value) = .ok next := by
  unfold Value.child? at leads
  split at leads
  · rename_i entries name
    simp only [step, shape_except, Value.shape_map, except_bind_ok, Descent.text, String.ofList_toList, leads]
    rfl
  · rename_i items index
    have read : Number.limitedWhole? (toString index).toList = some (index : Int) :=
      Number.limitedWhole?_toString (writable index rfl)
    have item : itemAt? items (index : Int) = some next := by
      rw [itemAt?, if_pos (Int.natCast_nonneg index), Int.toNat_natCast, leads]
    simp only [step, shape_except, Value.shape_list, except_bind_ok, Descent.text, read, Option.bind_eq_bind,
      Option.bind_some, item]
    rfl
  · cases leads

/-- Walking along the texts of a way leads where the way leads. -/
theorem walk_of_way {ref : String} {v target : Value} {way : List Descent} (leads : v.at? way = some target)
    (writable : ∀ index : Nat, .item index ∈ way → (Atom.int index).isWritable = true) :
    (walk ref (way.map fun descent => descent.text.toList) v : Except Fault Value) = .ok target := by
  induction way generalizing v with
  | nil =>
    cases leads
    rfl
  | cons descent rest ih =>
    obtain ⟨next, first, later⟩ := Option.bind_eq_some_iff.mp leads
    have stepped : (step ref descent.text.toList v : Except Fault Value) = .ok next :=
      step_of_child first fun index same => writable index (same ▸ List.mem_cons_self)
    rw [List.map_cons, walk, stepped, except_bind_ok]
    exact ih later fun index member => writable index (List.mem_cons_of_mem descent member)

/-- The pointer of a way down a document leads to where the way leads, whatever the keys are that it passes. Indices
must have few enough digits to be written, which is so in every list that fits into memory. The pointer of a component
schema names the component. -/
theorem pointers_read_back :
    (∀ (document target : Value) (way : List Descent), document.at? way = some target → way ≠ [] →
      (∀ index : Nat, .item index ∈ way → (Atom.int index).isWritable = true) →
      (resolve (pointer way) document : Except Fault Value) = .ok target) ∧
    ∀ component : String,
      componentName? (schemaPlace ++ String.ofList (escape component.toList)) = some component := by
  constructor
  · intro document target way leads goes writable
    rw [resolve, segments?_pointer goes]
    exact walk_of_way leads writable
  · intro component
    refine componentName?_eq_some.mpr ⟨escape component.toList, by simp, ?_⟩
    rw [unescape_escape, String.ofList_toList]

/-- A document with keys that are empty or consist of escapes. -/
def oddlyKeyed : Value :=
  .ofFields [("", .list [.null, .ofFields [("~01", .ofFields [("a/b~1", .text "found")])]])]

theorem pointers_read_back_oddlyKeyed :
    pointer [.key "", .item 1, .key "~01", .key "a/b~1"] = "#//1/~001/a~1b~01" ∧
      (resolve "#//1/~001/a~1b~01" oddlyKeyed : Except Fault Value) = .ok (.text "found") ∧
      componentName? "#/components/schemas/~001" = some "~01" := by
  have spelled : pointer [.key "", .item 1, .key "~01", .key "a/b~1"] = "#//1/~001/a~1b~01" := by decide +kernel
  have writable : ∀ index : Nat, .item index ∈ [Descent.key "", .item 1, .key "~01", .key "a/b~1"] →
      (Atom.int index).isWritable = true := by
    intro index member
    obtain rfl : index = 1 := by simpa using member
    decide +kernel
  have resolved := pointers_read_back.1 oddlyKeyed (.text "found") _ rfl (by simp) writable
  exact ⟨spelled, spelled ▸ resolved, pointers_read_back.2 "~01"⟩

end Reference

end ClientGen
