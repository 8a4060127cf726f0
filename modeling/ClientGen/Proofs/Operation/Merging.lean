import ClientGen.Proofs.Operation.Parameters

/-!
Which parameters win. The parameters that a path item and its operation list, inline or by reference, are merged one by
one. What has been merged at any time has every pair of a name and a place once, in the order in which the pairs came up
first, with the parameter that was listed last (`Merges`). So a parameter of the operation takes the place of one of the
path item with the same pair (`parameters_merged`).
-/

namespace ClientGen.Operation

/-- The parameter that an entry of a list stands for, under the name and the place that it shows. What is no mapping, or
has no name, stands for none. -/
def listedParameter? (document entry : Value) : Option (Merged Value) :=
  match (Reference.deref entry document : Except Fault Value) with
  | .ok node => (node.field? "name").map fun name => ⟨name.displayed, ((node.field? "in").getD .null).displayed, node⟩
  | .error _ => none

/-- The parameters that entries stand for, in the order of the entries. -/
def enteredBy (document : Value) (entries : List Value) : List (Merged Value) :=
  entries.filterMap (listedParameter? document)

/-- The last of some parameters with a pair. -/
def lastUnder (pair : String × String) (entered : List (Merged Value)) : Option (Merged Value) :=
  entered.reverse.find? fun p => p.pair = pair

/-- An entry that can be followed to where it stands. Where this is a parameter, its name and its place must not be
numbers of too many digits to be shown. -/
def IsReadable (document entry : Value) : Prop :=
  ∃ node, (Reference.deref entry document : Except Fault Value) = .ok node ∧
    ∀ name, node.field? "name" = some name →
      name.isWritable = true ∧ ((node.field? "in").getD .null).isWritable = true

/-- What is merged of some parameters: each pair once, in the order of first occurrence, with the last parameter that
has it. -/
structure Merges (entered merged : List (Merged Value)) : Prop where
  order : merged.map Merged.pair = (entered.map Merged.pair).eraseDups
  last : ∀ p ∈ merged, lastUnder p.pair entered = some p

/-- One more parameter: in the place of the one with its pair, or else behind the others. -/
def put (merged : List (Merged Value)) (p : Merged Value) : List (Merged Value) :=
  if p.pair ∈ merged.map Merged.pair then merged.map fun q => if q.pair = p.pair then p else q else merged ++ [p]

/-- The entries that a path item lists for all its operations. -/
def sharedParameters (item : Option Value) : Except Fault (List Value) := do
  match ← ifTrue item with
  | none => pure []
  | some item => listedParameters item

/-! ### One parameter -/

section

variable {entered merged : List (Merged Value)}

theorem lastUnder_snoc_same (p : Merged Value) : lastUnder p.pair (entered ++ [p]) = some p := by
  simp [lastUnder]

theorem lastUnder_snoc_other {pair : String × String} {p : Merged Value} (other : p.pair ≠ pair) :
    lastUnder pair (entered ++ [p]) = lastUnder pair entered := by
  simp [lastUnder, other]

theorem lastUnder_append (pair : String × String) (earlier later : List (Merged Value)) :
    lastUnder pair (earlier ++ later) = (lastUnder pair later).or (lastUnder pair earlier) := by
  rw [lastUnder, List.reverse_append, List.find?_append]
  rfl

private theorem eraseDups_snoc_of_mem {pairs : List (String × String)} {pair : String × String} (known : pair ∈ pairs) :
    (pairs ++ [pair]).eraseDups = pairs.eraseDups := by
  rw [List.eraseDups_append, List.cons_removeAll]
  simp [known]

private theorem eraseDups_snoc_of_not_mem {pairs : List (String × String)} {pair : String × String}
    (new : pair ∉ pairs) : (pairs ++ [pair]).eraseDups = pairs.eraseDups ++ [pair] := by
  rw [List.eraseDups_append, List.cons_removeAll]
  simp [new, List.eraseDups_cons]

theorem merges_nil : Merges [] [] := ⟨rfl, nofun⟩

/-- Putting a parameter to what is merged merges it. -/
theorem Merges.put (merges : Merges entered merged) (p : Merged Value) : Merges (entered ++ [p]) (put merged p) := by
  have known : p.pair ∈ merged.map Merged.pair ↔ p.pair ∈ entered.map Merged.pair := by
    rw [merges.order, List.mem_eraseDups]
  unfold Operation.put
  split
  · rename_i present
    have samePairs : ∀ q : Merged Value, (if q.pair = p.pair then p else q).pair = q.pair := by
      intro q
      split
      · rename_i same
        exact same.symm
      · rfl
    constructor
    · rw [List.map_map, List.map_append, List.map_singleton, eraseDups_snoc_of_mem (known.mp present), ← merges.order]
      exact List.map_congr_left fun q _ => samePairs q
    · intro later member
      obtain ⟨q, before, rfl⟩ := List.mem_map.mp member
      split
      · exact lastUnder_snoc_same p
      · rename_i other
        rw [lastUnder_snoc_other (Ne.symm other)]
        exact merges.last q before
  · rename_i absent
    constructor
    · rw [List.map_append, List.map_append, List.map_singleton, merges.order,
        eraseDups_snoc_of_not_mem fun entered => absent (known.mpr entered)]
    · intro later member
      rcases List.mem_append.mp member with before | new
      · have other : p.pair ≠ later.pair := by
          intro same
          exact absent (same ▸ List.mem_map_of_mem before)
        rw [lastUnder_snoc_other other]
        exact merges.last later before
      · rw [List.mem_singleton.mp new]
        exact lastUnder_snoc_same p

/-- Putting parameters one by one to what is merged merges them all. -/
theorem Merges.foldl (merges : Merges entered merged) (more : List (Merged Value)) :
    Merges (entered ++ more) (more.foldl Operation.put merged) := by
  induction more generalizing entered merged with
  | nil => simpa using merges
  | cons p more ih => simpa using ih (merges.put p)

end

/-! ### Lists of parameters -/

/-- Putting a parameter compares the names and the places, and keeps those of the one that is replaced. -/
theorem put_eq (merged : List (Merged Value)) (p : Merged Value) :
    put merged p =
      if merged.any fun q => q.name = p.name && q.location = p.location then
        merged.map fun q => if q.name = p.name && q.location = p.location then { q with node := p.node } else q
      else merged ++ [p] := by
  have same : ∀ q : Merged Value, (q.name = p.name && q.location = p.location) = true ↔ q.pair = p.pair := fun q => by
    rw [Bool.and_eq_true, decide_eq_true_eq, decide_eq_true_eq, Merged.pair, Merged.pair, Prod.mk.injEq]
  have replaced : ∀ q : Merged Value,
      (if q.name = p.name && q.location = p.location then { q with node := p.node } else q) =
        if q.pair = p.pair then p else q := by
    intro q
    simp only [same]
    split
    · rename_i equal
      obtain ⟨name, location⟩ := Prod.mk.inj equal
      rw [name, location]
    · rfl
  have present : (merged.any fun q => q.name = p.name && q.location = p.location) = true ↔
      p.pair ∈ merged.map Merged.pair := by
    simp only [List.any_eq_true, same, List.mem_map]
  simp only [put, replaced, present]

section

variable {document operation entry : Value} {item : Option Value} {entries : List Value}
  {merged : List (Merged Value)}

/-- An entry that can be read is put to what is merged, if it stands for a parameter. -/
theorem mergeInto_cons (readable : IsReadable document entry) :
    (mergeInto document (entry :: entries) merged : Except Fault (List (Merged Value))) =
      mergeInto document entries ((listedParameter? document entry).elim merged (put merged)) := by
  obtain ⟨node, resolved, writable⟩ := readable
  rw [mergeInto, resolved, except_bind_ok, listedParameter?, resolved]
  cases node with
  | map fields =>
    simp only [shape_except, Value.shape_map, except_bind_ok]
    cases stated : Entries.field? fields "name" with
    | none =>
      have nameless : (Value.map fields).field? "name" = none := stated
      simp only [nameless]
      rfl
    | some name =>
      have named : (Value.map fields).field? "name" = some name := stated
      obtain ⟨nameShown, placeShown⟩ := writable name named
      have place : (shownOf (Entries.field? fields "in") : Except Fault String) =
          .ok (((Value.map fields).field? "in").getD .null).displayed := by
        rw [← shown_of_isWritable placeShown]
        simp [shownOf]
        rfl
      simp only [named, whole_except, except_bind_ok, shown_of_isWritable nameShown, lift_except, place, Option.map_some,
        Option.elim_some, put_eq]
      split <;> rfl
  | _ => rfl

/-- Entries that can be read are put to what is merged one by one. -/
theorem mergeInto_entries (readable : ∀ entry ∈ entries, IsReadable document entry) :
    (mergeInto document entries merged : Except Fault (List (Merged Value))) =
      .ok ((enteredBy document entries).foldl put merged) := by
  induction entries generalizing merged with
  | nil => rfl
  | cons entry rest ih =>
    have readableRest : ∀ entry ∈ rest, IsReadable document entry := fun e member =>
      readable e (List.mem_cons_of_mem entry member)
    rw [mergeInto_cons (readable entry List.mem_cons_self), ih readableRest]
    cases listed : listedParameter? document entry with
    | none => rw [enteredBy, enteredBy, List.filterMap_cons_none listed]; rfl
    | some p => rw [enteredBy, enteredBy, List.filterMap_cons_some listed]; rfl

/-- Every pair of a name and a place that is listed for an operation has exactly one parameter: the last that the
operation lists under it, or else the last that the path item does. The pairs stand in the order in which they come up
first, those of the path item before those of the operation. -/
theorem parameters_merged {shared own : List Value} (hasShared : sharedParameters item = .ok shared)
    (hasOwn : (listedParameters operation : Except Fault (List Value)) = .ok own)
    (readable : ∀ entry ∈ shared ++ own, IsReadable document entry) :
    ∃ merged : List (Merged Value),
      (parameters document operation item : Except Fault (List Value)) = .ok (merged.map (·.node)) ∧
      (merged.map Merged.pair).Nodup ∧
      merged.map Merged.pair = ((enteredBy document (shared ++ own)).map Merged.pair).eraseDups ∧
      ∀ p ∈ merged,
        (lastUnder p.pair (enteredBy document own)).or (lastUnder p.pair (enteredBy document shared)) = some p := by
  have sharedRead : ∀ entry ∈ shared, IsReadable document entry := fun e member =>
    readable e (List.mem_append_left own member)
  have ownRead : ∀ entry ∈ own, IsReadable document entry := fun e member =>
    readable e (List.mem_append_right shared member)
  have first : (mergeInto document shared [] : Except Fault (List (Merged Value))) =
      .ok ((enteredBy document shared).foldl put []) := mergeInto_entries sharedRead
  have second : (mergeInto document own ((enteredBy document shared).foldl put []) :
      Except Fault (List (Merged Value))) =
        .ok ((enteredBy document own).foldl put ((enteredBy document shared).foldl put [])) := mergeInto_entries ownRead
  have merges : Merges (enteredBy document shared ++ enteredBy document own)
      ((enteredBy document own).foldl put ((enteredBy document shared).foldl put [])) :=
    (merges_nil.foldl (enteredBy document shared)).foldl (enteredBy document own)
  refine ⟨_, ?_, (mergeInto_ok second (mergeInto_ok first isMerged_nil)).distinct, ?_, fun p member => ?_⟩
  · obtain ⟨pathItem, isItem, listed⟩ := bind_eq_ok.mp hasShared
    rw [parameters, isItem, except_bind_ok]
    cases pathItem with
    | none =>
      cases listed
      simp only [except_pure, except_bind_ok, first, hasOwn, second]
    | some pathItem => simp only [listed, except_bind_ok, first, hasOwn, second, except_pure]
  · have both : enteredBy document (shared ++ own) = enteredBy document shared ++ enteredBy document own :=
      List.filterMap_append
    rw [both]
    exact merges.order
  · rw [← lastUnder_append]
    exact merges.last p member

end

/-- A parameter that says nothing but its name, its place and its type. -/
def plainParameter (name place type : String) : Value :=
  .ofFields [("name", .text name), ("in", .text place), ("schema", .ofFields [("type", .text type)])]

/-- A document with a parameter to refer to. -/
def limitDocument : Value :=
  .ofFields [("components", .ofFields [("parameters", .ofFields [("Limit", plainParameter "limit" "query" "string")])])]

/-- What a path item lists: a name in two places, a reference, and what is no parameter. -/
def sharedEntries : List Value :=
  [plainParameter "id" "path" "string", plainParameter "id" "query" "string", .text "id",
    .ofFields [("in", .text "query")], .ofFields [("$ref", .text "#/components/parameters/Limit")]]

/-- What an operation lists: one of the path item's pairs twice, and a new one. -/
def ownEntries : List Value :=
  [plainParameter "id" "query" "boolean", plainParameter "page" "query" "integer",
    plainParameter "id" "query" "integer"]

theorem parameters_merged_limit :
    (∀ entry ∈ sharedEntries ++ ownEntries, IsReadable limitDocument entry) ∧
    ∃ merged : List (Merged Value),
      (parameters limitDocument (.ofFields [("parameters", .list ownEntries)])
        (some (.ofFields [("parameters", .list sharedEntries)])) : Except Fault (List Value)) =
          .ok (merged.map (·.node)) ∧
      merged.map Merged.pair = [("id", "path"), ("id", "query"), ("limit", "query"), ("page", "query")] ∧
      merged.map (·.node) = [plainParameter "id" "path" "string", plainParameter "id" "query" "integer",
        plainParameter "limit" "query" "string", plainParameter "page" "query" "integer"] := by
  have readable : ∀ entry ∈ sharedEntries ++ ownEntries, IsReadable limitDocument entry := by
    have plain : ∀ {entry name place type}, (Reference.deref entry limitDocument : Except Fault Value) =
        .ok (plainParameter name place type) → IsReadable limitDocument entry :=
      fun resolved => ⟨_, resolved, fun _ stated => by cases stated; exact ⟨rfl, rfl⟩⟩
    simp only [sharedEntries, ownEntries, List.cons_append, List.nil_append, List.forall_mem_cons]
    exact ⟨plain rfl, plain rfl, ⟨_, rfl, nofun⟩, ⟨_, rfl, nofun⟩, plain rfl, plain rfl, plain rfl, plain rfl, nofun⟩
  obtain ⟨merged, listed, -, order, -⟩ := @parameters_merged limitDocument (.ofFields [("parameters", .list ownEntries)])
    (some (.ofFields [("parameters", .list sharedEntries)])) sharedEntries ownEntries rfl rfl readable
  refine ⟨readable, merged, listed, order.trans rfl, ?_⟩
  exact Except.ok.inj (listed.symm.trans rfl)

end ClientGen.Operation
