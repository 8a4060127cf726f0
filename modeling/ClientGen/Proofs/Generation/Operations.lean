import ClientGen.Proofs.Generation.Module

/-!
The operations of a run and its module. The chosen operations keep the order of paths in the document and of
methods, and a run without plugins makes exactly one function of each of them (`one_function_per_operation`).
-/

namespace ClientGen.Generation

open Run

/-- The path and the method of an operation. -/
def Visit.place (visit : Visit) : String × String := (visit.path, visit.method)

/-- All places below some paths where a document can state an operation, by paths and then by methods. -/
def placesIn (paths : List (Atom × Value)) : List (String × String) :=
  paths.flatMap fun entry => methods.map fun method => ((Value.atom entry.1).displayed, method)

theorem mem_visitsUnder {settings : Settings} {path : Atom} {item : Value} {methods : List String} {visit : Visit} :
    visit ∈ visitsUnder settings path item methods ↔
      visit.path = (Value.atom path).displayed ∧ visit.item = item ∧ visit.method ∈ methods ∧
        item.field? visit.method = some visit.operation ∧ visit.operation.shape.isMap = true ∧
        Chosen settings visit.operation := by
  simp only [visitsUnder, List.mem_filterMap]
  constructor
  · rintro ⟨method, isMethod, made⟩
    split at made
    · rename_i operation stated
      split at made
      · rename_i both
        cases made
        exact ⟨rfl, rfl, isMethod, stated, both⟩
      · cases made
    · cases made
  · rintro ⟨isPath, isItem, isMethod, stated, both⟩
    refine ⟨visit.method, isMethod, ?_⟩
    rw [stated]
    simp only [if_pos both, ← isPath, ← isItem]

theorem mem_visitsIn {document : Value} {settings : Settings} {paths : List (Atom × Value)} {visit : Visit} :
    visit ∈ visitsIn document settings paths ↔
      ∃ path raw, (path, raw) ∈ paths ∧ (Reference.deref raw document : Except Fault Value) = .ok visit.item ∧
        visit.item.shape.isMap = true ∧ visit.path = (Value.atom path).displayed ∧ visit.method ∈ methods ∧
        visit.item.field? visit.method = some visit.operation ∧ visit.operation.shape.isMap = true ∧
        Chosen settings visit.operation := by
  simp only [visitsIn, List.mem_flatMap]
  constructor
  · rintro ⟨⟨path, raw⟩, listed, here⟩
    split at here
    · rename_i item followed
      split at here
      · rename_i isMap
        obtain ⟨isPath, rfl, rest⟩ := mem_visitsUnder.mp here
        exact ⟨path, raw, listed, followed, isMap, isPath, rest⟩
      · cases here
    · cases here
  · rintro ⟨path, raw, listed, followed, isMap, isPath, rest⟩
    refine ⟨(path, raw), listed, ?_⟩
    rw [followed]
    simp only [if_pos isMap]
    exact mem_visitsUnder.mpr ⟨isPath, rfl, rest⟩

theorem places_visitsUnder (settings : Settings) (path : Atom) (item : Value) (methods : List String) :
    ((visitsUnder settings path item methods).map Visit.place).Sublist
      (methods.map fun method => ((Value.atom path).displayed, method)) := by
  induction methods with
  | nil => exact .slnil
  | cons method rest ih =>
    by_cases visited : ∃ operation, item.field? method = some operation ∧ operation.shape.isMap = true ∧
        Chosen settings operation
    · obtain ⟨operation, stated, isMap, chosen⟩ := visited
      rw [visitsUnder_cons_of_chosen stated isMap chosen]
      exact ih.cons_cons _
    · rw [visitsUnder_cons_of_not_chosen fun operation stated isMap chosen =>
        visited ⟨operation, stated, isMap, chosen⟩]
      exact ih.cons _

/-- The chosen operations come in the order of the places where a document can state them. -/
theorem places_visitsIn (document : Value) (settings : Settings) (paths : List (Atom × Value)) :
    ((visitsIn document settings paths).map Visit.place).Sublist (placesIn paths) := by
  induction paths with
  | nil => exact .slnil
  | cons entry rest ih =>
    rw [visitsIn, List.flatMap_cons, List.map_append, placesIn, List.flatMap_cons]
    refine List.Sublist.append ?_ ih
    split
    · split
      · exact places_visitsUnder settings _ _ methods
      · exact List.nil_sublist _
    · exact List.nil_sublist _

theorem Converted.length_eq {document : Value} {taken : List String} {visits : List Visit} {functions : List Function}
    (converted : Converted document taken visits functions) : functions.length = visits.length := by
  induction converted with
  | nil => rfl
  | cons _ _ ih => rw [List.length_cons, List.length_cons, ih]

/-- A run without plugins converts the operations that the settings choose and no others, in the order of the paths
of the document and of the methods. It makes one function of each of them, and its module is the head, an assignment
for each component schema in the order of the document, those functions, and nothing else. The outcome names the
types and the functions of the module in their order. -/
theorem one_function_per_operation {document : Value} {world later : World} {outcome : Outcome}
    (done : on (plain document) { world with draft := {} } = (.ok outcome, later)) :
    let operations := visitsIn document world.settings (pathsOf document)
    (∀ visit, visit ∈ operations ↔
      ∃ path raw, (path, raw) ∈ pathsOf document ∧
        (Reference.deref raw document : Except Fault Value) = .ok visit.item ∧ visit.item.shape.isMap = true ∧
        visit.path = (Value.atom path).displayed ∧ visit.method ∈ methods ∧
        visit.item.field? visit.method = some visit.operation ∧ visit.operation.shape.isMap = true ∧
        Chosen world.settings visit.operation) ∧
    (operations.map Visit.place).Sublist (placesIn (pathsOf document)) ∧
    ∃ head types functions,
      (Head.build document (world.settings.get "base_url") : Except Fault (List Statement)) = .ok head ∧
      List.Forall₂ (IsComponentType document) (componentsOf document) types ∧
      Converted document [] operations functions ∧ functions.length = operations.length ∧
      later.draft.toList = head ++ types.map (fun type => .assign type.1 type.2) ++ functions.map .define ∧
      outcome.types = types.map (·.1) ∧ outcome.functions = functions.map (·.name) := by
  intro operations
  obtain ⟨head, types, functions, built, extended, areTypes, names, -, converted, named, -⟩ := plain_module done
  exact ⟨fun _ => mem_visitsIn, places_visitsIn document world.settings _, head, types, functions, built, areTypes,
    converted, converted.length_eq, extended.toList, names, named⟩

/-- Two paths whose operations are told apart by their tags and by deprecation. The methods of the first stand in
another order than that of methods; the second path is a reference to the first. -/
def taggedPets : Value :=
  .ofFields
    [("paths", .ofFields
      [("/pets", .ofFields
        [("post", .ofFields [("operationId", .text "addPet"), ("tags", .list [.text "pets", .text "edits"])]),
         ("get", .ofFields [("operationId", .text "listPets"), ("tags", .list [.text "pets"])]),
         ("put", .ofFields
           [("operationId", .text "oldPets"), ("tags", .list [.text "pets"]), ("deprecated", .bool true)]),
         ("delete", .ofFields [("operationId", .text "dropPets"), ("tags", .list [.text "pets", .text "admin"])]),
         ("patch", .ofFields [("operationId", .text "plain")])]),
       ("/animals", .ofFields [("$ref", .text "#/paths/~1pets")])]),
     ("components", .ofFields [("schemas", .ofFields [("Pet", .map [])])])]

/-- Settings that want the tag `pets` and exclude the tag `admin`. -/
def petSettings : Settings :=
  ⟨[("include_tags", .list [.text "pets"]), ("exclude_tags", .list [.text "admin"]),
    ("include_deprecated", .bool false)]⟩

theorem one_function_per_operation_tagged_pets : ∃ (outcome : Outcome) (later : World) (head : List Statement),
    on (plain taggedPets) { ({ settings := petSettings } : World) with draft := {} } = (.ok outcome, later) ∧
      (visitsIn taggedPets petSettings (pathsOf taggedPets)).map Visit.place =
        [("/pets", "get"), ("/pets", "post"), ("/animals", "get"), ("/animals", "post")] ∧
      outcome.types = ["Pet"] ∧ outcome.functions.length = 4 ∧ head.length = 7 ∧
      later.draft.toList.length = head.length + 5 := by
  obtain ⟨outcome, later, done⟩ : ∃ outcome later,
      on (plain taggedPets) { ({ settings := petSettings } : World) with draft := {} } = (.ok outcome, later) :=
    succeeds_of_isSome (by decide +kernel)
  obtain ⟨-, -, head, types, functions, built, areTypes, -, counted, whole, names, named⟩ :=
    one_function_per_operation done
  have places : (visitsIn taggedPets petSettings (pathsOf taggedPets)).map Visit.place =
      [("/pets", "get"), ("/pets", "post"), ("/animals", "get"), ("/animals", "post")] := by decide +kernel
  have four : functions.length = 4 := by
    rw [counted, ← List.length_map Visit.place]
    exact congrArg List.length places
  have typed : outcome.types = ["Pet"] := by
    rw [names, identifiers_of_parts areTypes]
    decide +kernel
  have one : types.length = 1 := by simpa [typed] using (congrArg List.length names).symm
  obtain ⟨defaults, servers, rfl⟩ := build_ok built
  refine ⟨outcome, later, headOf defaults servers, done, places, typed, by simpa [named] using four, rfl, ?_⟩
  simp [whole, one, four]

end ClientGen.Generation
