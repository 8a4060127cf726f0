import ClientGen.Proofs.Plugin.Trace
import ClientGen.Proofs.Schema.Form
import ClientGen.Proofs.Store.Reading

/-!
How the rules read a schema of a store. Where a mapping stands in the store, every rule that looks at it yields what
it yields of the tree, with nodes for the parts, and leaves the world as it is.
-/

namespace ClientGen

namespace Live

variable {α β : Type} {crew : Crew} {world : World}

theorem on_pure (a : α) : ((pure a : Live α) crew).on world = (.ok a, world) := rfl

theorem on_shape (node : Node) : ((shape node : Live (Shape Node)) crew).on world = (.ok (world.store.shape node), world) :=
  rfl

theorem on_whole (node : Node) : ((whole node : Live Value) crew).on world = (.ok (world.store.read node), world) := rfl

theorem on_lift (result : Except Fault α) : ((lift result : Live α) crew).on world = (result, world) := by
  cases result <;> rfl

/-- What follows a step that only reads. -/
theorem on_bind_ok {step : Live α} {next : α → Live β} {a : α} {later : World}
    (done : (step crew).on world = (.ok a, later)) :
    ((step >>= next) crew).on world = (next a crew).on later := by
  rw [on_bind, done]

theorem on_bind_error {step : Live α} {next : α → Live β} {fault : Fault} {later : World}
    (failed : (step crew).on world = (.error fault, later)) :
    ((step >>= next) crew).on world = (.error fault, later) := by
  rw [on_bind, failed]

/-- A step that succeeds has succeeded in its first part and in what follows. -/
theorem of_bind_ok {step : Live α} {next : α → Live β} {b : β} {final : World}
    (done : ((step >>= next) crew).on world = (.ok b, final)) :
    ∃ a later, (step crew).on world = (.ok a, later) ∧ (next a crew).on later = (.ok b, final) :=
  Run.on_bind_ok.mp done

end Live

namespace Shape

variable {α β : Type} (h : α → β) (s : Shape α)

@[simp] theorem isText_mapParts (text : String) : (s.mapParts h).isText text = s.isText text := by
  cases s with
  | atom a => cases a <;> rfl
  | _ => rfl

@[simp] theorem isNull_mapParts : (s.mapParts h).isNull = s.isNull := by
  cases s with
  | atom a => cases a <;> rfl
  | _ => rfl

@[simp] theorem isMap_mapParts : (s.mapParts h).isMap = s.isMap := by cases s <;> rfl

@[simp] theorem field?_mapParts (key : String) : (s.mapParts h).field? key = (s.field? key).map h := by
  cases s with
  | map entries => exact Entries.field?_mapValues h entries key
  | _ => rfl

@[simp] theorem truthy_mapParts : (s.mapParts h).truthy = s.truthy := by
  cases s <;> simp [mapParts, truthy, Entries.mapValues]

end Shape

namespace Placed

/-- The items under a key, if a list stands there. -/
def itemsAt (entries : List (Atom × Placed)) (key : String) : Option (List Placed) :=
  match Entries.field? entries key with
  | some (list _ items) => some items
  | _ => none

/-- The entries under a key, if a mapping with an entry stands there. -/
def innerAt (entries : List (Atom × Placed)) (key : String) : Option (List (Atom × Placed)) :=
  match Entries.field? entries key with
  | some (map _ inner) => if inner.isEmpty then none else some inner
  | _ => none

variable (entries : List (Atom × Placed)) (key : String)

theorem field?_treesUnder : Entries.field? (treesUnder entries) key = (Entries.field? entries key).map tree := by
  rw [treesUnder_eq, Entries.field?_mapValues]

theorem listAt_treesUnder : SchemaType.listAt (treesUnder entries) key = (itemsAt entries key).map trees := by
  rw [SchemaType.listAt, itemsAt, field?_treesUnder]
  cases Entries.field? entries key with
  | none => rfl
  | some p => cases p <;> rfl

theorem entriesAt_treesUnder : SchemaType.entriesAt (treesUnder entries) key = (innerAt entries key).map treesUnder := by
  rw [SchemaType.entriesAt, innerAt, field?_treesUnder]
  cases Entries.field? entries key with
  | none => rfl
  | some p =>
    cases p with
    | map id inner => cases inner <;> rfl
    | _ => rfl

theorem shape_tree (p : Placed) : p.tree.shape = p.layer.mapParts tree := by
  cases p with
  | list id items => rw [tree, trees_eq]; rfl
  | tuple id items => rw [tree, trees_eq]; rfl
  | map id inner => rw [tree, treesUnder_eq]; rfl
  | _ => rfl

theorem field?_tree (p : Placed) : p.tree.field? key = (p.layer.field? key).map tree := by
  rw [Value.field?, shape_tree, Shape.field?_mapParts]

end Placed

namespace SchemaType

open Placed

variable {crew : Crew} {world : World}

theorem on_shapes {ps : List Placed} (each : ∀ p ∈ ps, world.store.Holds [p]) :
    ((shapes (ps.map node) : Live (List (Node × Shape Node))) crew).on world =
      (.ok (ps.map fun p => (p.node, p.layer.mapParts node)), world) := by
  induction ps with
  | nil => rfl
  | cons p rest ih =>
    have first : world.store.shape p.node = _ := Store.shape_of_holds (each p List.mem_cons_self)
    have others := ih fun q member => each q (List.mem_cons_of_mem _ member)
    rw [List.map_cons, shapes, Live.on_bind_ok (Live.on_shape _), Live.on_bind_ok others, first]
    rfl

theorem on_wholes {ps : List Placed} (each : ∀ p ∈ ps, world.store.Holds [p]) :
    ((wholes (ps.map node) : Live (List Value)) crew).on world = (.ok (trees ps), world) := by
  induction ps with
  | nil => rfl
  | cons p rest ih =>
    have others := ih fun q member => each q (List.mem_cons_of_mem _ member)
    rw [List.map_cons, wholes, Live.on_bind_ok (Live.on_whole _), Live.on_bind_ok others,
      Store.read_of_holds (each p List.mem_cons_self)]
    rfl

variable {id : Nat} {entries : List (Atom × Placed)} (holds : world.store.Holds [.map id entries])

include holds

theorem on_entriesOf :
    ((entriesOf (.cell id) : Live (List (Atom × Node))) crew).on world = (.ok (Entries.mapValues node entries), world) := by
  have isMap : world.store.shape (.cell id) = _ := Store.shape_of_holds holds
  rw [entriesOf, Live.on_bind_ok (Live.on_shape _), isMap]
  rfl

/-- The shape of what stands under a key. -/
theorem on_shape_field {key : String} {p : Placed} (found : Entries.field? entries key = some p) :
    ((shape p.node : Live (Shape Node)) crew).on world = (.ok (p.layer.mapParts node), world) := by
  rw [Live.on_shape, Store.shape_of_holds (holds.field found)]

theorem on_whole_field {key : String} {p : Placed} (found : Entries.field? entries key = some p) :
    ((whole p.node : Live Value) crew).on world = (.ok p.tree, world) := by
  rw [Live.on_whole, Store.read_of_holds (holds.field found)]

theorem on_listOf (key : String) :
    ((listOf (.cell id) key : Live (Option (List Node))) crew).on world =
      (.ok ((itemsAt entries key).map (List.map node)), world) := by
  rw [listOf, Live.on_bind_ok (on_entriesOf holds), Entries.field?_mapValues, itemsAt]
  cases found : Entries.field? entries key with
  | none => rfl
  | some p =>
    dsimp only [Option.map_some]
    rw [Live.on_bind_ok (on_shape_field holds found)]
    cases p <;> rfl

theorem on_reference? :
    ((reference? (.cell id) : Live (Option Node)) crew).on world =
      (.ok ((Entries.field? entries "$ref").map node), world) := by
  have isMap : world.store.shape (.cell id) = _ := Store.shape_of_holds holds
  rw [reference?, Live.on_bind_ok (Live.on_shape _), isMap, ← Entries.field?_mapValues]
  rfl

theorem holds_item {key : String} {items : List Placed} (isList : itemsAt entries key = some items) :
    ∀ p ∈ items, world.store.Holds [p] := by
  unfold itemsAt at isList
  split at isList
  · rename_i found
    cases isList
    exact fun p member => Store.holds_of_mem (Store.holds_list.mp (holds.field found)).2 member
  · cases isList

/-- The enumerated values other than null. -/
def listedPlaced (entries : List (Atom × Placed)) : List Placed :=
  ((itemsAt entries "enum").getD []).filter (!·.layer.isNull)

omit holds in
theorem listedValues_treesUnder : listedValues (treesUnder entries) = trees (listedPlaced entries) := by
  rw [listedValues, listedPlaced, listAt_treesUnder]
  cases itemsAt entries "enum" with
  | none => rfl
  | some items =>
    simp only [Option.map_some, Option.getD_some, trees_eq, List.filter_map]
    congr 1
    refine List.filter_congr fun p _ => ?_
    simp [shape_tree]

theorem holds_listed : ∀ p ∈ listedPlaced entries, world.store.Holds [p] := by
  intro p member
  rw [listedPlaced, List.mem_filter] at member
  cases isList : itemsAt entries "enum" with
  | none =>
    rw [isList] at member
    cases member.1
  | some items =>
    rw [isList] at member
    exact holds_item holds isList p member.1

theorem on_enumerated :
    ((enumerated (.cell id) : Live (List Node)) crew).on world = (.ok ((listedPlaced entries).map node), world) := by
  rw [enumerated, Live.on_bind_ok (on_listOf holds "enum"), listedPlaced]
  cases isList : itemsAt entries "enum" with
  | none => rfl
  | some items =>
    dsimp only [Option.map_some, Option.getD_some]
    rw [Live.on_bind_ok (on_shapes (holds_item holds isList)), Live.on_pure]
    simp [List.filter_map, Function.comp_def]

theorem on_enumeratesNull :
    ((enumeratesNull (Node.cell id) : Live Bool) crew).on world = (.ok (listsNull (treesUnder entries)), world) := by
  rw [enumeratesNull, Live.on_bind_ok (on_listOf holds "enum"), listsNull, listAt_treesUnder]
  cases isList : itemsAt entries "enum" with
  | none => rfl
  | some items =>
    dsimp only [Option.map_some, Option.getD_some]
    rw [Live.on_bind_ok (on_shapes (holds_item holds isList)), Live.on_pure]
    simp [List.any_map, Function.comp_def, trees_eq, shape_tree]

theorem on_isTrue_field (key : String) :
    ((isTrue (Entries.field? (Entries.mapValues node entries) key) : Live Bool) crew).on world =
      (.ok (((Entries.field? (treesUnder entries) key).map Value.truthy).getD false), world) := by
  rw [Entries.field?_mapValues, field?_treesUnder, isTrue]
  cases found : Entries.field? entries key with
  | none => rfl
  | some p =>
    dsimp only [Option.map_some, shapeOrNull]
    rw [Live.on_bind_ok (on_shape_field holds found), Live.on_pure]
    simp [Value.truthy, shape_tree]

/-- What is said about types, with a function applied to the types. -/
def Typing.map {α β : Type} (h : α → β) : Typing α → Typing β
  | nullOnly => .nullOnly
  | types nullable listed => .types nullable (listed.map h)

/-- What a schema says about its types. -/
def typingIn (entries : List (Atom × Placed)) : Typing Placed :=
  match Entries.field? entries "type" with
  | some (.list _ items) =>
    .types (isNullable (treesUnder entries) || items.any (·.layer.isText "null"))
      (items.filter (!·.layer.isText "null"))
  | some (.atom (.text "null")) => .nullOnly
  | some (.atom (.text s)) => .types (isNullable (treesUnder entries)) [.atom (.text s)]
  | _ => .types (isNullable (treesUnder entries)) []

omit holds in
theorem typesOf_treesUnder : typesOf (treesUnder entries) = (typingIn entries).map tree := by
  rw [typesOf, typingIn, field?_treesUnder]
  cases Entries.field? entries "type" with
  | none => rfl
  | some p =>
    cases p with
    | atom a =>
      cases a with
      | text type =>
        by_cases null : type = "null"
        · subst null
          rfl
        · simp [tree, Typing.map]
      | _ => rfl
    | list at_ items =>
      simp [tree, Typing.map, trees_eq, List.any_map, List.filter_map, Function.comp_def, shape_tree]
    | _ => rfl

theorem holds_typed {nullable : Bool} {types : List Placed} (typed : typingIn entries = .types nullable types) :
    ∀ p ∈ types, world.store.Holds [p] := by
  unfold typingIn at typed
  split at typed
  · rename_i found
    cases typed
    exact fun p member => Store.holds_of_mem (Store.holds_list.mp (holds.field found)).2 (List.mem_filter.mp member).1
  · cases typed
  · cases typed
    exact fun p member => List.mem_singleton.mp member ▸ fun l inside => absurd inside List.not_mem_nil
  · cases typed
    exact fun p member => absurd member List.not_mem_nil

/-- What a schema says about its types. -/
theorem on_typing :
    ((typing (Node.cell id) : Live (Typing Node)) crew).on world = (.ok ((typingIn entries).map node), world) := by
  rw [typing, Live.on_bind_ok (on_entriesOf holds), Live.on_bind_ok (on_isTrue_field holds "nullable"),
    Entries.field?_mapValues, typingIn, isNullable]
  cases found : Entries.field? entries "type" with
  | none => rfl
  | some p =>
    dsimp only [Option.map_some]
    rw [Live.on_bind_ok (on_shape_field holds found)]
    cases p with
    | atom a =>
      cases a with
      | text type =>
        by_cases null : type = "null"
        · subst null
          rfl
        · simp only [layer, Shape.mapParts]
          rfl
      | _ => rfl
    | list at_ items =>
      have isList : itemsAt entries "type" = some items := by rw [itemsAt, found]
      have listed := @on_shapes crew world items (holds_item holds isList)
      dsimp only [layer, Shape.mapParts]
      rw [Live.on_bind_ok listed, Live.on_pure]
      simp only [Typing.map, List.any_map, List.filter_map, Function.comp_def, List.map_map, Shape.isText_mapParts]
      rfl
    | _ => rfl

omit holds in
private theorem kindOf_mapParts {α β : Type} (h : α → β) (s : Shape α) :
    kindOf (some (s.mapParts h)) = kindOf (some s) := by
  cases s with
  | atom a => cases a <;> rfl
  | _ => rfl

theorem on_kind {types : List Placed} (each : ∀ p ∈ types, world.store.Holds [p]) :
    ((kind (.cell id) (types.map node) : Live Kind) crew).on world =
      (kindIn (treesUnder entries) (trees types), world) := by
  cases types with
  | nil =>
    simp only [List.map_nil, kind, pure_bind, kindOf, lift]
    rw [Live.on_bind_ok (on_entriesOf holds), Entries.field?_mapValues]
    simp only [Option.isSome_map, Live.on_pure, kindIn, trees, List.head?_nil, Option.map_none, kindOf, except_bind_ok,
      field?_treesUnder]
  | cons p rest =>
    have shaped : ((some <$> shape p.node : Live (Option (Shape Node))) crew).on world =
        (.ok (some (p.layer.mapParts node)), world) := by
      rw [map_eq_pure_bind, Live.on_bind_ok (Live.on_shape _), Live.on_pure,
        Store.shape_of_holds (each p List.mem_cons_self)]
    have same : kindOf (some (p.layer.mapParts node)) = kindOf (some p.tree.shape) := by
      rw [shape_tree, kindOf_mapParts, kindOf_mapParts]
    simp only [List.map_cons, kind, kindIn, trees, List.head?_cons, Option.map_some]
    rw [Live.on_bind_ok shaped, same]
    cases kindOf (some p.tree.shape) with
    | error fault => exact Live.on_bind_error (Live.on_lift _)
    | ok kind =>
      rw [Live.on_bind_ok (Live.on_lift _)]
      cases kind with
      | unstated =>
        dsimp only
        rw [Live.on_bind_ok (on_entriesOf holds), Entries.field?_mapValues, field?_treesUnder]
        simp only [Option.isSome_map, Live.on_pure, except_bind_ok]
      | named name => exact Live.on_pure _
      | strange => exact Live.on_pure _

/-! ### Types that are texts -/

/-- Texts, which stand nowhere. -/
def texts (names : List String) : List Placed := names.map fun name => .atom (.text name)

omit holds in
theorem trees_texts (names : List String) : trees (texts names) = names.map .text := by
  rw [texts, trees_eq, List.map_map]
  rfl

omit holds in
theorem holds_texts {names : List String} : ∀ p ∈ texts names, world.store.Holds [p] := by
  intro p member l inside
  obtain ⟨name, -, rfl⟩ := List.mem_map.mp member
  cases inside

omit holds in
/-- Placed trees that are texts. -/
theorem eq_texts {items : List Placed} {names : List String} (equal : items.map tree = names.map .text) :
    items = texts names := by
  induction items generalizing names with
  | nil =>
    cases names with
    | nil => rfl
    | cons name rest => cases equal
  | cons p items ih =>
    cases names with
    | nil => cases equal
    | cons name rest =>
      rw [List.map_cons, List.map_cons, List.cons.injEq] at equal
      have isAtom : p = .atom (.text name) := by
        cases p with
        | atom a => rw [tree] at equal; rw [Value.atom.inj equal.1]
        | _ => cases equal.1
      rw [isAtom, ih equal.2]
      rfl

omit holds in
theorem typingIn_of_texts {nullable : Bool} {names : List String}
    (typed : typesOf (treesUnder entries) = .types nullable (names.map .text)) :
    typingIn entries = .types nullable (texts names) := by
  rw [typesOf_treesUnder] at typed
  cases said : typingIn entries with
  | nullOnly =>
    rw [said] at typed
    cases typed
  | types admitted types =>
    rw [said, Typing.map, Typing.types.injEq] at typed
    rw [typed.1, eq_texts typed.2]

omit holds in
theorem typingIn_of_nullOnly (typed : typesOf (treesUnder entries) = .nullOnly) : typingIn entries = .nullOnly := by
  rw [typesOf_treesUnder] at typed
  cases said : typingIn entries with
  | nullOnly => rfl
  | types admitted types =>
    rw [said] at typed
    cases typed

theorem on_primitiveType (type : String) :
    ((primitiveType (Node.cell id) type : Live Expr) crew).on world =
      (.ok (primitiveIn (treesUnder entries) type), world) := by
  rw [primitiveType, Live.on_bind_ok (on_entriesOf holds), Entries.field?_mapValues, primitiveIn, field?_treesUnder]
  cases found : Entries.field? entries "format" with
  | none =>
    simp only [Option.map_none, shapeOrNull, pure_bind, Shape.isText]
    simp [Live.on_pure]
  | some p =>
    simp only [Option.map_some, shapeOrNull]
    rw [Live.on_bind_ok (on_shape_field holds found)]
    simp only [Shape.isText_mapParts, Option.any_some, shape_tree]
    split <;> rfl

theorem on_requiredNames :
    ((requiredNames (Node.cell id) : Live (List Value)) crew).on world =
      (Value.toSetOrEmpty? (Entries.field? (treesUnder entries) "required"), world) := by
  rw [requiredNames, Live.on_bind_ok (on_entriesOf holds), Entries.field?_mapValues, field?_treesUnder]
  cases found : Entries.field? entries "required" with
  | none => rfl
  | some p =>
    dsimp only [Option.map_some, wholeOf]
    have read : ((some <$> whole p.node : Live (Option Value)) crew).on world = (.ok (some p.tree), world) := by
      rw [map_eq_pure_bind, Live.on_bind_ok (on_whole_field holds found), Live.on_pure]
    rw [Live.on_bind_ok read, Live.on_lift]

omit holds in
private theorem any_itemsAt (key : String) :
    (((itemsAt entries key).map (List.map node)).any fun items => !items.isEmpty) =
      (membersAt (treesUnder entries) key).isSome := by
  rw [membersAt, listAt_treesUnder]
  cases itemsAt entries key with
  | none => rfl
  | some items => cases items <;> rfl

theorem on_alternatives :
    ((alternatives (Node.cell id) : Live (Option Node)) crew).on world =
      (.ok (if (membersAt (treesUnder entries) (alternativesKey (treesUnder entries))).isSome then
        (Entries.field? entries (alternativesKey (treesUnder entries))).map node else none), world) := by
  rw [alternatives, Live.on_bind_ok (on_entriesOf holds), Live.on_bind_ok (on_listOf holds "oneOf"), any_itemsAt,
    Entries.field?_mapValues, Entries.field?_mapValues, alternativesKey]
  split
  · rfl
  · rw [Live.on_bind_ok (on_listOf holds "anyOf"), any_itemsAt]
    split <;> rfl

theorem on_conjuncts :
    ((conjuncts (Node.cell id) : Live (Option Node)) crew).on world =
      (.ok (if (membersAt (treesUnder entries) "allOf").isSome then (Entries.field? entries "allOf").map node
        else none), world) := by
  rw [conjuncts, Live.on_bind_ok (on_listOf holds "allOf"), any_itemsAt]
  split
  · rw [Live.on_bind_ok (on_entriesOf holds), Entries.field?_mapValues, Live.on_pure]
  · rfl

theorem on_declaredProperties (name : Option String) :
    ((declaredProperties name (Node.cell id) : Live (Option (List (Atom × Node)))) crew).on world =
      (.ok ((name.bind fun _ => innerAt entries "properties").map (Entries.mapValues node)), world) := by
  cases name with
  | none => rfl
  | some name =>
    rw [declaredProperties, if_neg (by simp), Live.on_bind_ok (on_entriesOf holds), Entries.field?_mapValues, innerAt]
    cases found : Entries.field? entries "properties" with
    | none => rfl
    | some p =>
      dsimp only [Option.map_some, Option.bind_some]
      rw [Live.on_bind_ok (on_shape_field holds found)]
      cases p with
      | map at_ inner => cases inner <;> rfl
      | _ => rfl

theorem on_additional :
    ((additional (Node.cell id) : Live (Option Node)) crew).on world =
      (.ok (if (innerAt entries "additionalProperties").isSome then
        (Entries.field? entries "additionalProperties").map node else none), world) := by
  rw [additional, Live.on_bind_ok (on_entriesOf holds), Entries.field?_mapValues, innerAt]
  cases found : Entries.field? entries "additionalProperties" with
  | none => rfl
  | some p =>
    dsimp only [Option.map_some]
    rw [Live.on_bind_ok (on_shape_field holds found)]
    cases p with
    | map at_ inner => cases inner <;> rfl
    | _ => rfl

end SchemaType

end ClientGen
