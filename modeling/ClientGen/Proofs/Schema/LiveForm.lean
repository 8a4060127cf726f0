import ClientGen.Proofs.Schema.LiveReading
import ClientGen.Proofs.Schema.Spots

/-!
The form of a schema of a store. A schema that stands in a store has the form of its tree (`on_shaped`); the parts of
the form are the nodes that stand in the places of the schema from which the form takes them (`Form.buildLive`).
-/

namespace ClientGen.SchemaType

open Placed

/-- The node under a key. -/
def nodeAt (entries : List (Atom × Placed)) (key : String) : Node :=
  ((Entries.field? entries key).map node).getD (.atom .null)

/-- The type of a form whose parts stand in a store. -/
def Form.buildLive (document : Node) (id : Nat) (entries : List (Atom × Placed)) (types : List Node) (fuel : Nat)
    (name : Option String) : Form → Live Expr
  | literals values => pure (literalType values)
  | union _ => unionType <$> convertItems document fuel (nodeAt entries (alternativesKey (treesUnder entries))) 0
  | conjunction _ => intersectionType <$> convertItems document fuel (nodeAt entries "allOf") 0
  | copies _ => do return unionType (← convertCopies document fuel (← SchemaType.copies (.cell id) types))
  | array none => pure (.index "list" [.anything])
  | array (some _) => (fun type => .index "list" [type]) <$> convert document fuel none (nodeAt entries "items")
  | record required _ => typedMapping (name.getD "") <$>
      convertProperties document fuel required (Entries.mapValues node ((innerAt entries "properties").getD []))
  | mapping none => pure (.mappingTo .anything)
  | mapping (some _) => Expr.mappingTo <$> convert document fuel none (nodeAt entries "additionalProperties")
  | simple type => pure type

private theorem component?_mapParts {α β : Type} (h : α → β) (s : Shape α) :
    component? (s.mapParts h) = component? s := by
  cases s with
  | atom a => cases a <;> rfl
  | _ => rfl

section

variable {crew : Crew} {world : World} {id : Nat} {entries : List (Atom × Placed)} {key : String}

theorem nodeAt_of_field {p : Placed} (found : Entries.field? entries key = some p) : nodeAt entries key = p.node := by
  rw [nodeAt, found]
  rfl

/-- Where a list with members is read, one stands. -/
theorem list_of_membersAt {members : List Value} (stated : membersAt (treesUnder entries) key = some members) :
    ∃ at_ items, Entries.field? entries key = some (.list at_ items) ∧ members = trees items := by
  have found := (membersAt_eq_some.mp stated).1
  rw [field?_treesUnder] at found
  obtain ⟨p, here, isList⟩ := Option.map_eq_some_iff.mp found
  cases p with
  | list at_ items => exact ⟨at_, items, here, (Value.list.inj isList).symm⟩
  | _ => cases isList

/-- Where a mapping with entries stands, it is read. -/
theorem map_of_innerAt {inner : List (Atom × Placed)} (stated : innerAt entries key = some inner) :
    ∃ at_, Entries.field? entries key = some (.map at_ inner) := by
  unfold innerAt at stated
  split at stated
  · rename_i at_ _ found
    split at stated
    · cases stated
    · cases stated
      exact ⟨at_, found⟩
  · cases stated

/-- An object schema makes a record of the properties that stand in it, or else a mapping. -/
theorem objectForm_treesUnder (name : Option String) (entries : List (Atom × Placed)) :
    objectForm name (treesUnder entries) =
      match name.bind fun _ => innerAt entries "properties" with
      | some inner => do
        return .record (← Value.toSetOrEmpty? (Entries.field? (treesUnder entries) "required")) (treesUnder inner)
      | none => .ok (.mapping (((innerAt entries "additionalProperties").map treesUnder).map .map)) := by
  simp only [objectForm, entriesAt_treesUnder]
  cases name with
  | none => rfl
  | some own =>
    rw [Option.bind_some]
    cases innerAt entries "properties" <;> rfl

variable (holds : world.store.Holds [.map id entries])

include holds

/-- The type of a record in a store: the names that it requires are read first. -/
private theorem on_record (document : Node) (fuel : Nat) (name : Option String) (types : List Node)
    {inner : List (Atom × Placed)} (declared : innerAt entries "properties" = some inner) :
    ((do
      let required ← requiredNames (Node.cell id)
      let properties ← convertProperties document fuel required (Entries.mapValues node inner)
      pure (typedMapping (name.getD "") properties) : Live Expr) crew).on world =
      ((do
        let form ← lift (do
          let required ← Value.toSetOrEmpty? (Entries.field? (treesUnder entries) "required")
          return Form.record required (treesUnder inner) : Except Fault Form)
        form.buildLive document id entries types fuel name : Live Expr) crew).on world := by
  have read := @on_requiredNames crew world id entries holds
  cases required : Value.toSetOrEmpty? (Entries.field? (treesUnder entries) "required") with
  | error fault =>
    rw [required] at read
    rw [Live.on_bind_error read]
    rfl
  | ok names =>
    rw [required] at read
    simp only [except_bind_ok, except_pure, lift, pure_bind, Form.buildLive, declared, Option.getD_some, map_eq_pure_bind]
    rw [Live.on_bind_ok read]

/-- The type of a schema in a store, with null left out of account, is that of its form. -/
theorem on_shaped (document : Node) (fuel : Nat) (name : Option String) {types : List Placed}
    (each : ∀ p ∈ types, world.store.Holds [p]) :
    ((shaped document (fuel + 1) name (.cell id) (types.map node) : Live Expr) crew).on world =
      ((do
        let form ← lift (formOf name (treesUnder entries) (trees types))
        form.buildLive document id entries (types.map node) fuel name : Live Expr) crew).on world := by
  rw [shaped, Live.on_bind_ok (on_enumerated holds), formOf, listedValues_treesUnder, trees_eq, List.isEmpty_map,
    List.isEmpty_map]
  cases listed : (listedPlaced entries).isEmpty with
  | false =>
    simp only [Bool.not_false, ↓reduceIte]
    rw [Live.on_bind_ok (on_wholes (holds_listed holds)), trees_eq]
    rfl
  | true =>
    simp only [Bool.not_true, Bool.false_eq_true, ↓reduceIte]
    rw [Live.on_bind_ok (on_entriesOf holds), Entries.field?_mapValues, field?_treesUnder]
    cases const : Entries.field? entries "const" with
    | some value =>
      simp only [Option.map_some]
      rw [Live.on_bind_ok (on_whole_field holds const)]
      rfl
    | none =>
      simp only [Option.map_none]
      rw [Live.on_bind_ok (on_alternatives holds), combinationOf_eq]
      cases alternatives : membersAt (treesUnder entries) (alternativesKey (treesUnder entries)) with
      | some members =>
        obtain ⟨at_, items, found, -⟩ := list_of_membersAt alternatives
        simp only [Option.isSome_some, ↓reduceIte, found, Option.map_some, lift, pure_bind, Form.buildLive,
          nodeAt_of_field found, map_eq_pure_bind]
      | none =>
        simp only [Option.isSome_none, Bool.false_eq_true, ↓reduceIte]
        rw [Live.on_bind_ok (on_conjuncts holds)]
        cases conjuncts : membersAt (treesUnder entries) "allOf" with
        | some members =>
          obtain ⟨at_, items, found, -⟩ := list_of_membersAt conjuncts
          simp only [Option.isSome_some, ↓reduceIte, found, Option.map_some, lift, pure_bind, Form.buildLive,
            nodeAt_of_field found, map_eq_pure_bind]
        | none =>
          simp only [Option.isSome_none, Bool.false_eq_true, ↓reduceIte, Option.map_none, trees_eq, List.length_map]
          by_cases several : 1 < types.length
          · simp only [several, ↓reduceIte, lift, pure_bind, Form.buildLive]
          · have kinds := @on_kind crew world id entries holds types each
            simp only [several, ↓reduceIte, ← trees_eq]
            cases isKind : kindIn (treesUnder entries) (trees types) with
            | error fault =>
              rw [isKind] at kinds
              rw [Live.on_bind_error kinds]
              rfl
            | ok stated =>
              rw [isKind] at kinds
              rw [Live.on_bind_ok kinds, except_bind_ok]
              -- the name of a kind is compared with texts, so the cases are those of the comparison
              cases stated with
              | unstated => rfl
              | strange => rfl
              | named type =>
                by_cases array : type = "array"
                · subst array
                  simp only [kindForm]
                  rw [Live.on_bind_ok (on_entriesOf holds), Entries.field?_mapValues, field?_treesUnder]
                  cases items : Entries.field? entries "items" with
                  | none => rfl
                  | some p =>
                    simp only [Option.map_some, lift, pure_bind, Form.buildLive, nodeAt_of_field items, map_eq_pure_bind]
                · by_cases object : type = "object"
                  · subst object
                    simp only [kindForm, objectForm_treesUnder]
                    rw [Live.on_bind_ok (on_declaredProperties holds name)]
                    cases record : name.bind fun _ => innerAt entries "properties" with
                    | some inner =>
                      obtain ⟨own, rfl, declared⟩ := Option.bind_eq_some_iff.mp record
                      exact on_record holds document fuel (some own) _ declared
                    | none =>
                      simp only [Option.map_none]
                      rw [Live.on_bind_ok (on_additional holds)]
                      cases additional : innerAt entries "additionalProperties" with
                      | none => rfl
                      | some inner =>
                        obtain ⟨at_, found⟩ := map_of_innerAt additional
                        simp only [Option.isSome_some, ↓reduceIte, found, Option.map_some, lift, pure_bind,
                          Form.buildLive, nodeAt_of_field found, map_eq_pure_bind]
                  · simp only [kindForm, lift, pure_bind, Form.buildLive]
                    exact on_primitiveType holds type

/-- A schema in a store is read as a reference, or else by its types. -/
theorem on_unannounced (document : Node) (fuel : Nat) (name : Option String) :
    ((unannounced document (fuel + 1) name (.cell id) : Live Expr) crew).on world =
      ((match Entries.field? entries "$ref" with
        | some target => do
          match ← lift (component? target.layer) with
          | some component => pure (.text (Naming.typeName component))
          | none => unannounced document fuel name (← Reference.deref (.cell id) document)
        | none =>
          match typingIn entries with
          | .nullOnly => pure (.constant .null)
          | .types nullable types => do
            let type ← shaped document fuel name (.cell id) (types.map node)
            let listed ← enumeratesNull (Node.cell id)
            pure (admitNull (nullable || listed) type) : Live Expr) crew).on world := by
  rw [unannounced, Live.on_bind_ok (on_reference? holds)]
  cases found : Entries.field? entries "$ref" with
  | some target =>
    dsimp only [Option.map_some]
    rw [Live.on_bind_ok (on_shape_field holds found)]
    exact component?_mapParts node target.layer ▸ rfl
  | none =>
    dsimp only [Option.map_none]
    rw [Live.on_bind_ok (on_typing holds)]
    cases typingIn entries with
    | nullOnly => rfl
    | types nullable types =>
      simp only [Typing.map, admitNull, apply_ite (pure : Expr → Live Expr)]

/-- A schema in a store that names a component has its name. -/
theorem on_unannounced_component (document : Node) (fuel : Nat) (name : Option String) {ref component : String}
    (stated : Entries.field? (treesUnder entries) "$ref" = some (.text ref))
    (named : Reference.componentName? ref = some component) :
    ((unannounced document (fuel + 1) name (.cell id) : Live Expr) crew).on world =
      (.ok (.text (Naming.typeName component)), world) := by
  rw [field?_treesUnder] at stated
  obtain ⟨p, found, isText⟩ := Option.map_eq_some_iff.mp stated
  have isComponent : component? p.layer = .ok (some component) := by
    rw [← component?_mapParts tree, ← shape_tree, isText, Value.shape_atom, component?, named]
  have asked : ((lift (component? p.layer) : Live (Option String)) crew).on world = (.ok (some component), world) := by
    rw [Live.on_lift, isComponent]
  rw [on_unannounced holds, found]
  dsimp only
  rw [Live.on_bind_ok asked, Live.on_pure]

/-- A schema in a store of the null type alone. -/
theorem on_unannounced_nullOnly (document : Node) (fuel : Nat) (name : Option String)
    (noReference : Entries.field? (treesUnder entries) "$ref" = none) (typed : typesOf (treesUnder entries) = .nullOnly) :
    ((unannounced document (fuel + 1) name (.cell id) : Live Expr) crew).on world = (.ok (.constant .null), world) := by
  rw [field?_treesUnder, Option.map_eq_none_iff] at noReference
  rw [on_unannounced holds, noReference, typingIn_of_nullOnly typed]
  rfl

end

end ClientGen.SchemaType
