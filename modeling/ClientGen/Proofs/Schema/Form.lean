import ClientGen.Proofs.Reading
import ClientGen.SchemaType

/-!
How the rules read a schema that is a tree. What they look at is computed from the entries of the schema:
its types (`typesOf`), whether it enumerates null (`listsNull`), and the form of its type (`formOf`).
Conversion is then one equation a layer (`unannounced_map`, `shaped_map`): what is left to do is to
convert the parts of the form, in order.
-/

namespace ClientGen.SchemaType

/-- The items under a key, if a list stands there. -/
def listAt (entries : List (Atom × Value)) (key : String) : Option (List Value) :=
  match Entries.field? entries key with
  | some (.list items) => some items
  | _ => none

/-- The items under a key, if a list with an item stands there. -/
def membersAt (entries : List (Atom × Value)) (key : String) : Option (List Value) :=
  (listAt entries key).filter (!·.isEmpty)

/-- The entries under a key, if a mapping with an entry stands there. -/
def entriesAt (entries : List (Atom × Value)) (key : String) : Option (List (Atom × Value)) :=
  match Entries.field? entries key with
  | some (.map inner) => if inner.isEmpty then none else some inner
  | _ => none

/-- Whether a schema says of itself that it admits null. -/
def isNullable (entries : List (Atom × Value)) : Bool :=
  ((Entries.field? entries "nullable").map Value.truthy).getD false

/-- What a schema says about its types. -/
def typesOf (entries : List (Atom × Value)) : Typing Value :=
  match Entries.field? entries "type" with
  | some (.list items) =>
    .types (isNullable entries || items.any (·.shape.isText "null"))
      (items.filter (!·.shape.isText "null"))
  | some (.text "null") => .nullOnly
  | some (.text s) => .types (isNullable entries) [.text s]
  | _ => .types (isNullable entries) []

/-- The enumerated values other than null. -/
def listedValues (entries : List (Atom × Value)) : List Value :=
  ((listAt entries "enum").getD []).filter (!·.shape.isNull)

/-- Whether null is among the enumerated values. -/
def listsNull (entries : List (Atom × Value)) : Bool :=
  ((listAt entries "enum").getD []).any (·.shape.isNull)

/-- A schema with one of the types that it lists. -/
def retypedTo (entries : List (Atom × Value)) (type : Value) : Value :=
  .map (retypedEntries entries type (.bool false))

/-- The form of a schema's type; the parts are schemas that are still to be converted. -/
inductive Form where
  | literals (values : List Value)
  | union (members : List Value)
  | conjunction (members : List Value)
  | copies (members : List Value)
  | array (items : Option Value)
  | record (required : List Value) (properties : List (Atom × Value))
  | mapping (values : Option Value)
  | simple (type : Expr)

/-- What a schema of at most one type is. -/
def kindIn (entries : List (Atom × Value)) (types : List Value) : Except Fault Kind := do
  match ← kindOf (types.head?.map Value.shape) with
  | .unstated =>
    .ok (if (Entries.field? entries "properties").isSome then .named "object" else .unstated)
  | kind => .ok kind

/-- The type of a type that is neither array nor object. -/
def primitiveIn (entries : List (Atom × Value)) (type : String) : Expr :=
  if type = "string" && (Entries.field? entries "format").any (·.shape.isText "binary") then
    .name "bytes"
  else (primitive? type).elim .anything .name

/-- The form of an object schema: a record under a name of its own, or a mapping. -/
def objectForm (name : Option String) (entries : List (Atom × Value)) : Except Fault Form :=
  match name, entriesAt entries "properties" with
  | some _, some properties => do
    return .record (← Value.toSetOrEmpty? (Entries.field? entries "required")) properties
  | _, _ => .ok (.mapping ((entriesAt entries "additionalProperties").map .map))

/-- The form of a schema of at most one type. -/
def kindForm (name : Option String) (entries : List (Atom × Value)) : Kind → Except Fault Form
  | .named "array" => .ok (.array (Entries.field? entries "items"))
  | .named "object" => objectForm name entries
  | .named type => .ok (.simple (primitiveIn entries type))
  | _ => .ok (.simple .anything)

/-- The alternatives of a schema, and then the members that it combines. -/
def combinationOf (entries : List (Atom × Value)) : Option Form :=
  match membersAt entries "oneOf", membersAt entries "anyOf", membersAt entries "allOf" with
  | some members, _, _ => some (.union members)
  | none, some members, _ => some (.union members)
  | none, none, some members => some (.conjunction members)
  | none, none, none => none

/-- The key whose schemas are the alternatives of a schema. -/
def alternativesKey (entries : List (Atom × Value)) : String :=
  if (membersAt entries "oneOf").isSome then "oneOf" else "anyOf"

/-- A schema combines its alternatives, or else what it combines with all of them. -/
theorem combinationOf_eq (entries : List (Atom × Value)) :
    combinationOf entries =
      match membersAt entries (alternativesKey entries) with
      | some members => some (.union members)
      | none => (membersAt entries "allOf").map .conjunction := by
  unfold combinationOf alternativesKey
  cases oneOf : membersAt entries "oneOf" with
  | some members => simp [oneOf]
  | none =>
    cases anyOf : membersAt entries "anyOf" with
    | some members => simp [anyOf]
    | none => cases membersAt entries "allOf" <;> simp [anyOf]

/-- The form of a schema's type, null left out of account. -/
def formOf (name : Option String) (entries : List (Atom × Value)) (types : List Value) :
    Except Fault Form :=
  if !(listedValues entries).isEmpty then .ok (.literals (listedValues entries))
  else match Entries.field? entries "const", combinationOf entries with
    | some value, _ => .ok (.literals [value])
    | none, some form => .ok form
    | none, none =>
      if 1 < types.length then .ok (.copies (types.map (retypedTo entries)))
      else do kindForm name entries (← kindIn entries types)

/-- How a schema comes to its form, with what each form says about the schema. -/
inductive Formed (name : Option String) (entries : List (Atom × Value)) (types : List Value) : Form → Prop
  | listed (some : listedValues entries ≠ []) : Formed name entries types (.literals (listedValues entries))
  | const {value} (stated : Entries.field? entries "const" = some value) :
    Formed name entries types (.literals [value])
  | union {key members} (alternative : key = "oneOf" ∨ key = "anyOf")
    (stated : membersAt entries key = some members) : Formed name entries types (.union members)
  | conjunction {members} (stated : membersAt entries "allOf" = some members) :
    Formed name entries types (.conjunction members)
  | copies (several : 1 < types.length) : Formed name entries types (.copies (types.map (retypedTo entries)))
  | array (single : types.length ≤ 1) (isKind : kindIn entries types = .ok (.named "array")) :
    Formed name entries types (.array (Entries.field? entries "items"))
  | record {own properties required} (single : types.length ≤ 1) (isKind : kindIn entries types = .ok (.named "object"))
    (named : name = some own) (declared : entriesAt entries "properties" = some properties)
    (listed : Value.toSetOrEmpty? (Entries.field? entries "required") = .ok required) :
    Formed name entries types (.record required properties)
  | mapping (single : types.length ≤ 1) (isKind : kindIn entries types = .ok (.named "object"))
    (noRecord : name = none ∨ entriesAt entries "properties" = none) :
    Formed name entries types (.mapping ((entriesAt entries "additionalProperties").map .map))
  | primitive {type} (single : types.length ≤ 1) (isKind : kindIn entries types = .ok (.named type))
    (noArray : type ≠ "array") (noObject : type ≠ "object") :
    Formed name entries types (.simple (primitiveIn entries type))
  | anything {kind} (isKind : kindIn entries types = .ok kind) (unnamed : ∀ type, kind ≠ Kind.named type) :
    Formed name entries types (.simple .anything)

/-- The type of a form: its parts are converted with the steps that are left. -/
def Form.build (document : Value) (fuel : Nat) (name : Option String) : Form → Except Fault Expr
  | literals values => .ok (literalType values)
  | union members => unionType <$> convertItems document fuel (.list members) 0
  | conjunction members => intersectionType <$> convertItems document fuel (.list members) 0
  | copies members => unionType <$> convertCopies document fuel members
  | array none => .ok (.index "list" [.anything])
  | array (some items) => (fun type => .index "list" [type]) <$> convert document fuel none items
  | record required properties =>
    typedMapping (name.getD "") <$> convertProperties document fuel required properties
  | mapping none => .ok (.mappingTo .anything)
  | mapping (some values) => Expr.mappingTo <$> convert document fuel none values
  | simple type => .ok type

section

variable (entries : List (Atom × Value)) (types : List Value) (name : Option String)

@[simp] theorem entriesOf_map :
    (entriesOf (Value.map entries) : Except Fault (List (Atom × Value))) = .ok entries := rfl

@[simp] theorem listOf_map (key : String) :
    (listOf (Value.map entries) key : Except Fault (Option (List Value))) = .ok (listAt entries key) := by
  simp only [listOf, entriesOf_map, except_bind_ok, listAt]
  cases Entries.field? entries key with
  | none => rfl
  | some node => cases node <;> rfl

@[simp] theorem shapes_except (nodes : List Value) :
    (shapes nodes : Except Fault (List (Value × Shape Value))) =
      .ok (nodes.map fun node => (node, node.shape)) := by
  induction nodes with
  | nil => rfl
  | cons node rest ih => simp [shapes, ih]

@[simp] theorem wholes_except (nodes : List Value) :
    (wholes nodes : Except Fault (List Value)) = .ok nodes := by
  induction nodes with
  | nil => rfl
  | cons node rest ih => simp [wholes, ih]

@[simp] theorem copies_map :
    (copies (Value.map entries) types : Except Fault (List Value)) = .ok (types.map (retypedTo entries)) := by
  induction types with
  | nil => rfl
  | cons type rest ih =>
    have first : (retyped (Value.map entries) type : Except Fault Value) = .ok (retypedTo entries type) := rfl
    simp [copies, first, ih]

private theorem filter_shapes (nodes : List Value) (keep : Shape Value → Bool) :
    ((nodes.map fun node => (node, node.shape)).filter fun node => keep node.2).map (·.1) =
      nodes.filter (keep ·.shape) := by
  simp [List.filter_map, Function.comp_def]

@[simp] theorem typing_map :
    (typing (Value.map entries) : Except Fault (Typing Value)) = .ok (typesOf entries) := by
  simp only [typing, entriesOf_map, except_bind_ok, isTrue_except, typesOf]
  cases Entries.field? entries "type" with
  | none => rfl
  | some node =>
    cases node with
    | atom a =>
      cases a with
      | text s =>
        by_cases null : s = "null"
        · subst null; rfl
        · simp [isNullable]
      | _ => rfl
    | list items =>
      simp only [shape_except, Value.shape_list, except_bind_ok, shapes_except]
      rw [filter_shapes items fun s => !s.isText "null"]
      simp [List.any_map, Function.comp_def, isNullable]
    | _ => rfl

@[simp] theorem enumerated_map :
    (enumerated (Value.map entries) : Except Fault (List Value)) = .ok (listedValues entries) := by
  simp only [enumerated, listOf_map, except_bind_ok, listedValues]
  cases listAt entries "enum" with
  | none => rfl
  | some items => simpa using filter_shapes items fun s => !s.isNull

@[simp] theorem enumeratesNull_map :
    (enumeratesNull (Value.map entries) : Except Fault Bool) = .ok (listsNull entries) := by
  simp only [enumeratesNull, listOf_map, except_bind_ok, listsNull]
  cases listAt entries "enum" with
  | none => rfl
  | some items => simp [List.any_map, Function.comp_def]

theorem listAt_eq_some {entries : List (Atom × Value)} {key : String} {items : List Value} :
    listAt entries key = some items ↔ Entries.field? entries key = some (.list items) := by
  unfold listAt
  split <;> simp_all

theorem membersAt_eq_some {entries : List (Atom × Value)} {key : String} {members : List Value} :
    membersAt entries key = some members ↔
      Entries.field? entries key = some (.list members) ∧ members ≠ [] := by
  simp [membersAt, Option.filter_eq_some_iff, listAt_eq_some]

theorem entriesAt_eq_some {entries inner : List (Atom × Value)} {key : String} :
    entriesAt entries key = some inner ↔
      Entries.field? entries key = some (.map inner) ∧ inner ≠ [] := by
  unfold entriesAt
  cases Entries.field? entries key with
  | none => simp
  | some node =>
    cases node with
    | map found =>
      by_cases empty : found = []
      · simp only [empty, List.isEmpty_nil, ↓reduceIte, reduceCtorEq, false_iff, not_and]
        rintro equal
        simp_all
      · simp only [List.isEmpty_iff, empty, ↓reduceIte, Option.some.injEq, Value.map.injEq]
        constructor
        · rintro rfl; exact ⟨rfl, empty⟩
        · exact And.left
    | _ => simp

private theorem formed_of_kindForm {kind : Kind} {form : Form} (single : types.length ≤ 1)
    (isKind : kindIn entries types = .ok kind) (formed : kindForm name entries kind = .ok form) : Formed name entries types form := by
  unfold kindForm at formed
  split at formed
  · cases formed
    exact .array single isKind
  · cases name with
    | none =>
      cases formed
      exact .mapping single isKind (.inl rfl)
    | some own =>
      cases declared : entriesAt entries "properties" with
      | none =>
        simp only [objectForm, declared] at formed
        cases formed
        exact .mapping single isKind (.inr declared)
      | some properties =>
        simp only [objectForm, declared] at formed
        obtain ⟨required, listed, equal⟩ := bind_eq_ok.mp formed
        cases equal
        exact .record single isKind rfl declared listed
  · rename_i type noArray noObject
    cases formed
    exact .primitive single isKind noArray noObject
  · rename_i noArray noObject unnamed
    cases formed
    exact .anything isKind unnamed

theorem formed_of_formOf {name : Option String} {entries : List (Atom × Value)} {types : List Value} {form : Form}
    (formed : formOf name entries types = .ok form) : Formed name entries types form := by
  unfold formOf at formed
  split at formed
  · rename_i some
    cases formed
    exact .listed (by simpa using some)
  · split at formed
    · rename_i value _ stated
      cases formed
      exact .const stated
    · rename_i combined _ combination
      cases formed
      unfold combinationOf at combination
      split at combination
      · rename_i stated; cases combination; exact .union (.inl rfl) stated
      · rename_i stated; cases combination; exact .union (.inr rfl) stated
      · rename_i stated; cases combination; exact .conjunction stated
      · cases combination
    · split at formed
      · rename_i several
        cases formed
        exact .copies several
      · rename_i single
        obtain ⟨kind, isKind, formed⟩ := bind_eq_ok.mp formed
        exact formed_of_kindForm entries types name (Nat.le_of_not_lt single) isKind formed

private theorem membersAt_any (key : String) :
    (listAt entries key).any (!·.isEmpty) = (membersAt entries key).isSome := by
  unfold membersAt
  cases listAt entries key with
  | none => rfl
  | some items => cases items <;> rfl

private theorem field_of_membersAt {entries : List (Atom × Value)} {key : String}
    (present : (membersAt entries key).isSome) :
    Entries.field? entries key = (membersAt entries key).map Value.list := by
  obtain ⟨members, found⟩ := Option.isSome_iff_exists.mp present
  rw [found, (membersAt_eq_some.mp found).1, Option.map_some]

private theorem alternatives_map :
    (alternatives (Value.map entries) : Except Fault (Option Value)) =
      .ok (((membersAt entries "oneOf").or (membersAt entries "anyOf")).map Value.list) := by
  simp only [alternatives, entriesOf_map, listOf_map, except_bind_ok, membersAt_any, except_pure]
  by_cases one : (membersAt entries "oneOf").isSome
  · rw [if_pos one, field_of_membersAt one, Option.or_of_isSome one]
  · have absent : membersAt entries "oneOf" = none := by simpa using one
    rw [if_neg one, absent, Option.none_or]
    by_cases any : (membersAt entries "anyOf").isSome
    · rw [if_pos any, field_of_membersAt any]
    · have absent : membersAt entries "anyOf" = none := by simpa using any
      rw [if_neg any, absent, Option.map_none]

private theorem conjuncts_map :
    (conjuncts (Value.map entries) : Except Fault (Option Value)) =
      .ok ((membersAt entries "allOf").map Value.list) := by
  simp only [conjuncts, entriesOf_map, listOf_map, except_bind_ok, membersAt_any, except_pure]
  by_cases all : (membersAt entries "allOf").isSome
  · rw [if_pos all, field_of_membersAt all]
  · have absent : membersAt entries "allOf" = none := by simpa using all
    rw [if_neg all, absent, Option.map_none]

private theorem kind_map :
    (kind (Value.map entries) types : Except Fault Kind) = kindIn entries types := by
  cases types <;> simp only [kind, kindIn, shape_except, except_map_ok, except_bind_ok, lift_except,
    entriesOf_map, except_pure] <;> rfl

private theorem primitiveType_map (type : String) :
    (primitiveType (Value.map entries) type : Except Fault Expr) = .ok (primitiveIn entries type) := by
  simp only [primitiveType, entriesOf_map, except_bind_ok, primitiveIn]
  cases Entries.field? entries "format" with
  | none => simp [shapeOrNull, Shape.isText]
  | some format => simp [shapeOrNull]; split <;> rfl

private theorem requiredNames_map :
    (requiredNames (Value.map entries) : Except Fault (List Value)) =
      Value.toSetOrEmpty? (Entries.field? entries "required") := by
  simp [requiredNames]

private theorem declaredProperties_map :
    (declaredProperties name (Value.map entries) : Except Fault (Option (List (Atom × Value)))) =
      .ok (name.bind fun _ => entriesAt entries "properties") := by
  cases name with
  | none => rfl
  | some name =>
    simp only [declaredProperties, entriesOf_map, except_bind_ok, entriesAt, Option.bind_some]
    cases Entries.field? entries "properties" with
    | none => rfl
    | some node => cases node <;> rfl

private theorem additional_map :
    (additional (Value.map entries) : Except Fault (Option Value)) =
      .ok ((entriesAt entries "additionalProperties").map Value.map) := by
  simp only [additional, entriesOf_map, except_bind_ok, entriesAt]
  cases Entries.field? entries "additionalProperties" with
  | none => rfl
  | some node =>
    cases node with
    | map inner => cases inner <;> rfl
    | _ => rfl

/-- The type of a schema with null left out of account is that of its form. -/
theorem shaped_map (document : Value) (fuel : Nat) :
    shaped document (fuel + 1) name (.map entries) types =
      (formOf name entries types >>= Form.build document fuel name : Except Fault Expr) := by
  simp only [shaped, enumerated_map, wholes_except, entriesOf_map, alternatives_map, conjuncts_map, copies_map,
    kind_map, declaredProperties_map, requiredNames_map, additional_map, primitiveType_map, except_bind_ok,
    except_pure, whole_except, formOf, combinationOf]
  by_cases listed : (listedValues entries).isEmpty = true
  · simp only [listed, Bool.not_true, Bool.false_eq_true, ↓reduceIte]
    cases Entries.field? entries "const" with
    | some value => rfl
    | none =>
      cases membersAt entries "oneOf" with
      | some members => rfl
      | none =>
        cases membersAt entries "anyOf" with
        | some members => rfl
        | none =>
          cases membersAt entries "allOf" with
          | some members => rfl
          | none =>
            by_cases several : 1 < types.length
            · simp only [several, ↓reduceIte]; rfl
            · simp only [several, ↓reduceIte, Option.or_none, Option.map_none]
              cases kindIn entries types with
              | error fault => rfl
              | ok kind =>
                simp only [except_bind_ok]
                -- the name of a kind is compared with texts, so the cases are those of the comparison
                cases kind with
                | unstated => rfl
                | strange => rfl
                | named type =>
                  by_cases array : type = "array"
                  · subst array
                    simp only [kindForm, except_bind_ok]
                    cases Entries.field? entries "items" <;> rfl
                  · by_cases object : type = "object"
                    · subst object
                      simp only [kindForm, objectForm]
                      cases name with
                      | none => cases entriesAt entries "additionalProperties" <;> rfl
                      | some name =>
                        cases entriesAt entries "properties" with
                        | none => cases entriesAt entries "additionalProperties" <;> rfl
                        | some properties =>
                          cases Value.toSetOrEmpty? (Entries.field? entries "required") <;> rfl
                    · simp [kindForm, Form.build]
  · simp [listed, Form.build]

/-- The type that also admits null, where null is to be admitted. -/
def admitNull (admitted : Bool) (type : Expr) : Expr := if admitted then .optional type else type

private theorem admitNull_map (admitted : Bool) (converted : Except Fault Expr) :
    (do let type ← converted; if admitted then .ok (.optional type) else .ok type) =
      admitNull admitted <$> converted := by
  cases converted <;> cases admitted <;> rfl

theorem reference?_map :
    (reference? (Value.map entries) : Except Fault (Option Value)) = .ok (Entries.field? entries "$ref") := rfl

/-- A schema that is no reference has the null type, or that of its form. -/
theorem unannounced_map (document : Value) (fuel : Nat) :
    unannounced document (fuel + 1) name (.map entries) =
      (match Entries.field? entries "$ref" with
        | some target => do
          match ← component? target.shape with
          | some component => .ok (.text (Naming.typeName component))
          | none => unannounced document fuel name (← Reference.deref (.map entries) document)
        | none =>
          match typesOf entries with
          | .nullOnly => .ok (.constant .null)
          | .types nullable types =>
            admitNull (nullable || listsNull entries) <$> shaped document fuel name (.map entries) types :
        Except Fault Expr) := by
  simp only [unannounced, reference?_map, except_bind_ok]
  cases Entries.field? entries "$ref" with
  | some target => simp only [shape_except, except_bind_ok, lift_except, except_pure] <;> rfl
  | none =>
    simp only [typing_map, except_bind_ok, enumeratesNull_map, except_pure]
    cases typesOf entries with
    | nullOnly => rfl
    | types nullable types =>
      exact admitNull_map (nullable || listsNull entries) _

/-- What is no mapping cannot be read as a schema. -/
theorem reference?_of_not_map {schema : Value} (noMap : schema.shape.isMap = false) (found : Option Value) :
    (reference? schema : Except Fault (Option Value)) ≠ .ok found := by
  cases schema with
  | map entries => simp [Shape.isMap] at noMap
  | list items => simp [reference?, reference?.complaint]
  | tuple items => simp [reference?, reference?.complaint]
  | set members => simp [reference?]
  | atom a => cases a <;> simp [reference?]

theorem convert_map (document : Value) (fuel : Nat) :
    (convert document (fuel + 1) name (.map entries) : Except Fault Expr) =
      unannounced document fuel name (.map entries) := by
  simp only [convert, shape_except, Value.shape_map, except_bind_ok, Shape.isMap, ↓reduceIte]
  simp only [enter, leave, except_bind_ok]
  cases (unannounced document fuel name (.map entries) : Except Fault Expr) <;> rfl

theorem convert_of_not_map (document : Value) (fuel : Nat) {schema : Value}
    (noMap : schema.shape.isMap = false) :
    (convert document (fuel + 1) name schema : Except Fault Expr) = .ok .anything := by
  simp [convert, noMap]

/-- The items of a list are converted in order, with fewer and fewer steps left. -/
theorem convertItems_list (document : Value) (fuel index : Nat) (items : List Value) :
    (convertItems document (fuel + 1) (.list items) index : Except Fault (List Expr)) =
      match items.drop index with
      | [] => .ok []
      | item :: _ => do
        return (← convert document fuel none item) ::
          (← convertItems document fuel (.list items) (index + 1)) := by
  simp only [convertItems, shape_except, Value.shape_list, except_bind_ok, except_pure]
  cases drop : items.drop index with
  | nil =>
    have none : items[index]? = none := by simpa using drop
    simp only [none]
  | cons item rest =>
    have some : items[index]? = some item := by
      have head := List.head?_drop (l := items) (i := index)
      rw [drop, List.head?_cons] at head
      exact head.symm
    simp only [some]

end

end ClientGen.SchemaType
