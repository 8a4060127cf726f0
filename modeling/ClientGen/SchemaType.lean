import ClientGen.Naming
import ClientGen.Reference
import ClientGen.Syntax.Basic

/-!
The type expression of a schema, which annotates what holds its values. Every schema that the rules
visit is announced before it is read and after its type is built, so that plugins can edit the schema
before and the type after.

* A reference to a component schema is the component's name as text; any other reference is followed.
* `enum` and `const` are `Literal`; `oneOf` and `anyOf` are `Union`; a single `allOf` is its member.
* A list of types is the `Union` over copies of the schema with one type each.
* Objects with properties at component level are `TypedDict`; other objects are mappings from text.
* What is nullable is `Optional`.
-/

namespace ClientGen

/-- A monad in which schemas are converted: they can be read and copied, and are announced. -/
class Converting (ν : Type) (m : Type → Type) extends Reading ν m where
  /-- A copy of a mapping with one `type` and not nullable; its parts are those of the mapping. -/
  retyped : ν → ν → m ν
  /-- Announces a schema that is about to be read. -/
  enter : ν → m Unit
  /-- Announces the type of a schema, and yields it as plugins left it. -/
  leave : ν → Expr → m Expr

export Converting (retyped enter leave)

namespace SchemaType

/-- Entries of a schema for one of the types that it lists. -/
def retypedEntries {ν : Type} (entries : List (Atom × ν)) (type notNullable : ν) :
    List (Atom × ν) :=
  Entries.put (Entries.put entries (.text "type") type) (.text "nullable") notNullable

instance : Converting Value (Except Fault) where
  retyped schema type :=
    match schema with
    | .map entries => .ok (.map (retypedEntries entries type (.bool false)))
    | other => .ok other
  enter _ := .ok ()
  leave _ type := .ok type

/-- A conversion that goes deeper than any finite document asks for. -/
def tooDeep : Fault := .raised (.other "RecursionError") "maximum recursion depth exceeded"

/-- The component that a reference names, if any; only text can be a reference. -/
def component? {ν : Type} : Shape ν → Except Fault (Option String)
  | .atom (.text ref) => .ok (Reference.componentName? ref)
  | .atom (.bytes _) => .error .wrongType
  | _ => .error .noMember

/-- The type of a type that its name alone decides. -/
def primitive? : String → Option String
  | "string" => some "str"
  | "integer" => some "int"
  | "number" => some "float"
  | "boolean" => some "bool"
  | _ => none

/-- What a schema states as its single type. -/
inductive Kind where
  | unstated
  | named (name : String)
  /-- A value that names no type. -/
  | strange
  deriving DecidableEq, Repr

/-- The kind that the first of the stated types gives; containers cannot be looked up. -/
def kindOf {ν : Type} : Option (Shape ν) → Except Fault Kind
  | none => .ok .unstated
  | some (.atom .null) => .ok .unstated
  | some (.atom (.text s)) => .ok (.named s)
  | some (.atom _) => .ok .strange
  | some (.tuple _) => .ok .strange
  | some _ => .error .wrongType

section

variable {ν : Type} {m : Type → Type} [Monad m] [MonadExceptOf Fault m] [Converting ν m]

/-- The shapes of several nodes. -/
def shapes : List ν → m (List (ν × Shape ν))
  | [] => pure []
  | node :: rest => do
    let first ← shape node
    return (node, first) :: (← shapes rest)

/-- The entries of a mapping; of any other node, none. -/
def entriesOf (node : ν) : m (List (Atom × ν)) := do
  match ← shape node with
  | .map entries => pure entries
  | _ => pure []

/-- The items under a key of a schema, if a list stands there. -/
def listOf (schema : ν) (key : String) : m (Option (List ν)) := do
  match Entries.field? (← entriesOf schema) key with
  | none => pure none
  | some node =>
    match ← shape node with
    | .list items => pure (some items)
    | _ => pure none

/-- The reference of what should be a schema. What is no mapping has none, and cannot be read
further. -/
def reference? (schema : ν) : m (Option ν) := do
  match ← shape schema with
  | .map entries => pure (Entries.field? entries "$ref")
  | .list items => throw (← complaint items)
  | .tuple items => throw (← complaint items)
  | .set members =>
    throw (if members.any (·.same (.text "$ref")) then .wrongType else .noMember)
  | .atom (.text s) => throw (if Text.contains s "$ref" then .wrongType else .noMember)
  | .atom _ => throw .wrongType
where
  /-- A sequence is asked for a reference that it seems to hold, or else for an entry. -/
  complaint (items : List ν) : m Fault := do
    return if (← shapes items).any (·.2.isText "$ref") then .wrongType else .noMember

/-- What a schema says about its types: whether it admits null, and the types other than null. A
schema of the null type alone is settled by that. -/
inductive Typing (ν : Type) where
  | nullOnly
  | types (nullable : Bool) (types : List ν)

/-- Reads `nullable` and `type`. -/
def typing (schema : ν) : m (Typing ν) := do
  let entries ← entriesOf schema
  let nullable ← isTrue (Entries.field? entries "nullable")
  match Entries.field? entries "type" with
  | none => pure (.types nullable [])
  | some type =>
    match ← shape type with
    | .list items =>
      let listed ← shapes items
      let isNullName (s : Shape ν) : Bool := s.isText "null"
      let others := listed.filter fun item => !isNullName item.2
      pure (.types (nullable || listed.any fun item => isNullName item.2) (others.map (·.1)))
    | .atom (.text "null") => pure .nullOnly
    | .atom (.text _) => pure (.types nullable [type])
    | _ => pure (.types nullable [])

/-- The enumerated values other than null, if the schema enumerates. -/
def enumerated (schema : ν) : m (List ν) := do
  match ← listOf schema "enum" with
  | none => pure []
  | some items =>
    return ((← shapes items).filter fun item => !item.2.isNull).map (·.1)

/-- Whether the enumerated values include null. -/
def enumeratesNull (schema : ν) : m Bool := do
  match ← listOf schema "enum" with
  | none => pure false
  | some items => return (← shapes items).any fun item => item.2.isNull

/-- The trees below several nodes. -/
def wholes : List ν → m (List Value)
  | [] => pure []
  | node :: rest => do
    let first ← whole node
    return first :: (← wholes rest)

/-- A literal type over values. -/
def literalType (values : List Value) : Expr :=
  .index "Literal" (values.map .constant)

/-- One member, or the union of several. -/
def unionType : List Expr → Expr
  | [single] => single
  | members => .index "Union" members

/-- The only member, or else a mapping: what several schemas have in common is not worked out. -/
def intersectionType : List Expr → Expr
  | [single] => single
  | _ => .mappingTo .anything

/-- What a schema with at most one type is: properties make an object of one that states no type. -/
def kind (schema : ν) (types : List ν) : m Kind := do
  let stated ← match types with
    | [] => pure none
    | type :: _ => some <$> shape type
  match ← lift (kindOf stated) with
  | .unstated =>
    let entries ← entriesOf schema
    pure (if (Entries.field? entries "properties").isSome then .named "object" else .unstated)
  | kind => pure kind

/-- The type of a type that is neither array nor object. -/
def primitiveType (schema : ν) (type : String) : m Expr := do
  let format ← shapeOrNull (Entries.field? (← entriesOf schema) "format")
  if type = "string" && format.isText "binary" then pure (.name "bytes")
  else pure ((primitive? type).elim .anything .name)

/-- The members of a schema's `oneOf` or `anyOf`: the first of the two with a member. -/
def alternatives (schema : ν) : m (Option ν) := do
  let entries ← entriesOf schema
  let oneOf ← listOf schema "oneOf"
  if oneOf.any (!·.isEmpty) then pure (Entries.field? entries "oneOf")
  else
    let anyOf ← listOf schema "anyOf"
    if anyOf.any (!·.isEmpty) then pure (Entries.field? entries "anyOf") else pure none

/-- The node under `allOf` if it is a list with a member. -/
def conjuncts (schema : ν) : m (Option ν) := do
  let allOf ← listOf schema "allOf"
  if allOf.any (!·.isEmpty) then pure (Entries.field? (← entriesOf schema) "allOf") else pure none

/-- Copies of a schema, one for each of several types. -/
def copies (schema : ν) : List ν → m (List ν)
  | [] => pure []
  | type :: rest => do
    let first ← retyped schema type
    return first :: (← copies schema rest)

/-- The names that a schema requires. -/
def requiredNames (schema : ν) : m (List Value) := do
  lift (Value.toSetOrEmpty? (← wholeOf (Entries.field? (← entriesOf schema) "required")))

/-- The properties of an object schema, if it is to become a type of its own. -/
def declaredProperties (name : Option String) (schema : ν) : m (Option (List (Atom × ν))) := do
  if name.isNone then pure none
  else
    match Entries.field? (← entriesOf schema) "properties" with
    | none => pure none
    | some properties =>
      match ← shape properties with
      | .map entries => pure (if entries.isEmpty then none else some entries)
      | _ => pure none

/-- The schema of additional properties, if it is a mapping that says something. -/
def additional (schema : ν) : m (Option ν) := do
  match Entries.field? (← entriesOf schema) "additionalProperties" with
  | none => pure none
  | some node =>
    match ← shape node with
    | .map entries => pure (if entries.isEmpty then none else some node)
    | _ => pure none

/-- The typed mapping with the given entries. -/
def typedMapping (name : String) (entries : List (Expr × Expr)) : Expr :=
  .call "TypedDict" [.text (Naming.typeName name), .dict entries]
    [("total", .constant (.bool false))]

mutual

/-- The type of a schema; what is no mapping admits everything and is not announced. -/
def convert (document : ν) : Nat → Option String → ν → m Expr
  | 0, _, _ => throw tooDeep
  | fuel + 1, name, schema => do
    if (← shape schema).isMap then
      enter schema
      let type ← unannounced document fuel name schema
      leave schema type
    else pure .anything

/-- The type of a schema that has been announced, or is not to be announced. -/
def unannounced (document : ν) : Nat → Option String → ν → m Expr
  | 0, _, _ => throw tooDeep
  | fuel + 1, name, schema => do
    match ← reference? schema with
    | some target =>
      match ← lift (component? (← shape target)) with
      | some component => pure (.text (Naming.typeName component))
      | none => unannounced document fuel name (← Reference.deref schema document)
    | none =>
      match ← typing schema with
      | .nullOnly => pure (.constant .null)
      | .types nullable types =>
        let type ← shaped document fuel name schema types
        if nullable || (← enumeratesNull schema) then pure (.optional type)
        else pure type

/-- The type of a schema as far as null is left out of account. -/
def shaped (document : ν) : Nat → Option String → ν → List ν → m Expr
  | 0, _, _, _ => throw tooDeep
  | fuel + 1, name, schema, types => do
    let values ← enumerated schema
    if !values.isEmpty then return literalType (← wholes values)
    if let some value := Entries.field? (← entriesOf schema) "const" then
      return literalType [← whole value]
    if let some members ← alternatives schema then
      return unionType (← convertItems document fuel members 0)
    if let some members ← conjuncts schema then
      return intersectionType (← convertItems document fuel members 0)
    if 1 < types.length then
      return unionType (← convertCopies document fuel (← copies schema types))
    match ← kind schema types with
    | .named "array" =>
      match Entries.field? (← entriesOf schema) "items" with
      | some items => return .index "list" [← convert document fuel none items]
      | none => pure (.index "list" [.anything])
    | .named "object" =>
      match ← declaredProperties name schema with
      | some properties =>
        let required ← requiredNames schema
        let entries ← convertProperties document fuel required properties
        pure (typedMapping (name.getD "") entries)
      | none =>
        match ← additional schema with
        | some values => return .mappingTo (← convert document fuel none values)
        | none => pure (.mappingTo .anything)
    | .named type => return ← primitiveType schema type
    | _ => pure .anything

/-- The types of the items of a list from an index on. The list is looked at anew for every
item, so that items which are added on the way count. -/
def convertItems (document : ν) : Nat → ν → Nat → m (List Expr)
  | 0, _, _ => throw tooDeep
  | fuel + 1, list, index => do
    match ← shape list with
    | .list items =>
      match items[index]? with
      | some item =>
        let first ← convert document fuel none item
        return first :: (← convertItems document fuel list (index + 1))
      | none => pure []
    | _ => pure []

/-- The types of schemas that are not announced. -/
def convertCopies (document : ν) : Nat → List ν → m (List Expr)
  | 0, _ => throw tooDeep
  | _ + 1, [] => pure []
  | fuel + 1, schema :: rest => do
    let first ← unannounced document fuel none schema
    return first :: (← convertCopies document fuel rest)

/-- The entries of a typed mapping; required ones are marked. -/
def convertProperties (document : ν) :
    Nat → List Value → List (Atom × ν) → m (List (Expr × Expr))
  | 0, _, _ => throw tooDeep
  | _ + 1, _, [] => pure []
  | fuel + 1, required, (name, schema) :: rest => do
    let type ← convert document fuel none schema
    let marked := if required.any (Value.same (.atom name)) then .index "Required" [type]
      else type
    return (.constant (.atom name), marked) :: (← convertProperties document fuel required rest)

end

end

/-- Steps that suffice for every schema of a document without endless references. -/
def budget (document schema : Value) : Nat :=
  (document.size + schema.size + 4) * (document.size + schema.size + 4)

/-- The type of a schema where no plugin takes part. -/
def ofSchema (document : Value) (name : Option String) (schema : Value) : Except Fault Expr :=
  convert document (budget document schema) name schema

end SchemaType

end ClientGen
