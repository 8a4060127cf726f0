import ClientGen.Proofs.Schema.Form
import ClientGen.Proofs.Size

/-!
What schemas and types mean. A value of JSON is valid for a schema by the keywords that conversion reads
(`Valid`), and it inhabits a type expression or not (`Inhabits`). The two meanings know nothing of each other,
except that both go by what a constant of a document stands for (`Value.Denotes`).
-/

namespace ClientGen

/-- A value of JSON. Numbers are what they amount to, so that `1` and `1.0` are one value. -/
inductive JsonValue where
  | null
  | bool (b : Bool)
  | number (q : Rat)
  | text (s : String)
  | array (items : List JsonValue)
  | object (members : List (String × JsonValue))

/-- A value of JSON is of a type by its name in schemas. A number may be an integer as well. -/
def JsonValue.IsOf : JsonValue → String → Prop
  | null, name => name = "null"
  | bool _, name => name = "boolean"
  | number q, name => name = "number" ∨ (name = "integer" ∧ ∃ n : Int, q = n)
  | text _, name => name = "string"
  | array _, name => name = "array"
  | object _, name => name = "object"

namespace Value

mutual

/-- What a value of a document stands for in JSON. The order of entries is of no account. -/
def Denotes : Value → JsonValue → Prop
  | .null, .null => True
  | .bool b, .bool c => b = c
  | .int n, .number q => (n : Rat) = q
  | .float x, .number q => ∃ num den, x.toRatio? = some (num, den) ∧ (num : Rat) / (den : Rat) = q
  | .text s, .text t => s = t
  | .list items, .array values => DenotesItems items values
  | .map entries, .object members => entries.length = members.length ∧ DenotesEntries entries members
  | _, _ => False

def DenotesItems : List Value → List JsonValue → Prop
  | [], [] => True
  | v :: rest, w :: others => Denotes v w ∧ DenotesItems rest others
  | _, _ => False

def DenotesEntries : List (Atom × Value) → List (String × JsonValue) → Prop
  | [], _ => True
  | (key, v) :: rest, members =>
    (∃ member ∈ members, key = .text member.1 ∧ Denotes v member.2) ∧ DenotesEntries rest members

end

theorem denotes_null {w : JsonValue} : Denotes .null w ↔ w = .null := by
  cases w <;> simp [Denotes]

end Value

namespace SchemaType

/-- A value is of the type that a schema states, or of one of the types that it lists. Only texts name types. -/
def HasStatedType (entries : List (Atom × Value)) (v : JsonValue) : Prop :=
  match Entries.field? entries "type" with
  | none => True
  | some (.text name) => v.IsOf name
  | some (.list names) => ∃ name, .text name ∈ names ∧ v.IsOf name
  | some _ => False

/-- The properties that an object schema declares. -/
def declaredIn (entries : List (Atom × Value)) : List (Atom × Value) :=
  match Entries.field? entries "properties" with
  | some (.map properties) => properties
  | _ => []

/-- The names that an object schema requires. -/
def requiredIn (entries : List (Atom × Value)) : List Value :=
  ((Entries.field? entries "required").bind (·.members?.toOption)).getD []

theorem size_lt_of_membersAt {entries : List (Atom × Value)} {key : String} {members : List Value} {member : Value}
    (stated : membersAt entries key = some members) (isMember : member ∈ members) :
    member.size < (Value.map entries).size := by
  have inList := Value.size_le_sizeItems isMember
  have list := Value.size_field? (membersAt_eq_some.mp stated).1
  rw [Value.size] at list
  omega

theorem size_lt_of_declared {entries : List (Atom × Value)} {property : Atom × Value}
    (declared : property ∈ declaredIn entries) : property.2.size < (Value.map entries).size := by
  unfold declaredIn at declared
  split at declared
  · rename_i properties stated
    have inEntries := Value.size_le_sizeEntries declared
    have map := Value.size_field? stated
    rw [Value.size] at map
    omega
  · cases declared

/-- A value of JSON is valid for a schema. What is nullable also admits null; of the boolean schemas, false admits
nothing; whatever else is no mapping admits everything. -/
def Valid : Value → JsonValue → Prop
  | .map entries, v =>
    (isNullable entries = true ∧ v = .null) ∨
      (HasStatedType entries v ∧
        (∀ values, listAt entries "enum" = some values → ∃ value ∈ values, value.Denotes v) ∧
        (∀ value, Entries.field? entries "const" = some value → value.Denotes v) ∧
        (∀ members, (_ : membersAt entries "oneOf" = some members) → ∃ i, ∃ _ : i < members.length,
          Valid members[i] v ∧ ∀ j, (_ : j < members.length) → Valid members[j] v → j = i) ∧
        (∀ members, (_ : membersAt entries "anyOf" = some members) → ∃ member, ∃ _ : member ∈ members,
          Valid member v) ∧
        (∀ members, (_ : membersAt entries "allOf" = some members) → ∀ member, (_ : member ∈ members) →
          Valid member v) ∧
        (∀ items, v = .array items → ∀ schema, (_ : Entries.field? entries "items" = some schema) →
          ∀ item ∈ items, Valid schema item) ∧
        ∀ members, v = .object members →
          (∀ property, (_ : property ∈ declaredIn entries) → ∀ member ∈ members, property.1 = .text member.1 →
            Valid property.2 member.2) ∧
          (∀ name ∈ requiredIn entries, ∃ member ∈ members, name = .text member.1) ∧
          ∀ schema, (_ : Entries.field? entries "additionalProperties" = some schema) → ∀ member ∈ members,
            (∀ property ∈ declaredIn entries, property.1 ≠ .text member.1) → Valid schema member.2)
  | .bool allowed, _ => allowed = true
  | _, _ => True
termination_by schema => schema.size
decreasing_by
  · exact size_lt_of_membersAt ‹_› (List.getElem_mem _)
  · exact size_lt_of_membersAt ‹_› (List.getElem_mem _)
  · exact size_lt_of_membersAt ‹_› ‹_›
  · exact size_lt_of_membersAt ‹_› ‹_›
  · exact Value.size_field? ‹_›
  · exact size_lt_of_declared ‹_›
  · exact Value.size_field? ‹_›

/-- A value meets each keyword of a schema. -/
structure Meets (entries : List (Atom × Value)) (v : JsonValue) : Prop where
  type : HasStatedType entries v
  enum : ∀ values, listAt entries "enum" = some values → ∃ value ∈ values, value.Denotes v
  const : ∀ value, Entries.field? entries "const" = some value → value.Denotes v
  oneOf : ∀ members, membersAt entries "oneOf" = some members → ∃ i, ∃ _ : i < members.length,
    Valid members[i] v ∧ ∀ j, (_ : j < members.length) → Valid members[j] v → j = i
  anyOf : ∀ members, membersAt entries "anyOf" = some members → ∃ member ∈ members, Valid member v
  allOf : ∀ members, membersAt entries "allOf" = some members → ∀ member ∈ members, Valid member v
  items : ∀ items, v = .array items → ∀ schema, Entries.field? entries "items" = some schema →
    ∀ item ∈ items, Valid schema item
  declared : ∀ members, v = .object members → ∀ property ∈ declaredIn entries, ∀ member ∈ members,
    property.1 = .text member.1 → Valid property.2 member.2
  required : ∀ members, v = .object members → ∀ name ∈ requiredIn entries, ∃ member ∈ members, name = .text member.1
  additional : ∀ members, v = .object members → ∀ schema, Entries.field? entries "additionalProperties" = some schema →
    ∀ member ∈ members, (∀ property ∈ declaredIn entries, property.1 ≠ .text member.1) → Valid schema member.2

theorem valid_map {entries : List (Atom × Value)} {v : JsonValue} :
    Valid (.map entries) v ↔ (isNullable entries = true ∧ v = .null) ∨ Meets entries v := by
  rw [Valid]
  refine or_congr_right ⟨?_, ?_⟩
  · rintro ⟨type, enum, const, oneOf, anyOf, allOf, items, object⟩
    refine ⟨type, enum, const, oneOf, ?_, allOf, items, ?_, ?_, ?_⟩
    · intro members stated
      obtain ⟨member, isMember, valid⟩ := anyOf members stated
      exact ⟨member, isMember, valid⟩
    · exact fun members isObject => (object members isObject).1
    · exact fun members isObject => (object members isObject).2.1
    · exact fun members isObject => (object members isObject).2.2
  · intro meets
    refine ⟨meets.type, meets.enum, meets.const, meets.oneOf, ?_, meets.allOf, meets.items, ?_⟩
    · intro members stated
      obtain ⟨member, isMember, valid⟩ := meets.anyOf members stated
      exact ⟨member, isMember, valid⟩
    · intro members isObject
      exact ⟨meets.declared members isObject, meets.required members isObject, meets.additional members isObject⟩

/-- A value of JSON inhabits a type. A typed mapping says nothing about keys that it does not declare, and demands
only those that it marks. -/
inductive Inhabits : JsonValue → Expr → Prop
  | anything (v : JsonValue) : Inhabits v .anything
  | text (s : String) : Inhabits (.text s) (.name "str")
  | integer (n : Int) : Inhabits (.number n) (.name "int")
  | number (q : Rat) : Inhabits (.number q) (.name "float")
  | bool (b : Bool) : Inhabits (.bool b) (.name "bool")
  | null : Inhabits .null (.constant .null)
  | absent (type : Expr) : Inhabits .null (.optional type)
  | present {v type} (inner : Inhabits v type) : Inhabits v (.optional type)
  | union {v type types} (member : type ∈ types) (inner : Inhabits v type) : Inhabits v (.index "Union" types)
  | literal {v value constants} (listed : .constant value ∈ constants) (denotes : value.Denotes v) :
    Inhabits v (.index "Literal" constants)
  | array {items type} (each : ∀ item ∈ items, Inhabits item type) : Inhabits (.array items) (.index "list" [type])
  | mapping {members type} (each : ∀ member ∈ members, Inhabits member.2 type) :
    Inhabits (.object members) (.mappingTo type)
  | marked {v type} (inner : Inhabits v type) : Inhabits v (.index "Required" [type])
  | record {members entries name options}
    (each : ∀ entry ∈ entries, ∀ member ∈ members, entry.1 = .text member.1 → Inhabits member.2 entry.2)
    (demanded : ∀ entry ∈ entries, (∃ type, entry.2 = .index "Required" [type]) →
      ∃ member ∈ members, entry.1 = .text member.1) :
    Inhabits (.object members) (.call "TypedDict" [name, .dict entries] options)

end SchemaType

end ClientGen
