import ClientGen.Proofs.Schema.Copies
import ClientGen.Proofs.Schema.Rules
import Mathlib.Tactic.FinCases

/-!
Schemas in schemas. Conversion goes from a schema to the schemas that stand in it, or to copies of it
(`within_of_part`). What holds of a schema and of all schemas in it, at any depth, is kept by both steps.
-/

namespace ClientGen.SchemaType

/-- The schemas that stand in a schema. -/
inductive Within (entries : List (Atom × Value)) : Value → Prop
  | member {key members member} (combines : key ∈ ["oneOf", "anyOf", "allOf"])
    (stated : membersAt entries key = some members) (isMember : member ∈ members) : Within entries member
  | items {schema} (stated : Entries.field? entries "items" = some schema) : Within entries schema
  | declared {property} (stated : property ∈ declaredIn entries) : Within entries property.2
  | additional {schema} (stated : Entries.field? entries "additionalProperties" = some schema) : Within entries schema

/-- Something holds of a schema and of all schemas in it, at any depth. -/
inductive Throughout (P : List (Atom × Value) → Prop) : Value → Prop
  | other {schema} (noMap : schema.shape.isMap = false) : Throughout P schema
  | map {entries} (here : P entries) (parts : ∀ part, Within entries part → Throughout P part) :
    Throughout P (.map entries)

variable {entries : List (Atom × Value)} {types : List Value} {P : List (Atom × Value) → Prop}

theorem Throughout.part {part : Value} (throughout : Throughout P (.map entries))
    (within : Within entries part) : Throughout P part := by
  cases throughout with
  | other noMap => cases noMap
  | map _ parts => exact parts part within

theorem Throughout.here (throughout : Throughout P (.map entries)) : P entries := by
  cases throughout with
  | other noMap => cases noMap
  | map here _ => exact here

theorem Throughout.mono {Q : List (Atom × Value) → Prop} {schema : Value} (throughout : Throughout P schema)
    (weaker : ∀ {entries}, P entries → Q entries) : Throughout Q schema := by
  induction throughout with
  | other noMap => exact .other noMap
  | map here _ ih => exact .map (weaker here) ih

/-- The same schemas stand in a copy. -/
theorem within_retyped {type part : Value} : Within (retypedEntries entries type (.bool false)) part →
    Within entries part := by
  intro within
  cases within with
  | member combines stated isMember =>
    refine .member combines ?_ isMember
    rw [← stated, membersAt_retyped] <;> rintro rfl <;> simp at combines
  | items stated => exact .items (by rwa [field?_retyped _ _ (by decide) (by decide)] at stated)
  | declared stated => exact .declared (by rwa [declaredIn_retyped] at stated)
  | additional stated => exact .additional (by rwa [field?_retyped _ _ (by decide) (by decide)] at stated)

theorem Throughout.copy {type : Value} (throughout : Throughout P (.map entries))
    (here : P entries → P (retypedEntries entries type (.bool false))) : Throughout P (retypedTo entries type) :=
  .map (here throughout.here) fun _ within => throughout.part (within_retyped within)

theorem declaredIn_eq {properties : List (Atom × Value)} (declared : entriesAt entries "properties" = some properties) :
    declaredIn entries = properties := by
  rw [declaredIn, (entriesAt_eq_some.mp declared).1]

theorem entriesAt_of_declared {property : Atom × Value} (declared : property ∈ declaredIn entries) :
    entriesAt entries "properties" = some (declaredIn entries) := by
  refine entriesAt_eq_some.mpr ⟨?_, List.ne_nil_of_mem declared⟩
  unfold declaredIn at declared ⊢
  split at declared
  · rename_i properties stated
    exact stated
  · cases declared

/-- The parts of a schema's form stand in the schema, or are copies of it. -/
theorem within_of_part {name : Option String} {form : Form} (formed : formOf name entries types = .ok form)
    {part : Value} (isPart : part ∈ form.parts) :
    Within entries part ∨ ∃ type ∈ types, part = retypedTo entries type := by
  have isFormed := formed_of_formOf formed
  cases isFormed with
  | listed | const | primitive | anything => cases isPart
  | union alternative stated =>
    refine .inl (.member ?_ stated isPart)
    rcases alternative with rfl | rfl <;> decide
  | conjunction stated => exact .inl (.member (by decide) stated isPart)
  | copies =>
    obtain ⟨type, listed, rfl⟩ := List.mem_map.mp isPart
    exact .inr ⟨type, listed, rfl⟩
  | array => exact .inl (.items (Option.mem_toList.mp isPart))
  | record _ _ _ declared =>
    obtain ⟨property, isProperty, rfl⟩ := List.mem_map.mp isPart
    exact .inl (.declared (by rwa [declaredIn_eq declared]))
  | mapping =>
    obtain ⟨values, stated, rfl⟩ := Option.map_eq_some_iff.mp (Option.mem_toList.mp isPart)
    exact .inl (.additional (entriesAt_eq_some.mp stated).1)

/-- What holds throughout a schema holds throughout its parts, if copies keep it. -/
theorem Throughout.of_part {name : Option String} {form : Form} (throughout : Throughout P (.map entries))
    (formed : formOf name entries types = .ok form) {part : Value} (isPart : part ∈ form.parts)
    (copies : ∀ type ∈ types, P entries → P (retypedEntries entries type (.bool false))) : Throughout P part := by
  rcases within_of_part formed isPart with within | ⟨type, listed, rfl⟩
  · exact throughout.part within
  · exact throughout.copy (copies type listed)

/-- A schema that states a type and nothing else. -/
def stating (type : String) : Value := .ofFields [("type", .text type)]

/-- The schema of a list. -/
def listing (items : Value) : Value := .ofFields [("type", .text "array"), ("items", items)]

/-- The schema of an object with a property `a`. -/
def mixing (declared additional : Value) : Value :=
  .ofFields [("type", .text "object"), ("properties", .ofFields [("a", declared)]),
    ("additionalProperties", additional)]

theorem throughout_stating {type : String} (here : P [(.text "type", .text type)]) : Throughout P (stating type) := by
  refine .map here fun part within => ?_
  cases within with
  | member combines stated => fin_cases combines <;> cases stated
  | items stated | declared stated | additional stated => cases stated

theorem throughout_listing {items : Value} (here : P [(.text "type", .text "array"), (.text "items", items)])
    (inside : Throughout P items) : Throughout P (listing items) := by
  refine .map here fun part within => ?_
  cases within with
  | member combines stated => fin_cases combines <;> cases stated
  | items stated =>
    cases stated
    exact inside
  | declared stated | additional stated => cases stated

theorem throughout_mixing {declared additional : Value} (here : P [(.text "type", .text "object"),
      (.text "properties", .ofFields [("a", declared)]), (.text "additionalProperties", additional)])
    (first : Throughout P declared) (second : Throughout P additional) : Throughout P (mixing declared additional) := by
  refine .map here fun part within => ?_
  cases within with
  | member combines stated => fin_cases combines <;> cases stated
  | items stated => cases stated
  | declared stated =>
    cases List.mem_singleton.mp stated
    exact first
  | additional stated =>
    cases stated
    exact second

end ClientGen.SchemaType
