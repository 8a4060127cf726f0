import ClientGen.Proofs.Generation.Module
import ClientGen.Proofs.Operation.Annotations
import ClientGen.Proofs.Reference
import ClientGen.Proofs.Sameness

/-!
Closure of references. The annotations of a module mention other types by text. Where a run without plugins
meets only references that can be followed, every such text is the identifier of a type of the module, except
that of a reference that leads further than to a component (`references_closed_iff`).
-/

namespace ClientGen

/-- The types that a statement states. -/
def Statement.annotations : Statement → List Expr
  | assign _ value => [value]
  | define function => function.annotations
  | _ => []

namespace Generation

open Run SchemaType

/-- The names of types that statements mention by text. -/
def forwardRefs (statements : List Statement) : List String :=
  (statements.flatMap Statement.annotations).flatMap Expr.forwardRefs

/-- A schema that a type of the module is made from, with the name of its own that the type gets. -/
inductive Root (document : Value) (settings : Settings) : Option String × Value → Prop
  | component {key schema} (listed : (key, schema) ∈ componentsOf document) :
    Root document settings (some (Value.atom key).displayed, schema)
  | operation {visit schema} (selected : IsSelected document settings (pathsOf document) visit)
    (asks : Operation.Asks document visit.operation visit.item schema) : Root document settings (none, schema)

/-- The module is made from a reference that names a component. -/
def MentionedIn (document : Value) (settings : Settings) (ref component : String) : Prop :=
  ∃ place, Root document settings place ∧ Mentions document place ref component

private theorem forwardRefs_append (first second : List Statement) :
    forwardRefs (first ++ second) = forwardRefs first ++ forwardRefs second := by
  simp [forwardRefs]

private theorem forwardRefs_headOf (defaults servers : List (Expr × Expr)) :
    forwardRefs (headOf defaults servers) = [] := rfl

/-- The types of component schemas mention what the schemas mention. -/
private theorem mem_forwardRefs_types {document : Value} {entries : List (Atom × Value)} {parts : List (String × Expr)}
    (converted : List.Forall₂ (IsComponentType document) entries parts) (s : String) :
    s ∈ forwardRefs (parts.map fun part => .assign part.1 part.2) ↔
      ∃ key schema, (key, schema) ∈ entries ∧ NamesOf document (some (Value.atom key).displayed, schema) s := by
  induction converted with
  | nil => simp [forwardRefs]
  | @cons entry part entries parts first _ ih =>
    obtain ⟨key, schema⟩ := entry
    obtain ⟨name, shown, -, typed⟩ := first
    obtain rfl := displayed_of_shown shown
    have here := SchemaType.forwardRefs_iff (converts_of_ofSchema typed) s
    have split : s ∈ forwardRefs ((part :: parts).map fun part => .assign part.1 part.2) ↔
        s ∈ part.2.forwardRefs ∨ s ∈ forwardRefs (parts.map fun part => .assign part.1 part.2) := List.mem_append
    rw [split, here, ih]
    constructor
    · rintro (names | ⟨key', schema', member, names⟩)
      · exact ⟨key, schema, List.mem_cons_self, names⟩
      · exact ⟨key', schema', List.mem_cons_of_mem _ member, names⟩
    · rintro ⟨key', schema', member, names⟩
      rcases List.mem_cons.mp member with same | later
      · cases same
        exact .inl names
      · exact .inr ⟨key', schema', later, names⟩

/-- The functions of operations mention what the schemas mention that the operations ask for. -/
private theorem mem_forwardRefs_functions {document : Value} {taken : List String} {visits : List Visit}
    {functions : List Function} (converted : Converted document taken visits functions) (s : String) :
    s ∈ forwardRefs (functions.map .define) ↔ ∃ visit ∈ visits, ∃ schema,
      Operation.Asks document visit.operation visit.item schema ∧ NamesOf document (none, schema) s := by
  induction converted with
  | nil => simp [forwardRefs]
  | @cons taken visit function visits functions first _ ih =>
    have here := Operation.annotations_mention first s
    have split : s ∈ forwardRefs ((function :: functions).map .define) ↔
        (∃ type ∈ function.annotations, s ∈ type.forwardRefs) ∨ s ∈ forwardRefs (functions.map .define) := by
      rw [List.map_cons, ← List.singleton_append, forwardRefs_append, List.mem_append]
      simp [forwardRefs, Statement.annotations]
    rw [split, here, ih]
    simp

/-- A module mentions by text exactly the identifiers of the components that it refers to. -/
theorem mem_forwardRefs_module {document : Value} {world later : World} {outcome : Outcome}
    (done : on (plain document) { world with draft := {} } = (.ok outcome, later)) (s : String) :
    s ∈ forwardRefs later.draft.toList ↔
      ∃ ref component, MentionedIn document world.settings ref component ∧ s = Naming.typeName component := by
  obtain ⟨defaults, servers, parts, visits, functions, extended, converted, -, selects, isConverted, -⟩ :=
    plain_generated done
  rw [extended.toList, forwardRefs_append, forwardRefs_append, forwardRefs_headOf, List.nil_append, List.mem_append,
    mem_forwardRefs_types converted, mem_forwardRefs_functions isConverted]
  constructor
  · rintro (⟨key, schema, listed, ref, component, mentions, named⟩ |
      ⟨visit, isVisit, schema, asks, ref, component, mentions, named⟩)
    · exact ⟨ref, component, ⟨_, .component listed, mentions⟩, named⟩
    · exact ⟨ref, component, ⟨_, .operation ((selects visit).mp isVisit) asks, mentions⟩, named⟩
  · rintro ⟨ref, component, ⟨_, root, mentions⟩, named⟩
    cases root with
    | component listed => exact .inl ⟨_, _, listed, ref, component, mentions, named⟩
    | operation selected asks =>
      exact .inr ⟨_, (selects _).mpr selected, _, asks, ref, component, mentions, named⟩

/-- A component is listed if a reference leads to it and no further. -/
theorem identifier_of_resolved {document found : Value} {ref component : String}
    (listed : ∀ v, schemasOf document = some v → v.truthy = true → v.shape.isMap = true)
    (named : Reference.componentName? ref = some component) (flat : ¬ Reference.IsDeep ref)
    (resolved : (Reference.resolve ref document : Except Fault Value) = .ok found) :
    Naming.typeName component ∈ (componentsOf document).map identifierOf := by
  obtain ⟨schemas, isSchemas, holds, under⟩ := Reference.resolve_component_ok named flat resolved
  have isMap := listed schemas isSchemas holds
  have isFound := under isMap
  have inPlace : componentsOf document = entriesIn (some schemas) := congrArg entriesIn isSchemas
  rw [inPlace]
  cases schemas with
  | map entries =>
    obtain ⟨⟨key, schema⟩, isEntry, -⟩ := Option.map_eq_some_iff.mp isFound
    have member := List.mem_of_find?_eq_some isEntry
    have same := List.find?_some isEntry
    rw [Atom.same_text, decide_eq_true_iff] at same
    obtain rfl := same
    exact List.mem_map.mpr ⟨_, member, rfl⟩
  | _ => cases isMap

/-- The types of a module are those of the component schemas. If every reference that names a component can be
followed, then all texts in the annotations of the module are among them exactly if this holds of the references
that lead further than to a component. -/
theorem references_closed_iff {document : Value} {world later : World} {outcome : Outcome}
    (done : on (plain document) { world with draft := {} } = (.ok outcome, later))
    (resolves : ∀ ref component, MentionedIn document world.settings ref component →
      ∃ found, (Reference.resolve ref document : Except Fault Value) = .ok found) :
    outcome.types = (componentsOf document).map identifierOf ∧
      ((∀ s ∈ forwardRefs later.draft.toList, s ∈ outcome.types) ↔
        ∀ ref component, MentionedIn document world.settings ref component → Reference.IsDeep ref →
          ∃ entry ∈ componentsOf document, identifierOf entry = Naming.typeName component) := by
  obtain ⟨_, _, _, _, _, -, converted, types, -, -, -, listed⟩ := plain_generated done
  rw [identifiers_of_parts converted] at types
  refine ⟨types, ?_⟩
  simp only [types, ← List.mem_map]
  constructor
  · intro closed ref component mentioned _
    exact closed _ ((mem_forwardRefs_module done _).mpr ⟨ref, component, mentioned, rfl⟩)
  · intro deep s member
    obtain ⟨ref, component, mentioned, rfl⟩ := (mem_forwardRefs_module done s).mp member
    by_cases isDeep : Reference.IsDeep ref
    · exact deep ref component mentioned isDeep
    · obtain ⟨found, resolved⟩ := resolves ref component mentioned
      obtain ⟨_, -, _, -, _, -, -, named⟩ := mentioned
      exact identifier_of_resolved listed named isDeep resolved

/-- A document with a component schema that has one property, and another one that is a reference. -/
def petOwner (ref : String) : Value :=
  .ofFields [("components", .ofFields [("schemas", .ofFields
    [("Pet", .ofFields [("properties", .ofFields [("name", .map [])])]), ("Owner", .ofFields [("$ref", .text ref)])])])]

/-- The document mentions nothing but what its reference names. -/
private theorem mentionedIn_petOwner {settings : Settings} {ref component stated : String} {named : String}
    (names : Reference.componentName? stated = some named)
    (mentioned : MentionedIn (petOwner stated) settings ref component) : ref = stated := by
  obtain ⟨place, root, mentions⟩ := mentioned
  cases root with
  | component listed =>
    rcases List.mem_cons.mp listed with pet | owner
    · cases pet
      obtain ⟨inner, shown, mentions⟩ := (mentions_formed rfl rfl rfl).mp mentions
      obtain rfl := List.mem_singleton.mp shown
      obtain ⟨_, ⟨⟩, -⟩ := (mentions_formed rfl rfl rfl).mp mentions
    · cases List.mem_singleton.mp owner
      have target : component? (Value.text stated).shape = .ok (some named) := component?_ok.mpr ⟨stated, rfl, names⟩
      obtain ⟨⟨rfl⟩, -⟩ := (mentions_component rfl target).mp mentions
      rfl
  | operation selected =>
    obtain ⟨_, _, _, ⟨⟩, -⟩ := selected

theorem references_closed_pet_owner : ∃ outcome later,
    on (plain (petOwner "#/components/schemas/Pet")) { ({} : World) with draft := {} } = (.ok outcome, later) ∧
      ∀ s ∈ forwardRefs later.draft.toList, s ∈ outcome.types := by
  obtain ⟨outcome, later, done⟩ : ∃ outcome later,
      on (plain (petOwner "#/components/schemas/Pet")) { ({} : World) with draft := {} } = (.ok outcome, later) :=
    succeeds_of_isSome (by decide +kernel)
  have only : ∀ ref component, MentionedIn (petOwner "#/components/schemas/Pet") ({} : World).settings ref component →
      ref = "#/components/schemas/Pet" := fun _ _ => mentionedIn_petOwner rfl
  have flat : ¬ Reference.IsDeep "#/components/schemas/Pet" := by
    rintro ⟨rest, isRest, slash⟩
    cases isRest
    exact absurd slash (by decide)
  refine ⟨outcome, later, done, (references_closed_iff done ?_).2.mpr ?_⟩
  · intro ref component mentioned
    rw [only ref component mentioned]
    exact ⟨_, rfl⟩
  · intro ref component mentioned isDeep
    rw [only ref component mentioned] at isDeep
    exact absurd isDeep flat

/-- A reference into a component schema leaves a text that is the identifier of no type. -/
theorem reference_into_component :
    ¬ ∀ (document : Value) (world later : World) (outcome : Outcome),
      on (plain document) { world with draft := {} } = (.ok outcome, later) →
      (∀ ref component, MentionedIn document world.settings ref component →
        ∃ found, (Reference.resolve ref document : Except Fault Value) = .ok found) →
      ∀ s ∈ forwardRefs later.draft.toList, s ∈ outcome.types := by
  intro always
  let document := petOwner "#/components/schemas/Pet/properties/name"
  obtain ⟨outcome, later, done⟩ : ∃ outcome later,
      on (plain document) { ({} : World) with draft := {} } = (.ok outcome, later) :=
    succeeds_of_isSome (by decide +kernel)
  have closed := always document {} later outcome done fun ref component mentioned => by
    rw [mentionedIn_petOwner rfl mentioned]
    exact ⟨_, rfl⟩
  have mentioned : "PetPropertiesName" ∈ forwardRefs
      (on (plain document) { ({} : World) with draft := {} }).2.draft.toList := by decide +kernel
  have types : (on (plain document) { ({} : World) with draft := {} }).1.toOption.map Outcome.types =
      some ["Pet", "Owner"] := by decide +kernel
  rw [done] at mentioned types
  have isType := closed _ mentioned
  rw [Option.some.inj types] at isType
  exact absurd isType (by decide)

end Generation

end ClientGen
