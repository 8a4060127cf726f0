import ClientGen.Proofs.Schema.Nesting

/-!
Steps of conversion. A schema without references converts within a number of steps in proportion to its size, as
long as its lists of names hold texts: a step goes to a part, which is smaller, and a copy is smaller than its
schema by the types that it does not state (`steps_of_part`). The budget of a run allows for more
(`ofSchema_succeeds`).
-/

namespace ClientGen.SchemaType

/-- The types that a schema lists and the names that it requires are texts. -/
structure WellTyped (entries : List (Atom × Value)) : Prop where
  types : ∀ names, Entries.field? entries "type" = some (.list names) → ∀ type ∈ names, ∃ name, type = .text name
  required : ∀ names, Entries.field? entries "required" = some names →
    ∃ texts : List String, names = .list (texts.map .text)

/-- A schema has a type, and a number of steps suffices for it. -/
def Suffices (document : Value) (steps : Nat) (name : Option String) (schema : Value) : Prop :=
  ∃ type, ∀ fuel ≥ steps, (convert document fuel name schema : Except Fault Expr) = .ok type

variable {document : Value} {entries : List (Atom × Value)} {types : List Value} {nullable : Bool}
  {name : Option String}
  {steps : Nat}

theorem Suffices.mono {more : Nat} {schema : Value} (fewer : Suffices document steps name schema)
    (bound : steps ≤ more) : Suffices document more name schema := by
  obtain ⟨type, converted⟩ := fewer
  exact ⟨type, fun fuel enough => converted fuel (Nat.le_trans bound enough)⟩

theorem convertItems_suffices {items rest : List Value} {index : Nat} (isRest : items.drop index = rest)
    (each : ∀ item ∈ rest, Suffices document steps none item) :
    ∃ types, ∀ fuel ≥ steps + rest.length + 1,
      (convertItems document fuel (.list items) index : Except Fault (List Expr)) = .ok types := by
  induction rest generalizing index with
  | nil =>
    refine ⟨[], fun fuel enough => ?_⟩
    obtain ⟨less, rfl⟩ : ∃ less, fuel = less + 1 := ⟨fuel - 1, by omega⟩
    rw [convertItems_list, isRest]
  | cons item rest ih =>
    obtain ⟨type, first⟩ := each item List.mem_cons_self
    have tail : items.drop (index + 1) = rest := by rw [← List.tail_drop, isRest, List.tail_cons]
    obtain ⟨types, others⟩ := ih tail fun item member => each item (List.mem_cons_of_mem _ member)
    refine ⟨type :: types, fun fuel enough => ?_⟩
    rw [List.length_cons] at enough
    obtain ⟨less, rfl⟩ : ∃ less, fuel = less + 1 := ⟨fuel - 1, by omega⟩
    rw [convertItems_list, isRest]
    simp only [first less (by omega), others less (by omega), except_bind_ok, except_pure]

theorem convertCopies_suffices {copies : List Value} (areMaps : ∀ copy ∈ copies, copy.shape.isMap = true)
    (each : ∀ copy ∈ copies, Suffices document steps none copy) :
    ∃ types, ∀ fuel ≥ steps + copies.length + 1,
      (convertCopies document fuel copies : Except Fault (List Expr)) = .ok types := by
  induction copies with
  | nil =>
    refine ⟨[], fun fuel enough => ?_⟩
    obtain ⟨less, rfl⟩ : ∃ less, fuel = less + 1 := ⟨fuel - 1, by omega⟩
    rfl
  | cons copy rest ih =>
    obtain ⟨type, first⟩ := each copy List.mem_cons_self
    obtain ⟨types, others⟩ := ih (fun copy member => areMaps copy (List.mem_cons_of_mem _ member))
      fun copy member => each copy (List.mem_cons_of_mem _ member)
    obtain ⟨inner, rfl⟩ : ∃ inner, copy = .map inner := by
      have isMap := areMaps copy List.mem_cons_self
      cases copy with
      | map inner => exact ⟨inner, rfl⟩
      | _ => cases isMap
    refine ⟨type :: types, fun fuel enough => ?_⟩
    rw [List.length_cons] at enough
    obtain ⟨less, rfl⟩ : ∃ less, fuel = less + 1 := ⟨fuel - 1, by omega⟩
    -- a copy is not announced, which takes a step less
    have unannounced := first (less + 1) (by omega)
    rw [convert_map] at unannounced
    simp only [convertCopies, unannounced, others less (by omega), except_bind_ok, except_pure]

theorem convertProperties_suffices (required : List Value) {properties : List (Atom × Value)}
    (each : ∀ property ∈ properties, Suffices document steps none property.2) :
    ∃ entries, ∀ fuel ≥ steps + properties.length + 1,
      (convertProperties document fuel required properties : Except Fault (List (Expr × Expr))) = .ok entries := by
  induction properties with
  | nil =>
    refine ⟨[], fun fuel enough => ?_⟩
    obtain ⟨less, rfl⟩ : ∃ less, fuel = less + 1 := ⟨fuel - 1, by omega⟩
    rfl
  | cons property rest ih =>
    obtain ⟨key, schema⟩ := property
    obtain ⟨type, first⟩ := each (key, schema) List.mem_cons_self
    obtain ⟨entries, others⟩ := ih fun property member => each property (List.mem_cons_of_mem _ member)
    refine ⟨recordEntry required key type :: entries, fun fuel enough => ?_⟩
    rw [List.length_cons] at enough
    obtain ⟨less, rfl⟩ : ∃ less, fuel = less + 1 := ⟨fuel - 1, by omega⟩
    simp only [convertProperties, first less (by omega), others less (by omega), except_bind_ok, except_pure,
      recordEntry]

/-- Enough steps for the parts of a form, and one for each of them, are enough for its type. -/
theorem build_suffices {form : Form} (formed : formOf name entries types = .ok form)
    (each : ∀ part ∈ form.parts, Suffices document steps none part) :
    ∃ type, ∀ fuel ≥ steps + form.parts.length + 1, form.build document fuel name = .ok type := by
  cases form with
  | literals values => exact ⟨_, fun _ _ => rfl⟩
  | union members =>
    obtain ⟨types, converted⟩ := convertItems_suffices (List.drop_zero (l := members)) each
    exact ⟨unionType types, fun fuel enough => by rw [Form.build, converted fuel enough, except_map_ok]⟩
  | conjunction members =>
    obtain ⟨types, converted⟩ := convertItems_suffices (List.drop_zero (l := members)) each
    exact ⟨intersectionType types, fun fuel enough => by rw [Form.build, converted fuel enough, except_map_ok]⟩
  | copies members =>
    have areMaps : ∀ copy ∈ members, copy.shape.isMap = true := by
      have isFormed := formed_of_formOf formed
      cases isFormed with
      | copies =>
        intro copy member
        obtain ⟨type, -, rfl⟩ := List.mem_map.mp member
        rfl
    obtain ⟨types, converted⟩ := convertCopies_suffices areMaps each
    exact ⟨unionType types, fun fuel enough => by rw [Form.build, converted fuel enough, except_map_ok]⟩
  | array items =>
    cases items with
    | none => exact ⟨_, fun _ _ => rfl⟩
    | some schema =>
      obtain ⟨type, converted⟩ := each schema (List.mem_singleton_self _)
      exact ⟨.index "list" [type], fun fuel enough => by rw [Form.build, converted fuel (by omega), except_map_ok]⟩
  | record required properties =>
    obtain ⟨entries, converted⟩ := convertProperties_suffices required fun property member =>
      each property.2 (List.mem_map_of_mem member)
    refine ⟨typedMapping (name.getD "") entries, fun fuel enough => ?_⟩
    have enough' : fuel ≥ steps + properties.length + 1 := by simpa [Form.parts] using enough
    rw [Form.build, converted fuel enough', except_map_ok]
  | mapping values =>
    cases values with
    | none => exact ⟨_, fun _ _ => rfl⟩
    | some schema =>
      obtain ⟨type, converted⟩ := each schema (List.mem_singleton_self _)
      exact ⟨.mappingTo type, fun fuel enough => by rw [Form.build, converted fuel (by omega), except_map_ok]⟩
  | simple type => exact ⟨type, fun _ _ => rfl⟩

/-- Three more steps lead from the type of its form to the type of a schema. -/
theorem convert_of_built {form : Form} {fuel : Nat} {type : Expr} (noReference : Entries.field? entries "$ref" = none)
    (typed : typesOf entries = .types nullable types) (formed : formOf name entries types = .ok form)
    (built : form.build document fuel name = .ok type) :
    (convert document (fuel + 3) name (.map entries) : Except Fault Expr) =
      .ok (admitNull (nullable || listsNull entries) type) := by
  rw [convert_map, unannounced_map, noReference]
  simp only [typed]
  rw [shaped_map, formed, except_bind_ok, built, except_map_ok]

/-- Enough steps for the parts of a schema, and some more for their number, are enough for the schema. -/
theorem suffices_of_parts {form : Form} (noReference : Entries.field? entries "$ref" = none)
    (typed : typesOf entries = .types nullable types) (formed : formOf name entries types = .ok form)
    (each : ∀ part ∈ form.parts, Suffices document steps none part) :
    Suffices document (steps + form.parts.length + 4) name (.map entries) := by
  obtain ⟨type, built⟩ := build_suffices formed each
  refine ⟨admitNull (nullable || listsNull entries) type, fun fuel enough => ?_⟩
  obtain ⟨less, rfl⟩ : ∃ less, fuel = less + 3 := ⟨fuel - 3, by omega⟩
  exact convert_of_built noReference typed formed (built less (by omega))

theorem WellTyped.copy (wellTyped : WellTyped entries) (name : String) :
    WellTyped (retypedEntries entries (.text name) (.bool false)) where
  types := by
    rw [type_retyped]
    exact fun _ => nofun
  required := by
    rw [field?_retyped entries _ (by decide) (by decide)]
    exact wellTyped.required

private theorem text_of_typesOf (wellTyped : WellTyped entries) (typed : typesOf entries = .types nullable types) :
    ∀ type ∈ types, ∃ name, type = .text name := by
  intro type listed
  unfold typesOf at typed
  split at typed
  · rename_i names isNames
    cases typed
    exact wellTyped.types names isNames type (List.mem_filter.mp listed).1
  · cases typed
  · rename_i name _ _
    cases typed
    exact ⟨name, List.mem_singleton.mp listed⟩
  · cases typed
    cases listed

private theorem toSetOrEmpty?_texts (texts : List String) :
    ∃ names, Value.toSetOrEmpty? (some (.list (texts.map .text))) = .ok names := by
  simp only [Value.toSetOrEmpty?]
  split
  · refine ⟨texts.map .text, ?_⟩
    have keys : (texts.map Value.text).all Value.isKey = true := by
      rw [List.all_map]
      exact List.all_eq_true.mpr fun _ _ => rfl
    simp only [Value.toSet?, Value.members?, except_bind_ok, keys, ↓reduceIte]
  · exact ⟨[], rfl⟩

/-- Every well-typed schema has a form. -/
theorem formOf_ok (wellTyped : WellTyped entries) (typed : typesOf entries = .types nullable types)
    (name : Option String) : ∃ form, formOf name entries types = .ok form := by
  have isKind : ∃ kind, kindIn entries types = .ok kind := by
    cases types with
    | nil => exact ⟨_, rfl⟩
    | cons type rest =>
      obtain ⟨name, rfl⟩ := text_of_typesOf wellTyped typed type List.mem_cons_self
      exact ⟨.named name, rfl⟩
  have isRequired : ∃ names, Value.toSetOrEmpty? (Entries.field? entries "required") = .ok names := by
    cases stated : Entries.field? entries "required" with
    | none => exact ⟨[], rfl⟩
    | some names =>
      obtain ⟨texts, rfl⟩ := wellTyped.required names stated
      exact toSetOrEmpty?_texts texts
  obtain ⟨kind, isKind⟩ := isKind
  obtain ⟨names, isRequired⟩ := isRequired
  unfold formOf
  split
  · exact ⟨_, rfl⟩
  · split
    · exact ⟨_, rfl⟩
    · exact ⟨_, rfl⟩
    · split
      · exact ⟨_, rfl⟩
      · rw [isKind, except_bind_ok]
        unfold kindForm
        split
        · exact ⟨_, rfl⟩
        · unfold objectForm
          split
          · rw [isRequired, except_bind_ok]
            exact ⟨_, rfl⟩
          · exact ⟨_, rfl⟩
        · exact ⟨_, rfl⟩
        · exact ⟨_, rfl⟩

/-- Several types are listed. -/
theorem listed_of_several (typed : typesOf entries = .types nullable types) (several : 1 < types.length) :
    ∃ names, Entries.field? entries "type" = some (.list names) ∧ types.length ≤ names.length := by
  unfold typesOf at typed
  split at typed
  · rename_i names isNames
    cases typed
    exact ⟨names, isNames, List.length_filter_le _ _⟩
  · cases typed
  · cases typed
    simp at several
  · cases typed
    simp at several

/-- Six steps for each value that a part consists of, with those for the number of parts, are no more than six for
each that the schema consists of. -/
theorem steps_of_part {form : Form} (wellTyped : WellTyped entries) (typed : typesOf entries = .types nullable types)
    (formed : formOf name entries types = .ok form) {part : Value} (isPart : part ∈ form.parts) :
    6 * part.size + form.parts.length + 4 ≤ 6 * (Value.map entries).size := by
  have isFormed := formed_of_formOf formed
  cases isFormed with
  | listed | const | primitive | anything => cases isPart
  | union _ stated | conjunction stated =>
    have whole := Value.size_field? (membersAt_eq_some.mp stated).1
    have inside := Value.size_add_length_le isPart
    simp only [Value.size, Form.parts] at whole inside ⊢
    omega
  | copies several =>
    obtain ⟨type, listed, rfl⟩ := List.mem_map.mp isPart
    obtain ⟨name, rfl⟩ := text_of_typesOf wellTyped typed type listed
    obtain ⟨names, isNames, fewer⟩ := listed_of_several typed several
    have copy : (retypedTo entries (.text name)).size + Value.sizeItems names ≤ (Value.map entries).size + 1 :=
      size_retypedTo isNames (.text name)
    have counted := Value.length_le_sizeItems names
    simp only [Form.parts, List.length_map]
    omega
  | array =>
    have whole := Value.size_field? (Option.mem_toList.mp isPart)
    have one := Option.length_toList_le (o := Entries.field? entries "items")
    simp only [Form.parts]
    omega
  | record _ _ _ declared =>
    have whole := Value.size_field? (entriesAt_eq_some.mp declared).1
    have inside := Value.size_add_length_le isPart
    simp only [Value.size, Form.parts, Value.sizeEntries_eq] at whole inside ⊢
    omega
  | mapping =>
    obtain ⟨values, stated, rfl⟩ := Option.map_eq_some_iff.mp (Option.mem_toList.mp isPart)
    have whole := Value.size_field? (entriesAt_eq_some.mp stated).1
    rw [stated]
    simp only [Form.parts, Option.map_some, Option.toList_some, List.length_singleton]
    omega

/-- A schema without references converts in six steps for each value that it consists of. -/
theorem suffices_of_size {schema : Value} (noReferences : Throughout (Entries.field? · "$ref" = none) schema)
    (wellTyped : Throughout WellTyped schema) (name : Option String) :
    Suffices document (6 * schema.size) name schema := by
  induction size : schema.size using Nat.strongRecOn generalizing schema name with
  | ind n ih =>
    subst size
    cases isMap : schema.shape.isMap with
    | false =>
      refine ⟨.anything, fun fuel enough => ?_⟩
      have := schema.size_pos
      obtain ⟨less, rfl⟩ : ∃ less, fuel = less + 1 := ⟨fuel - 1, by omega⟩
      exact convert_of_not_map name document less isMap
    | true =>
      obtain ⟨entries, rfl⟩ : ∃ entries, schema = .map entries := by
        cases schema <;> simp [Shape.isMap] at isMap ⊢
      have noReference := noReferences.here
      have positive := (Value.map entries).size_pos
      cases typed : typesOf entries with
      | nullOnly =>
        refine ⟨.constant .null, fun fuel enough => ?_⟩
        obtain ⟨less, rfl⟩ : ∃ less, fuel = less + 2 := ⟨fuel - 2, by omega⟩
        rw [convert_map, unannounced_map, noReference]
        simp only [typed]
      | types nullable types =>
        obtain ⟨form, formed⟩ := formOf_ok wellTyped.here typed name
        have each : ∀ part ∈ form.parts,
            Suffices document (6 * (Value.map entries).size - form.parts.length - 4) none part := by
          intro part isPart
          have bound := steps_of_part wellTyped.here typed formed isPart
          have fewer : Suffices document (6 * part.size) none part := by
            refine ih part.size (by omega) ?_ ?_ none rfl
            · refine noReferences.of_part formed isPart fun type _ here => ?_
              rwa [field?_retyped entries type (by decide) (by decide)]
            · refine wellTyped.of_part formed isPart fun type listed here => ?_
              obtain ⟨name, rfl⟩ := text_of_typesOf here typed type listed
              exact here.copy name
          exact fewer.mono (by omega)
        refine (suffices_of_parts noReference typed formed each).mono ?_
        cases isEmpty : form.parts with
        | nil =>
          rw [List.length_nil]
          omega
        | cons part rest =>
          have bound := steps_of_part wellTyped.here typed formed (isEmpty ▸ List.mem_cons_self)
          rw [isEmpty] at bound
          omega

/-- The budget of a run has six steps for each value that the schema consists of. -/
theorem six_size_le_budget (document schema : Value) : 6 * schema.size ≤ budget document schema := by
  have := document.size_pos
  have := schema.size_pos
  exact Nat.mul_le_mul (by omega) (by omega)

/-- A well-typed schema without references has a type. -/
theorem ofSchema_succeeds {schema : Value} (noReferences : Throughout (Entries.field? · "$ref" = none) schema)
    (wellTyped : Throughout WellTyped schema) (name : Option String) :
    ∃ type, ofSchema document name schema = .ok type := by
  obtain ⟨type, converted⟩ := @suffices_of_size document schema noReferences wellTyped name
  exact ⟨type, converted _ (six_size_le_budget document schema)⟩

end ClientGen.SchemaType
