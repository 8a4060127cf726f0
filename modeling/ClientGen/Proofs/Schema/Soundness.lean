import ClientGen.Proofs.Schema.Steps
import ClientGen.Proofs.Schema.ForwardReference

/-!
Soundness of types. Among schemas without references, what is valid for a schema inhabits its type, at every
schema that conversion meets on its way, unless a schema that becomes a mapping declares properties next to a
schema for all others: the type speaks of all members alike (`Fits`).
-/

namespace ClientGen.SchemaType

/-- A schema is no reference, does not combine several schemas by `allOf`, is not of format `binary`, and states its
types if it speaks of properties. -/
structure Plain (entries : List (Atom × Value)) : Prop where
  noReference : Entries.field? entries "$ref" = none
  single : ∀ members, listAt entries "allOf" = some members → members.length ≤ 1
  noBinary : Entries.field? entries "format" ≠ some (.text "binary")
  typed : (Entries.field? entries "properties").isSome = true ∨
      (Entries.field? entries "additionalProperties").isSome = true → (Entries.field? entries "type").isSome = true

/-- What is valid for a schema inhabits its types. -/
def Admits (schema : Value) (type : Expr) : Prop := ∀ v, Valid schema v → Inhabits v type

/-- The types of a schema in its place admit what is valid for it. -/
def Sound (document : Value) (place : Option String × Value) : Prop :=
  ∀ type, Converts document place.1 place.2 type → Admits place.2 type

/-- A schema becomes a mapping to the type of its additional properties, and declares properties as well. -/
structure Mixed (name : Option String) (entries properties : List (Atom × Value)) (values : Value) : Prop where
  noReference : Entries.field? entries "$ref" = none
  formed : ∃ nullable types, typesOf entries = .types nullable types ∧
    formOf name entries types = .ok (.mapping (some values))
  declared : entriesAt entries "properties" = some properties

/-- Where a schema mixes declared with additional properties, the declared members of its objects inhabit the type of
the additional ones. -/
def Fits (document : Value) (place : Option String × Value) : Prop :=
  ∀ entries properties values type, place.2 = .map entries → Mixed place.1 entries properties values →
    Converts document none values type → ∀ members, Valid place.2 (.object members) →
      ∀ property ∈ properties, ∀ member ∈ members, property.1 = .text member.1 → Inhabits member.2 type

section

variable {entries : List (Atom × Value)} {types : List Value} {nullable : Bool} {v : JsonValue}

theorem Plain.copy (plain : Plain entries) (type : Value) : Plain (retypedEntries entries type (.bool false)) where
  noReference := by
    rw [field?_retyped _ _ (by decide) (by decide)]
    exact plain.noReference
  single := by
    rw [listAt_retyped _ _ (by decide) (by decide)]
    exact plain.single
  noBinary := by
    rw [field?_retyped _ _ (by decide) (by decide)]
    exact plain.noBinary
  typed := fun _ => by rw [type_retyped, Option.isSome_some]

theorem Inhabits.admitNull {type : Expr} (inner : Inhabits v type) (admitted : Bool) :
    Inhabits v (SchemaType.admitNull admitted type) := by
  cases admitted with
  | true => exact .present inner
  | false => exact inner

theorem Inhabits.unionType {types : List Expr} {type : Expr} (member : type ∈ types) (inner : Inhabits v type) :
    Inhabits v (SchemaType.unionType types) := by
  unfold SchemaType.unionType
  split
  · rwa [← List.mem_singleton.mp member]
  · exact .union member inner

private theorem eq_null_of_isOf (isOf : v.IsOf "null") : v = .null := by
  cases v <;> simp_all [JsonValue.IsOf]

/-- A schema of null alone admits nothing else. -/
theorem eq_null_of_nullOnly (typed : typesOf entries = .nullOnly) (valid : Valid (.map entries) v) : v = .null := by
  rcases valid_map.mp valid with ⟨-, isNull⟩ | meets
  · exact isNull
  · have stated := meets.type
    unfold typesOf at typed
    split at typed
    · cases typed
    · rename_i isNull
      rw [HasStatedType, isNull] at stated
      exact eq_null_of_isOf stated
    · cases typed
    · cases typed

/-- What meets a schema that states types is null and admitted, or of one of the types. -/
theorem isOf_of_meets (meets : Meets entries v) (typed : typesOf entries = .types nullable types)
    (states : (Entries.field? entries "type").isSome = true) :
    (v = .null ∧ nullable = true) ∨ ∃ name, .text name ∈ types ∧ v.IsOf name := by
  have stated := meets.type
  unfold typesOf at typed
  unfold HasStatedType at stated
  split at stated
  · rename_i none
    rw [none] at states
    cases states
  · rename_i name isName
    simp only [isName] at typed
    by_cases isNull : name = "null"
    · subst isNull
      cases typed
    · simp only [Typing.types.injEq] at typed
      obtain ⟨-, rfl⟩ := typed
      exact .inr ⟨name, List.mem_singleton_self _, stated⟩
  · rename_i names isNames
    simp only [isNames] at typed
    cases typed
    obtain ⟨name, listed, isOf⟩ := stated
    by_cases isNull : name = "null"
    · subst isNull
      refine .inl ⟨eq_null_of_isOf isOf, ?_⟩
      rw [List.any_eq_true.mpr ⟨_, listed, by decide⟩, Bool.or_true]
    · refine .inr ⟨name, List.mem_filter.mpr ⟨listed, ?_⟩, isOf⟩
      simpa [Shape.isText] using isNull
  · cases stated

private theorem nullable_of_isNullable (typed : typesOf entries = .types nullable types)
    (stated : isNullable entries = true) : nullable = true := by
  unfold typesOf at typed
  split at typed <;> cases typed <;> simp [stated]

private theorem stated_of_types (typed : typesOf entries = .types nullable types) (nonempty : types ≠ []) :
    (Entries.field? entries "type").isSome = true := by
  cases stated : Entries.field? entries "type" with
  | none =>
    simp only [typesOf, stated] at typed
    cases typed
    exact absurd rfl nonempty
  | some => rfl

/-- What meets a schema of one kind is null and admitted, or of this kind. -/
theorem isOf_of_kind (plain : Plain entries) (meets : Meets entries v) (typed : typesOf entries = .types nullable types)
    (single : types.length ≤ 1) {kind : String} (isKind : kindIn entries types = .ok (.named kind)) :
    (v = .null ∧ nullable = true) ∨ v.IsOf kind := by
  cases types with
  | nil =>
    have declares : (Entries.field? entries "properties").isSome = true := by
      by_contra none
      simp [kindIn, kindOf, none] at isKind
    rcases isOf_of_meets meets typed (plain.typed (.inl declares)) with isNull | ⟨_, ⟨⟩, -⟩
    exact .inl isNull
  | cons type rest =>
    rcases isOf_of_meets meets typed (stated_of_types typed (List.cons_ne_nil _ _)) with isNull | ⟨name, listed, isOf⟩
    · exact .inl isNull
    · obtain rfl : rest = [] := by simpa using single
      obtain rfl := List.mem_singleton.mp listed
      cases isKind
      exact .inr isOf

/-- What a typed mapping takes to be required is required. -/
theorem mem_requiredIn {required : List Value} {name : Value}
    (listed : Value.toSetOrEmpty? (Entries.field? entries "required") = .ok required) (member : name ∈ required) :
    name ∈ requiredIn entries := by
  unfold requiredIn
  cases stated : Entries.field? entries "required" with
  | none =>
    rw [stated] at listed
    cases listed
    cases member
  | some names =>
    rw [stated] at listed
    simp only [Value.toSetOrEmpty?] at listed
    split at listed
    · obtain ⟨members, isMembers, listed⟩ := bind_eq_ok.mp listed
      split at listed
      · cases listed
        simpa [isMembers, Except.toOption] using member
      · cases listed
    · cases listed
      cases member

private theorem mem_zipWith_of_forall₂ {α β γ : Type} {R : α → β → Prop} {f : α → β → γ} {xs : List α} {ys : List β}
    (related : List.Forall₂ R xs ys) {z : γ} (member : z ∈ List.zipWith f xs ys) :
    ∃ x ∈ xs, ∃ y, R x y ∧ z = f x y := by
  induction related with
  | nil => cases member
  | cons first _ ih =>
    rw [List.zipWith_cons_cons] at member
    rcases List.mem_cons.mp member with rfl | later
    · exact ⟨_, List.mem_cons_self, _, first, rfl⟩
    · obtain ⟨x, found, y, holds, equal⟩ := ih later
      exact ⟨x, List.mem_cons_of_mem _ found, y, holds, equal⟩

private theorem primitiveIn_eq_name (entries : List (Atom × Value)) (type : String) :
    ∃ id, primitiveIn entries type = .name id := by
  unfold primitiveIn
  split
  · exact ⟨_, rfl⟩
  · cases primitive? type with
    | none => exact ⟨_, rfl⟩
    | some id => exact ⟨id, rfl⟩

variable {document : Value}

/-- Only properties are marked as required, no type is by itself. -/
theorem ne_required {name : Option String} {schema : Value} {type : Expr}
    (converted : Converts document name schema type) (inner : Expr) : type ≠ .index "Required" [inner] := by
  refine converts_induction (P := fun _ _ type => type ≠ .index "Required" [inner]) ?_ ?_ ?_ ?_ ?_ converted
  · intro _ _ _ same
    cases same
  · intro _ _ _ _ _ _ same
    cases same
  · exact fun _ _ _ _ _ _ _ _ unmarked => unmarked
  · intro _ _ _ _ same
    cases same
  · intro _ entries nullable _ _ type _ _ formed built
    have unmarked : type ≠ .index "Required" [inner] := by
      cases built with
      | literals => simp [literalType]
      | union parts | copies parts =>
        unfold unionType
        split
        · cases parts with
          | cons first _ => exact first.2
        · simp
      | conjunction parts =>
        unfold intersectionType
        split
        · cases parts with
          | cons first _ => exact first.2
        · simp
      | simple =>
        have isFormed := formed_of_formOf formed
        cases isFormed with
        | primitive =>
          obtain ⟨id, isName⟩ := primitiveIn_eq_name entries _
          rw [isName]
          exact Expr.noConfusion
        | anything => exact Expr.noConfusion
      | record => simp [typedMapping]
      | _ => simp
    unfold admitNull
    split
    · simp
    · exact unmarked

/-- The types of parts are there, and admit what is valid for the parts. -/
def Part.Admitted (document schema : Value) (type : Expr) : Prop :=
  Converts document none schema type ∧ Admits schema type

/-- The type of a primitive type admits its values. -/
theorem inhabits_primitiveIn (plain : Plain entries) {type : String} (isOf : v.IsOf type) (noArray : type ≠ "array")
    (noObject : type ≠ "object") : Inhabits v (primitiveIn entries type) := by
  have noBinary : (Entries.field? entries "format").any (·.shape.isText "binary") = false := by
    cases stated : Entries.field? entries "format" with
    | none => rfl
    | some format =>
      rw [Option.any_some, ← Bool.not_eq_true]
      intro binary
      exact plain.noBinary (stated.trans (congrArg some (Value.eq_of_isText binary)))
  rw [primitiveIn, noBinary, Bool.and_false, if_neg Bool.false_ne_true]
  cases v with
  | null =>
    obtain rfl : type = "null" := isOf
    exact .anything _
  | bool b =>
    obtain rfl : type = "boolean" := isOf
    exact .bool b
  | number q =>
    rcases isOf with rfl | ⟨rfl, n, rfl⟩
    · exact .number q
    · exact .integer n
  | text s =>
    obtain rfl : type = "string" := isOf
    exact .text s
  | array => exact absurd isOf noArray
  | object => exact absurd isOf noObject

/-- What meets a schema with a record of properties is in the record. -/
theorem inhabits_record {name : Option String} {required : List Value} {properties : List (Atom × Value)}
    {types : List Expr} {members : List (String × JsonValue)} (meets : Meets entries (.object members))
    (declared : entriesAt entries "properties" = some properties)
    (listed : Value.toSetOrEmpty? (Entries.field? entries "required") = .ok required)
    (parts : List.Forall₂ (fun property type => Part.Admitted document property.2 type) properties types) :
    Inhabits (.object members) (typedMapping (name.getD "")
      (List.zipWith (fun property type => recordEntry required property.1 type) properties types)) := by
  refine .record ?_ ?_
  · intro entry isEntry member isMember key
    obtain ⟨property, isProperty, type, ⟨-, admits⟩, rfl⟩ := mem_zipWith_of_forall₂ parts isEntry
    have sameKey : property.1 = .text member.1 := by
      injection key with inner
      injection inner
    have inner : Inhabits member.2 type := by
      refine admits _ (meets.declared members rfl property ?_ member isMember sameKey)
      rwa [declaredIn_eq declared]
    unfold recordEntry
    dsimp only
    split
    · exact .marked inner
    · exact inner
  · rintro entry isEntry ⟨inner, isMarked⟩
    obtain ⟨property, isProperty, type, ⟨converted, -⟩, rfl⟩ := mem_zipWith_of_forall₂ parts isEntry
    unfold recordEntry at isMarked
    dsimp only at isMarked
    split at isMarked
    · rename_i isRequired
      obtain ⟨key, isKey, same⟩ := List.any_eq_true.mp isRequired
      obtain ⟨member, isMember, rfl⟩ := meets.required members rfl key (mem_requiredIn listed isKey)
      refine ⟨member, isMember, ?_⟩
      have sameKey : property.1.same (.text member.1) = true := same
      rw [Atom.same_text, decide_eq_true_iff] at sameKey
      rw [recordEntry, sameKey]
    · exact absurd isMarked (ne_required converted inner)

/-- A value that an enumeration lists is null and listed, or a literal. -/
theorem inhabits_listed (meets : Meets entries v) (nonempty : listedValues entries ≠ []) :
    (v = .null ∧ listsNull entries = true) ∨ Inhabits v (literalType (listedValues entries)) := by
  unfold listedValues listsNull at *
  cases stated : listAt entries "enum" with
  | none => simp [stated] at nonempty
  | some values =>
    obtain ⟨value, isValue, denotes⟩ := meets.enum values stated
    rw [Option.getD_some]
    by_cases isNull : value.shape.isNull = true
    · refine .inl ⟨?_, List.any_eq_true.mpr ⟨value, isValue, isNull⟩⟩
      have same : value = .null := by
        cases value with
        | atom a =>
          cases a with
          | null => rfl
          | _ => cases isNull
        | _ => cases isNull
      rwa [same, Value.denotes_null] at denotes
    · refine .inr (.literal (List.mem_map_of_mem (List.mem_filter.mpr ⟨isValue, ?_⟩)) denotes)
      simpa using isNull

private theorem eq_array_of_isOf (isOf : v.IsOf "array") : ∃ items, v = .array items := by
  cases v <;> simp_all [JsonValue.IsOf]

private theorem eq_object_of_isOf (isOf : v.IsOf "object") : ∃ members, v = .object members := by
  cases v <;> simp_all [JsonValue.IsOf]

/-- What meets a schema that becomes a mapping is in the mapping: its declared members because they fit, and all
others because the schema says so. -/
theorem inhabits_mapping {name : Option String} {values : Value} {type : Expr} {members : List (String × JsonValue)}
    (plain : Plain entries) (typed : typesOf entries = .types nullable types)
    (formed : formOf name entries types = .ok (.mapping (some values)))
    (stated : Entries.field? entries "additionalProperties" = some values)
    (part : Part.Admitted document values type) (fits : Fits document (name, .map entries))
    (meets : Meets entries (.object members)) : Inhabits (.object members) (.mappingTo type) := by
  refine .mapping fun member isMember => ?_
  by_cases declares : ∃ property ∈ declaredIn entries, property.1 = .text member.1
  · obtain ⟨property, isProperty, key⟩ := declares
    have mixed : Mixed name entries (declaredIn entries) values :=
      ⟨plain.noReference, ⟨nullable, types, typed, formed⟩, entriesAt_of_declared isProperty⟩
    exact fits entries _ values type rfl mixed part.1 members (valid_map.mpr (.inr meets)) property isProperty member
      isMember key
  · refine part.2 _ (meets.additional members rfl values stated member isMember fun property isProperty key => ?_)
    exact declares ⟨property, isProperty, key⟩

/-- What meets a schema of alternatives inhabits their union. -/
theorem inhabits_alternatives {key : String} {members : List Value} {types : List Expr} (meets : Meets entries v)
    (alternative : key = "oneOf" ∨ key = "anyOf") (stated : membersAt entries key = some members)
    (parts : List.Forall₂ (Part.Admitted document) members types) : Inhabits v (unionType types) := by
  obtain ⟨member, isMember, valid⟩ : ∃ member ∈ members, Valid member v := by
    rcases alternative with rfl | rfl
    · obtain ⟨i, bound, valid, -⟩ := meets.oneOf members stated
      exact ⟨members[i], List.getElem_mem bound, valid⟩
    · exact meets.anyOf members stated
  obtain ⟨type, isType, -, admits⟩ := mem_of_forall₂ parts isMember
  exact .unionType isType (admits v valid)

/-- What meets a schema that combines one schema inhabits the type of this one. -/
theorem inhabits_conjunction {members : List Value} {types : List Expr} (plain : Plain entries)
    (meets : Meets entries v) (stated : membersAt entries "allOf" = some members) (parts : List.Forall₂ (Part.Admitted document) members types) :
    Inhabits v (intersectionType types) := by
  obtain ⟨isList, nonempty⟩ := membersAt_eq_some.mp stated
  have bound := plain.single _ (listAt_eq_some.mpr isList)
  cases parts with
  | nil => exact absurd rfl nonempty
  | @cons member type rest types first others =>
    obtain rfl : rest = [] := by simpa using bound
    cases others
    exact first.2 v (meets.allOf _ stated member (List.mem_singleton_self _))

/-- What meets a schema of several types is null and admitted, or inhabits the union of its copies. -/
theorem inhabits_copies {parts : List Expr} (meets : Meets entries v) (typed : typesOf entries = .types nullable types)
    (several : 1 < types.length)
    (copies : List.Forall₂ (Part.Admitted document) (types.map (retypedTo entries)) parts) :
    (v = .null ∧ nullable = true) ∨ Inhabits v (unionType parts) := by
  have nonempty : types ≠ [] := List.ne_nil_of_length_pos (by omega)
  rcases isOf_of_meets meets typed (stated_of_types typed nonempty) with isNull | ⟨name, listed, isOf⟩
  · exact .inl isNull
  · obtain ⟨type, isType, -, admits⟩ := mem_of_forall₂ copies (List.mem_map_of_mem listed)
    exact .inr (.unionType isType (admits v (valid_map.mpr (.inr (meets.copy isOf)))))

/-- What meets a schema inhabits the type of its form, null left out of account. -/
theorem inhabits_built {name : Option String} {form : Form} {type : Expr} (plain : Plain entries)
    (typed : typesOf entries = .types nullable types) (formed : formOf name entries types = .ok form)
    (built : form.Built name (Part.Admitted document) type) (fits : Fits document (name, .map entries))
    (meets : Meets entries v) : (v = .null ∧ (nullable || listsNull entries) = true) ∨ Inhabits v type := by
  have stated : v = .null ∧ nullable = true → v = .null ∧ (nullable || listsNull entries) = true := by
    rintro ⟨isNull, rfl⟩
    exact ⟨isNull, rfl⟩
  have ofKind : ∀ kind, types.length ≤ 1 → kindIn entries types = .ok (.named kind) →
      (v = .null ∧ (nullable || listsNull entries) = true) ∨ v.IsOf kind :=
    fun kind single isKind => (isOf_of_kind plain meets typed single isKind).imp_left stated
  have isFormed := formed_of_formOf formed
  cases isFormed with
  | listed nonempty =>
    cases built
    refine (inhabits_listed meets nonempty).imp_left ?_
    rintro ⟨isNull, isListed⟩
    exact ⟨isNull, by rw [isListed, Bool.or_true]⟩
  | const stated =>
    cases built
    exact .inr (.literal (List.mem_singleton_self _) (meets.const _ stated))
  | union alternative stated =>
    cases built with
    | union parts => exact .inr (inhabits_alternatives meets alternative stated parts)
  | conjunction stated =>
    cases built with
    | conjunction parts => exact .inr (inhabits_conjunction plain meets stated parts)
  | copies several =>
    cases built with
    | copies parts => exact (inhabits_copies meets typed several parts).imp_left stated
  | array single isKind =>
    refine (ofKind "array" single isKind).imp_right fun isOf => ?_
    obtain ⟨items, rfl⟩ := eq_array_of_isOf isOf
    cases stated : Entries.field? entries "items" with
    | none =>
      rw [stated] at built
      cases built
      exact .array fun _ _ => .anything _
    | some schema =>
      rw [stated] at built
      cases built with
      | array part => exact .array fun item isItem => part.2 item (meets.items items rfl schema stated item isItem)
  | record single isKind named declared listed =>
    refine (ofKind "object" single isKind).imp_right fun isOf => ?_
    obtain ⟨members, rfl⟩ := eq_object_of_isOf isOf
    cases built with
    | record parts => exact inhabits_record meets declared listed parts
  | mapping single isKind noRecord =>
    refine (ofKind "object" single isKind).imp_right fun isOf => ?_
    obtain ⟨members, rfl⟩ := eq_object_of_isOf isOf
    cases stated : entriesAt entries "additionalProperties" with
    | none =>
      rw [stated] at built
      cases built
      exact .mapping fun _ _ => .anything _
    | some values =>
      rw [stated] at built formed
      cases built with
      | mapping part =>
        exact inhabits_mapping plain typed formed (entriesAt_eq_some.mp stated).1 part fits meets
  | primitive single isKind noArray noObject =>
    cases built
    refine (ofKind _ single isKind).imp_right fun isOf => ?_
    exact inhabits_primitiveIn plain isOf noArray noObject
  | anything =>
    cases built
    exact .inr (.anything v)

/-- Unless several schemas are combined, conversion shows every part. -/
theorem shown_of_part {name : Option String} {form : Form} (plain : Plain entries)
    (formed : formOf name entries types = .ok form) {part : Value} (isPart : part ∈ form.parts) :
    part ∈ form.shown := by
  have isFormed := formed_of_formOf formed
  cases isFormed with
  | @conjunction members stated =>
    have bound := plain.single _ (listAt_eq_some.mpr (membersAt_eq_some.mp stated).1)
    cases members with
    | nil => cases isPart
    | cons member rest =>
      obtain rfl : rest = [] := by simpa using bound
      exact isPart
  | _ => exact isPart

/-- What is valid for a schema inhabits its type if all schemas that conversion reaches fit. -/
theorem admits_of_fits {name : Option String} {schema : Value} {type : Expr}
    (converted : Converts document name schema type) (supported : Throughout Plain schema)
    (fits : ∀ place, Reaches document (name, schema) place → Fits document place) : Admits schema type := by
  refine converts_induction (P := fun name schema type => Throughout Plain schema →
    (∀ place, Reaches document (name, schema) place → Fits document place) → Admits schema type)
      ?_ ?_ ?_ ?_ ?_ converted supported fits
  · intro name schema _ _ _ v _
    exact .anything v
  · intro name entries target component refers _ supported _
    exact absurd (supported.here.noReference.symm.trans refers) nofun
  · intro name entries target inner type refers _ _ _ supported _
    exact absurd (supported.here.noReference.symm.trans refers) nofun
  · intro name entries _ nullOnly _ _ v valid
    rw [eq_null_of_nullOnly nullOnly valid]
    exact .null
  · intro name entries nullable types form type noReference typed formed built supported fits v valid
    have plain := supported.here
    have admitted : form.Built name (Part.Admitted document) type := by
      refine built.attach.mono ?_
      rintro part type ⟨isPart, converted, admits⟩
      have step : Part document (name, .map entries) (none, part) :=
        .member noReference typed formed (shown_of_part plain formed isPart)
      have supportedPart := supported.of_part formed isPart fun type _ plain => plain.copy type
      exact ⟨converted, admits supportedPart fun place reaches => fits place (.head step reaches)⟩
    have here : Fits document (name, .map entries) := fits _ .refl
    rcases valid_map.mp valid with ⟨isNullable, rfl⟩ | meets
    · rw [nullable_of_isNullable typed isNullable, Bool.true_or]
      exact .absent type
    · rcases inhabits_built plain typed formed admitted here meets with ⟨rfl, isAdmitted⟩ | inner
      · rw [isAdmitted]
        exact .absent type
      · exact inner.admitNull _

private theorem mem_parts_of_shown {form : Form} {part : Value} (shown : part ∈ form.shown) : part ∈ form.parts := by
  unfold Form.shown at shown
  split at shown
  · exact shown
  · cases shown
  · exact shown

/-- Conversion does not leave the schemas that it can be sound for. -/
theorem plain_of_reaches {place reached : Option String × Value} (reaches : Reaches document place reached)
    (supported : Throughout Plain place.2) : Throughout Plain reached.2 := by
  induction reaches with
  | refl => exact supported
  | tail _ step ih =>
    cases step with
    | target refers => exact absurd (ih.here.noReference.symm.trans refers) nofun
    | member _ _ formed shown => exact ih.of_part formed (mem_parts_of_shown shown) fun type _ plain => plain.copy type

theorem inhabits_optional {members : List (String × JsonValue)} {type : Expr} {admitted : Bool}
    (inhabits : Inhabits (.object members) (admitNull admitted type)) : Inhabits (.object members) type := by
  cases admitted with
  | false => exact inhabits
  | true =>
    generalize isOptional : admitNull true type = optional at inhabits
    cases inhabits <;> simp [admitNull] at isOptional
    rw [isOptional]
    assumption

theorem inhabits_members {members : List (String × JsonValue)} {type : Expr}
    (inhabits : Inhabits (.object members) (.mappingTo type)) : ∀ member ∈ members, Inhabits member.2 type := by
  generalize isMapping : Expr.mappingTo type = mapping at inhabits
  cases inhabits <;> simp [Expr.mappingTo] at isMapping
  rw [isMapping]
  assumption

theorem valid_stating {type : String} {v : JsonValue} (isOf : v.IsOf type) : Valid (stating type) v := by
  refine valid_map.mpr (.inr ⟨isOf, nofun, nofun, nofun, nofun, nofun, ?_, ?_, ?_, ?_⟩)
  · exact fun _ _ _ => nofun
  · exact fun _ _ _ => nofun
  · exact fun _ _ _ => nofun
  · exact fun _ _ _ => nofun

/-- A schema whose types are sound fits. -/
theorem fits_of_sound {place : Option String × Value} (sound : Sound document place) : Fits document place := by
  intro entries properties values type isMap mixed converted members valid property _ member isMember _
  obtain ⟨fuel, converted⟩ := converted
  obtain ⟨nullable, types, typed, formed⟩ := mixed.formed
  have built : (Form.mapping (some values)).build document fuel place.1 = .ok (.mappingTo type) := by
    rw [Form.build, converted, except_map_ok]
  have whole := convert_of_built mixed.noReference typed formed built
  rw [← isMap] at whole
  exact inhabits_members (inhabits_optional (sound _ ⟨_, whole⟩ _ valid)) member isMember

/-- At every schema that conversion reaches, what is valid inhabits the type, exactly if the schemas that mix declared
with additional properties fit. A well-typed schema has a type. -/
theorem sound_iff_fits (document : Value) {schema : Value} (name : Option String) (supported : Throughout Plain schema) :
    ((∀ place, Reaches document (name, schema) place → Sound document place) ↔
      ∀ place, Reaches document (name, schema) place → Fits document place) ∧
    (Throughout WellTyped schema → ∃ type, ofSchema document name schema = .ok type) := by
  refine ⟨⟨?_, ?_⟩, ?_⟩
  · exact fun sound place reaches => fits_of_sound (sound place reaches)
  · intro fits place reaches type converted
    exact admits_of_fits converted (plain_of_reaches reaches supported) fun further onward =>
      fits further (reaches.trans onward)
  · exact fun wellTyped => ofSchema_succeeds (supported.mono fun plain => plain.noReference) wellTyped name

end

theorem sound_list_of_texts : ∃ type, ofSchema (.map []) none (listing (stating "string")) = .ok type ∧
    Admits (listing (stating "string")) type := by
  have fits : ∀ place, Reaches (.map []) (none, listing (stating "string")) place → Fits (.map []) place := by
    intro place reaches entries properties values type isMap mixed
    obtain ⟨nullable, types, typed, formed⟩ := mixed.formed
    rcases Relation.ReflTransGen.cases_head reaches with rfl | ⟨next, step, onward⟩
    · cases isMap
      cases typed
      cases formed
    · cases step with
      | target refers => cases refers
      | member _ typed' formed' shown =>
        cases typed'
        cases formed'
        obtain rfl := List.mem_singleton.mp shown
        rcases Relation.ReflTransGen.cases_head onward with rfl | ⟨next, step, -⟩
        · cases isMap
          cases typed
          cases formed
        · cases step with
          | target refers => cases refers
          | member _ typed' formed' shown =>
            cases typed'
            cases formed'
            cases shown
  have plain : Throughout Plain (listing (stating "string")) :=
    throughout_listing ⟨rfl, nofun, nofun, fun _ => rfl⟩ (throughout_stating ⟨rfl, nofun, nofun, fun _ => rfl⟩)
  have wellTyped : Throughout WellTyped (listing (stating "string")) :=
    throughout_listing ⟨nofun, nofun⟩ (throughout_stating ⟨nofun, nofun⟩)
  obtain ⟨sound, succeeds⟩ := sound_iff_fits (.map []) none plain
  obtain ⟨type, done⟩ := succeeds wellTyped
  exact ⟨type, done, sound.mpr fits _ .refl type (converts_of_ofSchema done)⟩

/-- An object that declares a number next to texts is in no mapping to texts. -/
theorem declared_number_next_to_texts :
    ¬ ∀ (document schema : Value) (name : Option String) (type : Expr), Throughout Plain schema →
      ofSchema document name schema = .ok type → ∀ v, Valid schema v → Inhabits v type := by
  intro always
  have done : ofSchema (.map []) none (mixing (stating "integer") (stating "string")) =
      .ok (.mappingTo (.name "str")) := by
    rfl
  have plain : Throughout Plain (mixing (stating "integer") (stating "string")) :=
    throughout_mixing ⟨rfl, nofun, nofun, fun _ => rfl⟩ (throughout_stating ⟨rfl, nofun, nofun, fun _ => rfl⟩)
      (throughout_stating ⟨rfl, nofun, nofun, fun _ => rfl⟩)
  have valid : Valid (mixing (stating "integer") (stating "string")) (.object [("a", .number 1)]) := by
    refine valid_map.mpr (.inr ⟨rfl, nofun, nofun, nofun, nofun, nofun, nofun, ?_, ?_, ?_⟩)
    · rintro members ⟨⟩ property isProperty member isMember -
      cases List.mem_singleton.mp isProperty
      cases List.mem_singleton.mp isMember
      exact valid_stating (.inr ⟨rfl, 1, rfl⟩)
    · exact fun _ _ _ => nofun
    · rintro members ⟨⟩ schema - member isMember apart
      cases List.mem_singleton.mp isMember
      exact absurd rfl (apart (.text "a", stating "integer") (List.mem_singleton_self _))
  have inhabits := always _ _ _ _ plain done _ valid
  have inner : Inhabits (.number 1) (.name "str") :=
    inhabits_members inhabits ("a", .number 1) (List.mem_singleton_self _)
  generalize isText : Expr.name "str" = text at inner
  cases inner <;> simp at isText

end ClientGen.SchemaType
