import ClientGen.Proofs.Schema.Rewriting

/-!
Where the parts of a schema stand. The keys of the parts are none of those that settle the form of the schema
(`Form.spots_key`, `IsOpen.congr`), so that rewriting the parts leaves the form as it is, but for the parts. A schema
of several types is rewritten type by type, since each has its parts under keys of its own (`stages`).
-/

namespace ClientGen.SchemaType

/-- The keys under which a schema has its parts, if nothing settles its form but its types. -/
def innerKeys : List String := ["items", "properties", "additionalProperties"]

/-- The keys under which a schema has its parts. -/
def partKeys : List String := ["oneOf", "anyOf", "allOf"] ++ innerKeys

theorem Form.spots_key {form : Form} {entries : List (Atom × Value)} {spot : Spot} (isSpot : spot ∈ form.spots entries) :
    spot.key ∈ partKeys := by
  unfold Form.spots at isSpot
  split at isSpot
  case h_1 =>
    obtain rfl := List.mem_singleton.mp isSpot
    dsimp only [alternativesKey]
    split <;> simp [partKeys, innerKeys]
  case h_6 => cases isSpot
  all_goals
    obtain rfl := List.mem_singleton.mp isSpot
    simp [partKeys, innerKeys]

/-- The form of a schema of one kind has its spots wherever it is, under keys of its own. -/
theorem kindForm_spots {name : Option String} {entries : List (Atom × Value)} {kind : Kind} {form : Form}
    (formed : kindForm name entries kind = .ok form) :
    ∃ spots : List Spot, (∀ others, form.spots others = spots) ∧ ∀ spot ∈ spots, spot.key ∈ innerKeys := by
  unfold kindForm at formed
  split at formed
  · cases formed
    cases Entries.field? entries "items" with
    | none => exact ⟨[], fun _ => rfl, by simp⟩
    | some schema => exact ⟨[⟨"items", .schema⟩], fun _ => rfl, by simp [innerKeys]⟩
  · unfold objectForm at formed
    split at formed
    · obtain ⟨required, -, formed⟩ := bind_eq_ok.mp formed
      cases formed
      exact ⟨[⟨"properties", .properties⟩], fun _ => rfl, by simp [innerKeys]⟩
    · cases formed
      cases entriesAt entries "additionalProperties" with
      | none => exact ⟨[], fun _ => rfl, by simp⟩
      | some inner => exact ⟨[⟨"additionalProperties", .schema⟩], fun _ => rfl, by simp [innerKeys]⟩
  · cases formed
    exact ⟨[], fun _ => rfl, by simp⟩
  · cases formed
    exact ⟨[], fun _ => rfl, by simp⟩

theorem spotsIn_key {name : Option String} {entries : List (Atom × Value)} {types : List Value} {spot : Spot}
    (isSpot : spot ∈ spotsIn name entries types) : spot.key ∈ partKeys := by
  unfold spotsIn at isSpot
  split at isSpot
  · obtain ⟨type, -, inside⟩ := List.mem_flatMap.mp isSpot
    unfold spotsForType at inside
    split at inside
    · split at inside
      · exact Form.spots_key inside
      · cases inside
    · cases inside
  · exact Form.spots_key isSpot
  · cases isSpot

/-! ### Forms -/

section

variable {entries others : List (Atom × Value)} {types : List Value} {name : Option String}

/-- Nothing in a schema settles its form but its types. -/
structure IsOpen (entries : List (Atom × Value)) : Prop where
  listed : listedValues entries = []
  const : Entries.field? entries "const" = none
  combination : combinationOf entries = none

theorem formOf_of_combination {form : Form} (listed : listedValues entries = [])
    (const : Entries.field? entries "const" = none) (combination : combinationOf entries = some form) :
    formOf name entries types = .ok form := by
  rw [formOf, listed, const, combination]
  rfl

theorem formOf_of_open (isOpen : IsOpen entries) :
    formOf name entries types =
      if 1 < types.length then .ok (.copies (types.map (retypedTo entries)))
      else kindIn entries types >>= kindForm name entries := by
  rw [formOf, isOpen.listed, isOpen.const, isOpen.combination]
  rfl

/-- What settles the form of a schema. -/
theorem formOf_cases (name : Option String) (entries : List (Atom × Value)) (types : List Value) :
    (∃ values, formOf name entries types = .ok (.literals values)) ∨
      (listedValues entries = [] ∧ Entries.field? entries "const" = none ∧
        ∃ form, combinationOf entries = some form) ∨
      IsOpen entries := by
  by_cases listed : listedValues entries = []
  · cases const : Entries.field? entries "const" with
    | some value =>
      refine .inl ⟨[value], ?_⟩
      rw [formOf, listed, const]
      rfl
    | none =>
      cases combination : combinationOf entries with
      | some form => exact .inr (.inl ⟨listed, rfl, form, rfl⟩)
      | none => exact .inr (.inr ⟨listed, const, combination⟩)
  · refine .inl ⟨listedValues entries, ?_⟩
    rw [formOf, if_pos (by simpa using listed)]

theorem membersAt_congr {key : String} (same : Entries.field? others key = Entries.field? entries key) :
    membersAt others key = membersAt entries key := by
  rw [membersAt, membersAt, listAt, listAt, same]

theorem listedValues_congr (same : Entries.field? others "enum" = Entries.field? entries "enum") :
    listedValues others = listedValues entries := by
  rw [listedValues, listedValues, listAt, listAt, same]

theorem listsNull_congr (same : Entries.field? others "enum" = Entries.field? entries "enum") :
    listsNull others = listsNull entries := by
  rw [listsNull, listsNull, listAt, listAt, same]

theorem typesOf_congr (types : Entries.field? others "type" = Entries.field? entries "type")
    (nullable : Entries.field? others "nullable" = Entries.field? entries "nullable") :
    typesOf others = typesOf entries := by
  rw [typesOf, typesOf, isNullable, isNullable, types, nullable]

theorem IsOpen.congr (isOpen : IsOpen entries)
    (same : ∀ key ∈ ["enum", "const", "oneOf", "anyOf", "allOf"],
      Entries.field? others key = Entries.field? entries key) : IsOpen others where
  listed := (listedValues_congr (same _ (by simp))).trans isOpen.listed
  const := (same _ (by simp)).trans isOpen.const
  combination := by
    rw [combinationOf, membersAt_congr (same "oneOf" (by simp)), membersAt_congr (same "anyOf" (by simp)),
      membersAt_congr (same "allOf" (by simp))]
    exact isOpen.combination

theorem kindIn_congr (same : (Entries.field? others "properties").isSome = (Entries.field? entries "properties").isSome) :
    kindIn others types = kindIn entries types := by
  rw [kindIn, kindIn, same]

/-- The keys that matter to the form of a schema of one kind. -/
def kindKeys : Kind → List String
  | .named "array" => ["items"]
  | .named "object" => ["properties", "required", "additionalProperties"]
  | .named _ => ["format"]
  | _ => []

theorem kindKeys_subset {kind : Kind} {key : String} (isKey : key ∈ kindKeys kind) :
    key ∈ ["items", "properties", "required", "additionalProperties", "format"] := by
  unfold kindKeys at isKey
  split at isKey <;> revert key <;> decide

theorem kindForm_congr {kind : Kind}
    (same : ∀ key ∈ kindKeys kind, Entries.field? others key = Entries.field? entries key) :
    kindForm name others kind = kindForm name entries kind := by
  unfold kindKeys at same
  split at same
  · rw [kindForm, kindForm, same "items" (by simp)]
  · simp only [kindForm, objectForm, entriesAt, same "properties" (by simp), same "required" (by simp),
      same "additionalProperties" (by simp)]
  · rename_i type noArray noObject
    simp only [kindForm, primitiveIn, same "format" (by simp)]
  · rename_i unnamed
    cases kind with
    | named type => exact absurd rfl (unnamed type)
    | _ => rfl

/-- A schema of a type has a form for it, as long as it has no name. -/
theorem kindForm_unnamed (entries : List (Atom × Value)) (type : String) :
    ∃ form, kindForm none entries (.named type) = .ok form ∧
      ∀ others, spotsForType entries (.text type) = form.spots others := by
  have formed : ∃ form, kindForm none entries (.named type) = .ok form := by
    unfold kindForm
    split <;> exact ⟨_, rfl⟩
  obtain ⟨form, formed⟩ := formed
  obtain ⟨spots, same, -⟩ := kindForm_spots formed
  refine ⟨form, formed, fun others => ?_⟩
  simp only [spotsForType, formed, same]

theorem spotsForType_congr {type : String}
    (same : ∀ key ∈ kindKeys (.named type), Entries.field? others key = Entries.field? entries key) :
    spotsForType others (.text type) = spotsForType entries (.text type) := by
  obtain ⟨form, formed, spots⟩ := kindForm_unnamed entries type
  obtain ⟨form', formed', spots'⟩ := kindForm_unnamed others type
  rw [kindForm_congr same, formed] at formed'
  cases formed'
  rw [spots entries, spots' entries]

/-- The spots that a schema has for a type matter to no other type. -/
theorem spotsForType_key {type : String} {spot : Spot} (isSpot : spot ∈ spotsForType entries (.text type)) :
    spot.key ∈ innerKeys ∧ ∀ other, spot.key ∈ kindKeys (.named other) ↔ other = type := by
  have items : ∀ other, "items" ∈ kindKeys (.named other) ↔ other = "array" := by
    intro other
    unfold kindKeys
    split <;> simp_all
  have values : ∀ other, "additionalProperties" ∈ kindKeys (.named other) ↔ other = "object" := by
    intro other
    unfold kindKeys
    split <;> simp_all
  by_cases array : type = "array"
  · subst array
    simp only [spotsForType, kindForm] at isSpot
    cases found : Entries.field? entries "items" with
    | none => rw [found] at isSpot; cases isSpot
    | some schema =>
      rw [found] at isSpot
      rw [List.mem_singleton.mp isSpot]
      exact ⟨by simp [innerKeys], items⟩
  · by_cases object : type = "object"
    · subst object
      simp only [spotsForType, kindForm, objectForm] at isSpot
      cases found : entriesAt entries "additionalProperties" with
      | none => rw [found] at isSpot; cases isSpot
      | some inner =>
        rw [found] at isSpot
        rw [List.mem_singleton.mp isSpot]
        exact ⟨by simp [innerKeys], values⟩
    · simp only [spotsForType, kindForm] at isSpot
      cases isSpot

/-- Where the parts of a schema stand for several types. -/
def spotsForTypes (entries : List (Atom × Value)) (names : List String) : List Spot :=
  names.flatMap fun name => spotsForType entries (.text name)

/-- Rewriting a schema for several types: for the first of them, and then for the others. -/
structure Stages (g : Value → Option Value) (entries middle final : List (Atom × Value)) (name : String)
    (names : List String) : Prop where
  first : rewriteSpots g (spotsForType entries (.text name)) entries = some middle
  rest : rewriteSpots g (spotsForTypes middle names) middle = some final
  outsideFirst : ∀ key ∉ innerKeys, Entries.field? middle key = Entries.field? entries key
  outside : ∀ key ∉ innerKeys, Entries.field? final key = Entries.field? entries key
  kept : ∀ key ∈ kindKeys (.named name), Entries.field? final key = Entries.field? middle key
  untouched : ∀ later ∈ names, ∀ key ∈ kindKeys (.named later), Entries.field? middle key = Entries.field? entries key

/-- Different types have their parts in different places. -/
theorem stages {g : Value → Option Value} {final : List (Atom × Value)} {name : String} {names : List String}
    (apart : (name :: names).Nodup)
    (rewritten : rewriteSpots g (spotsForTypes entries (name :: names)) entries = some final) :
    ∃ middle, Stages g entries middle final name names := by
  rw [spotsForTypes, List.flatMap_cons, rewriteSpots_append] at rewritten
  obtain ⟨middle, first, rest⟩ := Option.bind_eq_some_iff.mp rewritten
  have isNew : name ∉ names := (List.nodup_cons.mp apart).1
  have untouched : ∀ later ∈ names, ∀ key ∈ kindKeys (.named later),
      Entries.field? middle key = Entries.field? entries key := by
    refine fun later isLater key isKey => field?_rewriteSpots (fun spot isSpot same => isNew ?_) first
    exact ((spotsForType_key isSpot).2 _).mp (same ▸ isKey) ▸ isLater
  have outsideFirst : ∀ key ∉ innerKeys, Entries.field? middle key = Entries.field? entries key :=
    fun key outside => field?_rewriteSpots
      (fun spot isSpot same => outside (same ▸ (spotsForType_key isSpot).1)) first
  refine ⟨middle, first, ?_, outsideFirst, fun key outside => ?_, fun key isKey => ?_, untouched⟩
  · have same : spotsForTypes middle names = spotsForTypes entries names :=
      List.flatMap_congr fun later isLater => spotsForType_congr (untouched later isLater)
    rw [same]
    exact rest
  · refine (field?_rewriteSpots (fun spot isSpot same => outside ?_) rest).trans (outsideFirst key outside)
    obtain ⟨later, -, isSpot⟩ := List.mem_flatMap.mp isSpot
    exact same ▸ (spotsForType_key isSpot).1
  · refine field?_rewriteSpots (fun spot isSpot same => isNew ?_) rest
    obtain ⟨later, isLater, isSpot⟩ := List.mem_flatMap.mp isSpot
    exact ((spotsForType_key isSpot).2 _).mp (same ▸ isKey) ▸ isLater

/-- What the others of the types have for parts is what it was. -/
theorem Stages.parts {g : Value → Option Value} {middle final : List (Atom × Value)} {name later : String}
    {names : List String} (stages : Stages g entries middle final name names) (isLater : later ∈ names) {spot : Spot}
    (isSpot : spot ∈ spotsForType middle (.text later)) :
    spot ∈ spotsForType entries (.text later) ∧ spot.parts middle = spot.parts entries := by
  have same := stages.untouched later isLater _ (((spotsForType_key isSpot).2 _).mpr rfl)
  rw [spotsForType_congr (stages.untouched later isLater)] at isSpot
  exact ⟨isSpot, by rw [Spot.parts, Spot.parts, same]⟩

end

end ClientGen.SchemaType
