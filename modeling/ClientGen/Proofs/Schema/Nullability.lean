import ClientGen.Proofs.Schema.Budget
import ClientGen.Proofs.Schema.Spots

/-!
The spellings of nullability. A schema says that it admits null by `nullable`, by null among its types, or by both, and
what its type is otherwise does not depend on which of them it says (`shaped_same`).
-/

namespace ClientGen.SchemaType

open Entries

variable {entries others : List (Atom × Value)} {types : List Value} {name : Option String} {document : Value}

/-- Setting a key twice is setting it to the last. -/
theorem put_put {α : Type} (entries : List (Atom × α)) (key : String) (first second : α) :
    put (put entries (.text key) first) (.text key) second = put entries (.text key) second := by
  by_cases present : (entries.any fun entry => entry.1.same (.text key)) = true
  · have still : ((entries.map fun entry => if entry.1.same (.text key) then (entry.1, first) else entry).any
        fun entry => entry.1.same (.text key)) = true := by
      obtain ⟨entry, isEntry, same⟩ := List.any_eq_true.mp present
      exact List.any_eq_true.mpr ⟨_, List.mem_map_of_mem isEntry, by rw [if_pos same]; exact same⟩
    rw [put, put, if_pos present, if_pos still, put, if_pos present, List.map_map]
    refine List.map_congr_left fun entry _ => ?_
    dsimp only [Function.comp_apply]
    split <;> simp_all
  · have appended : ((entries ++ [(Atom.text key, first)]).any fun entry => entry.1.same (.text key)) = true := by
      simp [Atom.same_refl]
    rw [put, put, if_neg present, if_pos appended, put, if_neg present, List.map_append]
    have kept : (entries.map fun entry => if entry.1.same (.text key) then (entry.1, second) else entry) = entries := by
      refine (List.map_congr_left fun entry isEntry => if_neg fun same => present ?_).trans (List.map_id _)
      exact List.any_eq_true.mpr ⟨entry, isEntry, same⟩
    rw [kept]
    simp [Atom.same_refl]

/-- The copies of a schema for its types do not depend on what it said about them. -/
theorem retypedTo_put (entries : List (Atom × Value)) (type stated : Value) :
    retypedTo (put entries (.text "type") stated) type = retypedTo entries type := by
  rw [retypedTo, retypedEntries, put_put, retypedTo, retypedEntries]

/-- Schemas that differ at most in what they say about their types and about null. -/
def SameButTypes (entries others : List (Atom × Value)) : Prop :=
  ∀ key, key ≠ "type" → key ≠ "nullable" → field? others key = field? entries key

theorem sameButTypes_put (entries : List (Atom × Value)) (type : Value) :
    SameButTypes entries (put entries (.text "type") type) :=
  fun _ noType _ => field?_put_of_ne _ (Ne.symm noType) type

theorem sameButTypes_retyped (entries : List (Atom × Value)) (type notNullable : Value) :
    SameButTypes entries (retypedEntries entries type notNullable) :=
  fun _ noType noNullable =>
    (field?_put_of_ne _ (Ne.symm noNullable) notNullable).trans (field?_put_of_ne _ (Ne.symm noType) type)

theorem kindForm_same (same : SameButTypes entries others) (kind : Kind) :
    kindForm name others kind = kindForm name entries kind := by
  refine kindForm_congr fun key isKey => ?_
  have := kindKeys_subset isKey
  exact same key (by rintro rfl; simp at this) (by rintro rfl; simp at this)

theorem kindIn_same (same : SameButTypes entries others) : kindIn others types = kindIn entries types :=
  kindIn_congr (by rw [same "properties" (by decide) (by decide)])

theorem combinationOf_same (same : SameButTypes entries others) : combinationOf others = combinationOf entries := by
  simp only [combinationOf, membersAt_congr (same "oneOf" (by decide) (by decide)),
    membersAt_congr (same "anyOf" (by decide) (by decide)), membersAt_congr (same "allOf" (by decide) (by decide))]

/-- The form of a schema depends on its types as they are handed over, and not as they are stated. -/
theorem formOf_same (same : SameButTypes entries others)
    (copies : types.length ≤ 1 ∨ ∀ type, retypedTo others type = retypedTo entries type) :
    formOf name others types = formOf name entries types := by
  have kinds : (kindIn others types >>= kindForm name others) = (kindIn entries types >>= kindForm name entries) := by
    rw [kindIn_same same]
    exact congrArg _ (funext fun kind => kindForm_same same kind)
  simp only [formOf, listedValues_congr (same "enum" (by decide) (by decide)), same "const" (by decide) (by decide),
    combinationOf_same same, kinds]
  rcases copies with single | copied
  · simp only [if_neg (Nat.not_lt_of_le single)]
  · simp only [funext copied]

theorem shaped_same (same : SameButTypes entries others)
    (copies : types.length ≤ 1 ∨ ∀ type, retypedTo others type = retypedTo entries type) (depth : Nat) :
    (shaped document depth name (.map others) types : Except Fault Expr) =
      shaped document depth name (.map entries) types := by
  cases depth with
  | zero => rfl
  | succ depth => rw [shaped_map, shaped_map, formOf_same same copies]

/-- With next to no steps, conversion is at its end before it looks at the entries of a schema. -/
theorem convert_shallow {depth : Nat} (shallow : depth < 2) :
    (convert document depth name (.map entries) : Except Fault Expr) = .error tooDeep := by
  match depth, shallow with
  | 0, _ => rfl
  | 1, _ => rw [convert_map]; rfl

/-- A schema is converted from the types that it states and from whether it admits null; the rest can be read off any
schema that differs in nothing else. -/
theorem convert_of_types {nullable : Bool} (same : SameButTypes entries others)
    (noReference : field? entries "$ref" = none) (stated : typesOf others = .types nullable types)
    (copies : types.length ≤ 1 ∨ ∀ type, retypedTo others type = retypedTo entries type) (depth : Nat) :
    (convert document (depth + 2) name (.map others) : Except Fault Expr) =
      admitNull (nullable || listsNull entries) <$> shaped document depth name (.map entries) types := by
  have othersReference : field? others "$ref" = none := by rw [same _ (by decide) (by decide), noReference]
  rw [convert_map, unannounced_map, othersReference, stated]
  simp only [listsNull_congr (same "enum" (by decide) (by decide)), shaped_same same copies]

/-! ### Stating types -/

/-- A schema with a single type. -/
def ofType (entries : List (Atom × Value)) (type : String) : Value :=
  .map (put entries (.text "type") (.text type))

/-- A schema with a single type that admits null beside it. -/
def ofNullable (entries : List (Atom × Value)) (type : String) : Value :=
  .map (retypedEntries entries (.text type) (.bool true))

/-- A schema with a list of types. -/
def ofTypes (entries : List (Atom × Value)) (types : List String) : Value :=
  .map (put entries (.text "type") (.list (types.map .text)))

theorem isNullable_put (entries : List (Atom × Value)) (type : Value) :
    isNullable (put entries (.text "type") type) = isNullable entries := by
  rw [isNullable, isNullable, field?_put_of_ne _ (by decide)]

theorem typesOf_text (entries : List (Atom × Value)) {type : String} (noNull : type ≠ "null") :
    typesOf (put entries (.text "type") (.text type)) = .types (isNullable entries) [.text type] := by
  rw [typesOf, field?_put_self, isNullable_put]
  split <;> simp_all

theorem typesOf_nullable (entries : List (Atom × Value)) {type : String} (noNull : type ≠ "null") :
    typesOf (retypedEntries entries (.text type) (.bool true)) = .types true [.text type] := by
  have admits : isNullable (retypedEntries entries (.text type) (.bool true)) = true := by
    rw [isNullable, retypedEntries, field?_put_self]
    rfl
  have typed : field? (retypedEntries entries (.text type) (.bool true)) "type" = some (.text type) := by
    rw [retypedEntries, field?_put_of_ne _ (by decide), field?_put_self]
  rw [typesOf, typed, admits]
  split <;> simp_all

theorem typesOf_list (entries : List (Atom × Value)) (listed : List String) :
    typesOf (put entries (.text "type") (.list (listed.map .text))) =
      .types (isNullable entries || decide ("null" ∈ listed)) ((listed.filter (· ≠ "null")).map .text) := by
  rw [typesOf, field?_put_self, isNullable_put]
  have named : (listed.map Value.text).any (·.shape.isText "null") = decide ("null" ∈ listed) := by
    rw [List.any_map, Bool.eq_iff_iff, List.any_eq_true, decide_eq_true_iff]
    simp [Shape.isText]
  have others : (listed.map Value.text).filter (!·.shape.isText "null") =
      (listed.filter (· ≠ "null")).map .text := by
    rw [List.filter_map]
    simp [Function.comp_def, Shape.isText]
  simp only [named, others]

theorem filter_ne_null {listed : List String} (noNull : "null" ∉ listed) :
    listed.filter (· ≠ "null") = listed :=
  List.filter_eq_self.mpr fun type isListed => by simpa using fun same : type = "null" => noNull (same ▸ isListed)

/-! ### The same type, spelled differently -/

variable (document name)

private theorem several_copies (entries : List (Atom × Value)) (stated : Value) (types : List Value) :
    types.length ≤ 1 ∨ ∀ type, retypedTo (put entries (.text "type") stated) type = retypedTo entries type :=
  .inr fun type => retypedTo_put entries type stated

theorem convert_single (noReference : field? entries "$ref" = none) {type : String} (noNull : type ≠ "null")
    (depth : Nat) :
    (convert document depth name (ofTypes entries [type]) : Except Fault Expr) =
      convert document depth name (ofType entries type) := by
  match depth with
  | 0 | 1 => rw [ofTypes, ofType, convert_shallow (by decide), convert_shallow (by decide)]
  | depth + 2 =>
    have stated := typesOf_list entries [type]
    rw [filter_ne_null (by simpa using Ne.symm noNull)] at stated
    have stated' := typesOf_text entries noNull
    rw [ofTypes, ofType, convert_of_types (sameButTypes_put entries _) noReference stated (several_copies _ _ _),
      convert_of_types (sameButTypes_put entries _) noReference stated' (several_copies _ _ _)]
    simp [Ne.symm noNull]

/-- Null beside a type in a list says that the type is nullable. -/
theorem convert_pair (noReference : field? entries "$ref" = none) {type : String} (noNull : type ≠ "null")
    {listed : List String} (pair : listed = [type, "null"] ∨ listed = ["null", type]) (depth : Nat) :
    (convert document depth name (ofTypes entries listed) : Except Fault Expr) =
      convert document depth name (ofNullable entries type) := by
  match depth with
  | 0 | 1 => rw [ofTypes, ofNullable, convert_shallow (by decide), convert_shallow (by decide)]
  | depth + 2 =>
    have withNull : "null" ∈ listed := by rcases pair with rfl | rfl <;> simp
    have others : listed.filter (· ≠ "null") = [type] := by rcases pair with rfl | rfl <;> simp [noNull]
    have stated := typesOf_list entries listed
    rw [others, decide_eq_true withNull, Bool.or_true] at stated
    rw [ofTypes, ofNullable, convert_of_types (sameButTypes_put entries _) noReference stated (several_copies _ _ _),
      convert_of_types (sameButTypes_retyped entries _ _) noReference (typesOf_nullable entries noNull)
        (.inl (Nat.le_refl 1))]
    rfl

/-- Null among listed types makes the type of the others optional. -/
theorem convert_withNull (noReference : field? entries "$ref" = none) (notNullable : isNullable entries = false)
    (noNullListed : listsNull entries = false) {before after : List String} (noNull : "null" ∉ before ++ after)
    (depth : Nat) :
    (convert document depth name (ofTypes entries (before ++ "null" :: after)) : Except Fault Expr) =
      Expr.optional <$> convert document depth name (ofTypes entries (before ++ after)) := by
  match depth with
  | 0 | 1 => rw [ofTypes, ofTypes, convert_shallow (by decide), convert_shallow (by decide)]; rfl
  | depth + 2 =>
    have stated := typesOf_list entries (before ++ after)
    rw [filter_ne_null noNull, decide_eq_false noNull] at stated
    have statedWithNull := typesOf_list entries (before ++ "null" :: after)
    have others : (before ++ "null" :: after).filter (· ≠ "null") = before ++ after := by
      rw [← filter_ne_null noNull, List.filter_append, List.filter_append, List.filter_cons_of_neg (by simp)]
    rw [others, decide_eq_true (by simp), Bool.or_true] at statedWithNull
    rw [ofTypes, ofTypes, convert_of_types (sameButTypes_put entries _) noReference stated (several_copies _ _ _),
      convert_of_types (sameButTypes_put entries _) noReference statedWithNull (several_copies _ _ _),
      notNullable, noNullListed]
    cases (shaped document depth name (.map entries) ((before ++ after).map .text) : Except Fault Expr) <;> rfl

/-- The two ways of writing that a type admits null come to the same, whatever else a schema says; and null among
several types makes the union of the others optional, wherever it stands among them. -/
theorem nullability_spellings (noReference : field? entries "$ref" = none)
    (noNullable : field? entries "nullable" = none) :
    (∀ type, type ≠ "null" →
      ofSchema document name (ofTypes entries [type, "null"]) = ofSchema document name (ofNullable entries type) ∧
      ofSchema document name (ofTypes entries ["null", type]) = ofSchema document name (ofNullable entries type)) ∧
    (listsNull entries = false → ∀ before after : List String, "null" ∉ before ++ after →
      ofSchema document name (ofTypes entries (before ++ "null" :: after)) =
        Expr.optional <$> ofSchema document name (ofTypes entries (before ++ after))) := by
  refine ⟨fun type noNull => ⟨?_, ?_⟩, fun noNullListed before after noNull => ?_⟩
  · exact ofSchema_of_convert id (convert_pair name document noReference noNull (.inl rfl))
  · exact ofSchema_of_convert id (convert_pair name document noReference noNull (.inr rfl))
  · have notNullable : isNullable entries = false := by rw [isNullable, noNullable]; rfl
    exact ofSchema_of_convert (Expr.optional <$> ·)
      (convert_withNull name document noReference notNullable noNullListed noNull)

/-- A schema of binary texts, but for its types. -/
def binary : List (Atom × Value) := [(.text "format", .text "binary")]

theorem nullability_spellings_binary :
    field? binary "$ref" = none ∧ field? binary "nullable" = none ∧ listsNull binary = false ∧
    ofSchema (.map []) none (ofTypes binary ["null", "string"]) = .ok (.optional (.name "bytes")) ∧
    ofSchema (.map []) none (ofTypes binary ["string", "null", "integer"]) =
      .ok (.optional (.index "Union" [.name "bytes", .name "int"])) := by
  obtain ⟨pairs, several⟩ := @nullability_spellings binary none (.map []) rfl rfl
  refine ⟨rfl, rfl, rfl, ((pairs "string" (by decide)).2).trans rfl, ?_⟩
  exact (several rfl ["string"] ["integer"] (by decide)).trans rfl

/-! ### A single type -/

theorem ofSchema_null (noReference : field? entries "$ref" = none) :
    ofSchema document name (ofType entries "null") = .ok (.constant .null) := by
  refine converts_iff.mp ⟨2, ?_⟩
  have reference : field? (put entries (.text "type") (.text "null")) "$ref" = none := by
    rw [field?_put_of_ne _ (by decide), noReference]
  have stated : typesOf (put entries (.text "type") (.text "null")) = .nullOnly := by
    rw [typesOf, field?_put_self]
    rfl
  rw [ofType, convert_map, unannounced_map, reference]
  simp only [stated]

/-- Where null is listed, the type is optional, and not that of null. -/
theorem ofSchema_listed_null (noReference : field? entries "$ref" = none) :
    ofSchema document name (ofTypes entries ["null"]) ≠ .ok (.constant .null) := by
  intro isNull
  obtain ⟨fuel, converted⟩ := converts_of_ofSchema isNull
  match fuel with
  | 0 | 1 =>
    rw [ofTypes, convert_shallow (by decide)] at converted
    cases converted
  | depth + 2 =>
    have stated := typesOf_list entries ["null"]
    rw [ofTypes, convert_of_types (sameButTypes_put entries _) noReference stated (several_copies _ _ _)] at converted
    obtain ⟨type, -, isOptional⟩ := map_eq_ok.mp converted
    simp [admitNull] at isOptional

/-- A list of one type means what the type means, whatever else a schema says, unless it is the null type: by itself
this is null, and as the only one of a list it is anything that the schema says otherwise, made optional. -/
theorem single_type_iff (noReference : field? entries "$ref" = none) (type : String) :
    ofSchema document name (ofTypes entries [type]) = ofSchema document name (ofType entries type) ↔ type ≠ "null" := by
  refine ⟨?_, fun noNull => ofSchema_of_convert id (convert_single name document noReference noNull)⟩
  rintro same rfl
  rw [ofSchema_null name document noReference] at same
  exact ofSchema_listed_null name document noReference same

theorem single_type_binary : field? binary "$ref" = none ∧ "string" ≠ "null" ∧
    ofSchema (.map []) (some "Blob") (ofTypes binary ["string"]) = .ok (.name "bytes") :=
  ⟨rfl, by decide, ((single_type_iff (some "Blob") (.map []) rfl "string").mpr (by decide)).trans rfl⟩

/-- The null type in a list of its own is not what it is by itself. -/
theorem null_listed_alone : ¬ ∀ (entries : List (Atom × Value)) (type : String) (name : Option String)
    (document : Value), field? entries "$ref" = none →
      ofSchema document name (ofTypes entries [type]) = ofSchema document name (ofType entries type) := by
  intro always
  have same := always [] "null" none (.map []) rfl
  have listed : ofSchema (.map []) none (ofTypes [] ["null"]) = .ok (.optional .anything) := rfl
  have alone : ofSchema (.map []) none (ofType [] "null") = .ok (.constant .null) := rfl
  rw [listed, alone] at same
  simp at same

end ClientGen.SchemaType
