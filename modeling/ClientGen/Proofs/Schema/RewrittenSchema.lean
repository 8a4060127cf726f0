import ClientGen.Proofs.Schema.EditedCopies
import ClientGen.Proofs.Schema.Steps

/-!
The type of a rewritten schema. The conversion of a schema that has been edited, whose parts are still to be edited,
follows that of what the schema is rewritten to (`tracks_rewritten`): whatever form the schema has, its parts and the
copies that it is converted by are visited once, each in its place.
-/

namespace ClientGen.SchemaType

open Placed

/-- The types that an orderly schema lists are different texts. -/
theorem Orderly.names {entries : List (Atom × Value)} {nullable : Bool} {types : List Value} (orderly : Orderly entries)
    (typed : typesOf entries = .types nullable types) :
    ∃ names : List String, types = names.map .text ∧ names.Nodup ∧ "null" ∉ names := by
  unfold typesOf at typed
  split at typed
  · rename_i listed stated
    cases typed
    obtain ⟨names, rfl, apart⟩ := orderly.types listed stated
    refine ⟨names.filter (· ≠ "null"), ?_, apart.filter _, by simp⟩
    rw [List.filter_map]
    refine congrArg _ (List.filter_congr fun name _ => ?_)
    simp [Shape.isText, Value.shape]
  · cases typed
  · rename_i name notNull _
    cases typed
    refine ⟨[name], rfl, List.nodup_singleton _, fun isNull => ?_⟩
    obtain rfl := List.mem_singleton.mp isNull
    exact notNull rfl
  · cases typed
    exact ⟨[], rfl, List.nodup_nil, List.not_mem_nil⟩

section

variable {crew : Crew} {document : Value} {g : Value → Option Value} {world : World} {id : Nat}
  {entries : List (Atom × Placed)} {left : List (Atom × Value)} {name : Option String}

/-- A schema has copies if nothing but the several types that it lists settles its form. -/
private theorem isOpen_of_copies {inner : List (Atom × Value)} {types members : List Value}
    (formed : formOf name inner types = .ok (.copies members)) : IsOpen inner ∧ 1 < types.length := by
  rcases formOf_cases name inner types with ⟨values, isLiterals⟩ | ⟨listed, const, form, isCombined⟩ | isOpen
  · rw [isLiterals] at formed
    cases formed
  · rw [formOf_of_combination listed const isCombined] at formed
    cases formed
    unfold combinationOf at isCombined
    split at isCombined <;> cases isCombined
  · refine ⟨isOpen, ?_⟩
    have isFormed := formed_of_formOf formed
    cases isFormed with
    | copies several => exact several

/-- Six steps for each value that a schema consists of leave enough for a part of it, several copies and some more. -/
private theorem steps_of_copies {inner : List (Atom × Value)} {listed : List Value} {count : Nat}
    (isListed : Entries.field? inner "type" = some (.list listed)) (fewer : count ≤ listed.length) (several : 1 < count) :
    2 ≤ 6 * (Value.map inner).size - count - 4 ∧
      ∀ key ∈ innerKeys, ∀ v, Entries.field? inner key = some v →
        6 * v.size + 2 ≤ 6 * (Value.map inner).size - count - 4 := by
  have counted := Value.length_le_sizeItems listed
  have copy := size_retypedTo isListed (.text "")
  refine ⟨?_, fun key isKey v found => ?_⟩
  · have positive := Value.size_pos (retypedTo inner (.atom (.text "")))
    omega
  · have differ : key ≠ "type" ∧ key ≠ "nullable" := by
      clear found
      revert key
      decide
    rw [← field?_retyped inner (.text "") differ.1 differ.2] at found
    have inside : v.size + 1 ≤ (retypedTo inner (.atom (.text ""))).size := Value.size_field? found
    omega

/-- The copies of a schema in a store follow those of what the schema is rewritten to. -/
private theorem tracks_several {names : List String} {members : List Value} (keeps : KeepsMaps g)
    (stands : world.store.Stands [.map id entries]) (apart : names.Nodup) (notNull : "null" ∉ names)
    (noReference : Entries.field? (treesUnder entries) "$ref" = none) {nullable : Bool}
    (typed : typesOf (treesUnder entries) = .types nullable (names.map .text))
    (formed : formOf name (treesUnder entries) (names.map .text) = .ok (.copies members))
    (rewritten : rewriteSpots g (spotsForTypes (treesUnder entries) names) (treesUnder entries) = some left)
    (each : ∀ name ∈ names, ∀ spot ∈ spotsForType (treesUnder entries) (.text name),
      ∀ part ∈ spot.parts (treesUnder entries), Leads crew document g part) :
    Tracks crew world (6 * (Value.map left).size - 2) (shaped document · name (.map left) (names.map .text))
      (shaped crew.document · name (.cell id) ((texts names).map node))
      fun later => world.store.Turns later.store (.map id entries) (.map left) := by
  obtain ⟨isOpen, several⟩ := isOpen_of_copies formed
  have same : ∀ key ∉ innerKeys, Entries.field? left key = Entries.field? (treesUnder entries) key := by
    refine fun key outside => field?_rewriteSpots (fun spot isSpot same => outside ?_) rewritten
    obtain ⟨later, -, isSpot⟩ := List.mem_flatMap.mp isSpot
    exact same ▸ (spotsForType_key isSpot).1
  have stillOpen : IsOpen left := isOpen.congr fun key isKey => same key (by revert key; decide)
  have formedThere : formOf name left (names.map .text) = .ok (.copies ((names.map .text).map (retypedTo left))) := by
    rw [formOf_of_open stillOpen, if_pos several]
  obtain ⟨copies, between, copied, step, areCopies⟩ := @on_copies crew world id entries stands names
  obtain ⟨listed, isListed, fewer⟩ := listed_of_several typed several
  rw [← same "type" (by decide)] at isListed
  rw [List.length_map] at fewer several
  obtain ⟨least, enough⟩ := steps_of_copies isListed fewer several
  have tracks := tracks_copies keeps step.stands areCopies apart notNull noReference isOpen rewritten each least enough
  refine (((tracks.map unionType).step world (fun depth => ?_) fun depth => ?_).more (by omega)).weaken ?_
  · rw [shaped_map, formedThere, except_bind_ok, Form.build, List.map_map]
    rfl
  · rw [on_shaped stands.holds _ _ _ holds_texts, trees_texts, formed]
    simp only [lift, pure_bind, Form.buildLive, map_eq_pure_bind]
    rw [Live.on_bind_ok copied]
  · rintro later ⟨q, turned, isNode, isTree⟩
    exact ⟨q, step.trans turned, isNode, isTree⟩

/-- The type of a schema in a store follows that of what the schema is rewritten to, with null left out of account. -/
private theorem tracks_shape {names : List String} (keeps : KeepsMaps g) (stands : world.store.Stands [.map id entries])
    (apart : names.Nodup) (notNull : "null" ∉ names)
    (noReference : Entries.field? (treesUnder entries) "$ref" = none) {nullable : Bool}
    (typed : typesOf (treesUnder entries) = .types nullable (names.map .text))
    (rewritten : rewriteSpots g (spotsIn name (treesUnder entries) (names.map .text)) (treesUnder entries) = some left)
    (each : ∀ spot ∈ spotsIn name (treesUnder entries) (names.map .text), ∀ part ∈ spot.parts (treesUnder entries),
      Leads crew document g part) :
    Tracks crew world (6 * (Value.map left).size - 2) (shaped document · name (.map left) (names.map .text))
      (shaped crew.document · name (.cell id) ((texts names).map node))
      fun later => world.store.Turns later.store (.map id entries) (.map left) := by
  have positive := (Value.map left).size_pos
  cases formed : formOf name (treesUnder entries) (names.map .text) with
  | error fault =>
    simp only [spotsIn, formed] at rewritten
    cases rewritten
    refine ⟨.error fault, world, fun depth enough => ?_, fun _ => nofun⟩
    obtain ⟨less, rfl⟩ : ∃ less, depth = less + 1 := ⟨depth - 1, by omega⟩
    dsimp only
    refine ⟨by rw [shaped_map, formed, except_bind_error], ?_⟩
    rw [on_shaped stands.holds _ _ _ holds_texts, trees_texts, formed]
    rfl
  | ok form =>
    by_cases copies : ∃ members, form = .copies members
    · obtain ⟨members, rfl⟩ := copies
      have spots : spotsIn name (treesUnder entries) (names.map .text) = spotsForTypes (treesUnder entries) names := by
        simp only [spotsIn, formed, spotsForTypes, List.flatMap_map]
      rw [spots] at rewritten each
      refine tracks_several keeps stands apart notNull noReference typed formed rewritten fun type listed spot isSpot => ?_
      exact each spot (List.mem_flatMap.mpr ⟨type, listed, isSpot⟩)
    · have spots : spotsIn name (treesUnder entries) (names.map .text) = form.spots (treesUnder entries) := by
        rw [spotsIn, formed]
        cases form with
        | copies members => exact absurd ⟨members, rfl⟩ copies
        | _ => rfl
      rw [spots] at rewritten each
      obtain ⟨other, visit, outcome, there⟩ :=
        form_follows keeps formed (fun members isCopies => copies ⟨members, isCopies⟩) rewritten each
      have bound : visitSteps visit + 1 ≤ 6 * (Value.map left).size - 2 := by
        cases visit with
        | none =>
          rw [visitSteps]
          omega
        | some visit =>
          have inside := Value.size_field? outcome.visited
          rw [visitSteps]
          omega
      refine ((tracks_shaped stands formed there outcome.follows).more bound).weaken fun later visited => ?_
      obtain ⟨others, step, -, isLeft⟩ := visited.inside stands
      exact ⟨.map id others, step, rfl, congrArg Value.map (isLeft.trans outcome.isLeft.symm)⟩

/-- A schema that has been edited follows what its parts are rewritten to. -/
theorem tracks_rewritten (document : Value) (keeps : KeepsMaps g) (stands : world.store.Stands [.map id entries])
    (orderly : Orderly (treesUnder entries))
    (rewritten : rewriteSpots g (spotsOf name (treesUnder entries)) (treesUnder entries) = some left)
    (each : ∀ spot ∈ spotsOf name (treesUnder entries), ∀ part ∈ spot.parts (treesUnder entries),
      Leads crew document g part) :
    Tracks crew world (6 * (Value.map left).size - 1) (unannounced document · name (.map left))
      (unannounced crew.document · name (.cell id))
      fun later => world.store.Turns later.store (.map id entries) (.map left) := by
  have positive := (Value.map left).size_pos
  -- where the schema has no parts, nothing happens
  have still : ∀ type, treesUnder entries = left →
      (∀ depth, (unannounced document (depth + 1) name (.map left) : Except Fault Expr) = .ok type) →
      (∀ depth, ((unannounced crew.document (depth + 1) name (.cell id) : Live Expr) crew).on world = (.ok type, world)) →
      Tracks crew world (6 * (Value.map left).size - 1) (unannounced document · name (.map left))
        (unannounced crew.document · name (.cell id))
        fun later => world.store.Turns later.store (.map id entries) (.map left) := by
    rintro type rfl plainly lively
    have same : world.store.Turns world.store (.map id entries) (.map (treesUnder entries)) :=
      ⟨.map id entries, .refl stands, rfl, rfl⟩
    exact ((tracks_pure type same).step world plainly lively).more (show 0 + 1 ≤ _ by omega)
  cases reference : Entries.field? (treesUnder entries) "$ref" with
  | some target =>
    obtain ⟨ref, component, rfl, named⟩ := orderly.reference target reference
    simp only [spotsOf, reference] at rewritten
    obtain rfl := Option.some.inj rewritten
    refine still _ rfl (fun depth => ?_) fun depth =>
      on_unannounced_component stands.holds crew.document depth name reference named
    rw [unannounced_map, reference]
    simp only [Value.shape_atom, component?, named, except_bind_ok]
  | none =>
    cases typed : typesOf (treesUnder entries) with
    | nullOnly =>
      simp only [spotsOf, reference, typed] at rewritten
      obtain rfl := Option.some.inj rewritten
      refine still _ rfl (fun depth => ?_) fun depth =>
        on_unannounced_nullOnly stands.holds crew.document depth name reference typed
      rw [unannounced_map, reference]
      simp only [typed]
    | types nullable types =>
      obtain ⟨names, rfl, apart, notNull⟩ := orderly.names typed
      simp only [spotsOf, reference, typed] at rewritten each
      have same : ∀ key ∉ partKeys, Entries.field? left key = Entries.field? (treesUnder entries) key := fun key outside =>
        field?_rewriteSpots (fun spot isSpot same => outside (same ▸ spotsIn_key isSpot)) rewritten
      have typedThere : typesOf left = .types nullable (names.map .text) := by
        rw [typesOf_congr (same "type" (by decide)) (same "nullable" (by decide)), typed]
      have shapes := tracks_shape keeps stands apart notNull reference typed rewritten each
      refine (tracks_unannounced stands reference ((same "$ref" (by decide)).trans reference) typed typedThere
        shapes fun later turns => ?_).more (by omega)
      obtain ⟨others, step, isLeft⟩ := turns.map_inv
      exact ⟨others, step.stands, by rw [isLeft]⟩

end

end ClientGen.SchemaType
