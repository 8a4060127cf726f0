import ClientGen.Proofs.Schema.LiveCopies
import ClientGen.Proofs.Schema.RewrittenForm

/-!
Copies of a schema in a store. A copy for one of the types of a schema is a cell of its own, whose parts are those of
the schema (`Copied`). Its conversion may visit one part, and turns that part in the schema and in every other copy; the
copies that follow visit other parts, since no type is listed twice. So the copies of a schema in a store follow those
of what the schema is rewritten to (`tracks_copies`).
-/

namespace ClientGen

namespace Store

open Placed

variable {store before after : Store} {ps : List Placed}

/-- What stands in a store stands there when a cell is added. -/
theorem becomes_add (stands : store.Stands ps) (l : Shape Node) : store.Becomes (store.add l).2 ps ps := by
  have kept : ∀ c < store.cells.size, (store.add l).2.cells[c]? = store.cells[c]? := fun c old => by
    rw [Store.add, Array.getElem?_push, if_neg (by omega)]
  refine ⟨⟨fun m inside => ?_, stands.apart⟩, fun c member => .inl member, fun c old _ => kept c old, ?_⟩
  · rw [kept m.1 (stands.holds.lt_size (List.mem_map_of_mem inside)), stands.holds m inside]
  · rw [Store.add, Array.size_push]
    exact Nat.le_succ _

end Store

namespace Placed

/-- Setting an entry to an atom takes containers away, and adds none. -/
theorem layersOf_put_sublist (entries : List (Atom × Placed)) (key a : Atom) :
    (layersOf ((Entries.put entries key (.atom a)).map (·.2))).Sublist (layersOf (entries.map (·.2))) := by
  unfold Entries.put
  split
  · clear * -
    induction entries with
    | nil => exact .refl _
    | cons entry rest ih =>
      simp only [List.map_cons, layersOf]
      split
      · exact ih.trans (List.sublist_append_right _ _)
      · exact ih.append_left _
  · rw [List.map_append, layersOf_append]
    exact (List.append_nil _).symm ▸ .refl _

end Placed

namespace SchemaType

open Placed

/-- A cell holds a copy of a schema for one of its types. -/
structure Copied (store : Store) (id : Nat) (entries : List (Atom × Placed)) (copy : Nat) (type : String) : Prop where
  here : store.cells[copy]? = some (.map (Entries.mapValues node (copyOf entries (.atom (.text type)))))
  outside : copy ∉ Placed.cells [.map id entries]

section

variable {store before after : Store} {id copy : Nat} {entries others : List (Atom × Placed)} {type : String}

/-- A copy stands in the store by itself, with the parts of its schema. -/
theorem Copied.stands (copied : Copied store id entries copy type) (stands : store.Stands [.map id entries]) :
    store.Stands [.map copy (copyOf entries (.atom (.text type)))] := by
  have fewer : (layersOf ((copyOf entries (.atom (.text type))).map (·.2))).Sublist (layersOf (entries.map (·.2))) :=
    (layersOf_put_sublist _ _ _).trans (layersOf_put_sublist _ _ _)
  have parts := stands.map_entries
  refine ⟨Store.holds_map.mpr ⟨copied.here, fun l inside => parts.holds l (fewer.subset inside)⟩, ?_⟩
  rw [cells_map, List.nodup_cons]
  refine ⟨fun member => copied.outside ?_, (fewer.map _).nodup parts.apart⟩
  rw [cells_map]
  exact List.mem_cons_of_mem _ ((fewer.map _).subset member)

/-- A step on a schema that leaves its entries where they are leaves its copies where they are. -/
theorem Copied.kept (copied : Copied before id entries copy type)
    (step : before.Becomes after [.map id entries] [.map id others])
    (nodes : Entries.mapValues node others = Entries.mapValues node entries) : Copied after id others copy type := by
  have old : copy < before.cells.size := (Array.getElem?_eq_some_iff.mp copied.here).1
  refine ⟨?_, fun member => ?_⟩
  · rw [step.frame copy old copied.outside, copied.here, mapValues_copyOf, mapValues_copyOf, nodes]
  · rcases step.own copy member with inside | new
    · exact copied.outside inside
    · omega

end

section

variable {crew : Crew} {world : World} {id : Nat} {entries : List (Atom × Placed)}

/-- Copies of a schema are new cells. -/
theorem on_copies (stands : world.store.Stands [.map id entries]) (names : List String) :
    ∃ copies later, ((SchemaType.copies (.cell id) ((texts names).map node) : Live (List Node)) crew).on world =
        (.ok (copies.map .cell), later) ∧
      world.store.Becomes later.store [.map id entries] [.map id entries] ∧
      List.Forall₂ (Copied later.store id entries) copies names := by
  induction names generalizing world with
  | nil => exact ⟨[], world, rfl, .refl stands, .nil⟩
  | cons name rest ih =>
    let next := withCopy world entries (.atom (.text name))
    have first : world.store.Becomes next.store [.map id entries] [.map id entries] := Store.becomes_add stands _
    obtain ⟨copies, later, done, step, copied⟩ := ih first.stands
    have isCopy : Copied next.store id entries world.store.cells.size name := by
      refine ⟨Array.getElem?_push_size, fun member => ?_⟩
      exact Nat.lt_irrefl _ (stands.holds.lt_size member)
    refine ⟨world.store.cells.size :: copies, later, ?_, first.trans step, .cons (isCopy.kept step rfl) copied⟩
    rw [texts, List.map_cons, List.map_cons, SchemaType.copies, Live.on_bind_ok (on_retyped stands.holds _),
      ← texts, Live.on_bind_ok done]
    rfl

end

section

variable {crew : Crew} {document : Value} {g : Value → Option Value} {world : World} {id : Nat}
  {entries : List (Atom × Placed)} {type : String}

private theorem alternativesKey_copyOf :
    alternativesKey (treesUnder (copyOf entries (.atom (.text type)))) = alternativesKey (treesUnder entries) := by
  rw [treesUnder_copyOf, alternativesKey, alternativesKey, membersAt_retyped _ _ (by decide) (by decide)]

/-- What follows the parts of a schema follows those of a copy. -/
private theorem Form.Follows.copy {form other : Form} {visit : Option (String × Value)}
    (follows : form.Follows crew document entries other visit) :
    form.Follows crew document (copyOf entries (.atom (.text type))) other visit := by
  cases follows with
  | literals => exact .literals
  | union found each =>
    rw [← @alternativesKey_copyOf entries type] at found ⊢
    have there := found
    rw [← field?_copyOf] at there
    · exact .union there each
    all_goals
      unfold alternativesKey
      split <;> decide
  | conjunction found each => exact .conjunction (by rwa [field?_copyOf (by decide) (by decide)]) each
  | arrayOfAny => exact .arrayOfAny
  | array found part => exact .array (by rwa [field?_copyOf (by decide) (by decide)]) part
  | record found each => exact .record (by rwa [field?_copyOf (by decide) (by decide)]) each
  | mappingToAny => exact .mappingToAny
  | mapping found part => exact .mapping (by rwa [field?_copyOf (by decide) (by decide)]) part
  | emptied found part => exact .emptied (by rwa [field?_copyOf (by decide) (by decide)]) part
  | simple => exact .simple

/-- A copy has the form of its type. -/
private theorem formOf_copy {inner : List (Atom × Value)} {form : Form} (isOpen : IsOpen inner)
    (formed : kindForm none inner (.named type) = .ok form) :
    formOf none (retypedEntries inner (.text type) (.bool false)) [.text type] = .ok form := by
  have same : ∀ key ∈ ["enum", "const", "oneOf", "anyOf", "allOf"] ++
      ["items", "properties", "required", "additionalProperties", "format"],
      Entries.field? (retypedEntries inner (.text type) (.bool false)) key = Entries.field? inner key := by
    refine fun key isKey => field?_retyped inner _ ?_ ?_ <;> revert key <;> decide
  have stillOpen : IsOpen (retypedEntries inner (.text type) (.bool false)) :=
    isOpen.congr fun key isKey => same key (List.mem_append_left _ isKey)
  have isKind : kindIn (retypedEntries inner (.text type) (.bool false)) [.text type] = .ok (.named type) := rfl
  rw [formOf_of_open stillOpen, if_neg (by simp), isKind, except_bind_ok, ← formed]
  exact kindForm_congr fun key isKey => same key (List.mem_append_right _ (kindKeys_subset isKey))

private theorem listsNull_copy (inner : List (Atom × Value)) :
    listsNull (retypedEntries inner (.text type) (.bool false)) = listsNull inner :=
  listsNull_congr (field?_retyped inner _ (by decide) (by decide))

private theorem typesOf_copy (inner : List (Atom × Value)) (notNull : type ≠ "null") :
    typesOf (retypedEntries inner (.text type) (.bool false)) = .types false [.text type] := by
  have nullable : isNullable (retypedEntries inner (.text type) (.bool false)) = false := by
    rw [isNullable, retypedEntries, Entries.field?_put_self]
    rfl
  rw [typesOf, type_retyped, nullable]
  split
  · rename_i isList
    cases isList
  · rename_i isNull
    cases isNull
    exact absurd rfl notNull
  · rename_i isText
    cases isText
    rfl
  · rename_i noText
    exact absurd rfl (noText type)

/-- A copy of a schema follows the copy of what the schema is rewritten to. -/
private theorem tracks_copy {copy : Nat} {form other : Form} {visit : Option (String × Value)} {final : List (Atom × Value)}
    (stands : world.store.Stands [.map id entries]) (copied : Copied world.store id entries copy type)
    (notNull : type ≠ "null") (noReference : Entries.field? (treesUnder entries) "$ref" = none)
    (isOpen : IsOpen (treesUnder entries)) (formed : kindForm none (treesUnder entries) (.named type) = .ok form)
    (same : ∀ key ∉ innerKeys, Entries.field? final key = Entries.field? (treesUnder entries) key)
    (formedThere : kindForm none final (.named type) = .ok other)
    (follows : form.Follows crew document entries other visit)
    (isInner : ∀ key v, visit = some (key, v) → key ∈ innerKeys) :
    Tracks crew world (visitSteps visit + 2) (unannounced document · none (retypedTo final (.text type)))
      (unannounced crew.document · none (.cell copy))
      fun later => Visited world.store later.store entries visit := by
  have noneThere : Entries.field? final "$ref" = none := (same _ (by decide)).trans noReference
  have isOpenThere : IsOpen final := isOpen.congr fun key isKey => same key (by revert key; decide)
  have standsCopy := copied.stands stands
  have trees : treesUnder (copyOf entries (.atom (.text type))) =
      retypedEntries (treesUnder entries) (.text type) (.bool false) := treesUnder_copyOf entries _
  have formedCopy : formOf none (treesUnder (copyOf entries (.atom (.text type))))
      (([type] : List String).map Value.text) = .ok form := by
    rw [trees]
    exact formOf_copy isOpen formed
  have shapes := tracks_shaped standsCopy formedCopy (formOf_copy isOpenThere formedThere) follows.copy
  have kept : ∀ later : World, Visited world.store later.store (copyOf entries (.atom (.text type))) visit →
      ∃ after, later.store.Stands [.map copy after] ∧
        listsNull (treesUnder after) = listsNull (retypedEntries final (.text type) (.bool false)) := by
    intro later visited
    obtain ⟨after, step, -, isLeft⟩ := visited.inside standsCopy
    have enum : Entries.field? (afterVisit (treesUnder (copyOf entries (.atom (.text type)))) visit) "enum" =
        Entries.field? (treesUnder (copyOf entries (.atom (.text type)))) "enum" :=
      field?_afterVisit fun v isVisit => absurd (isInner _ v isVisit) (by decide)
    refine ⟨after, step.stands, ?_⟩
    rw [isLeft, listsNull_congr enum, trees, listsNull_copy, listsNull_copy, listsNull_congr (same "enum" (by decide))]
  have typed : typesOf (treesUnder (copyOf entries (.atom (.text type)))) =
      .types false (([type] : List String).map Value.text) := by
    rw [trees]
    exact typesOf_copy _ notNull
  refine (tracks_unannounced standsCopy ?_ ?_ typed (typesOf_copy final notNull) shapes kept).weaken ?_
  · rw [trees, field?_retyped _ _ (by decide) (by decide), noReference]
  · rw [field?_retyped _ _ (by decide) (by decide), noneThere]
  · intro later visited
    cases visit with
    | none => exact visited
    | some visit =>
      obtain ⟨p, found, turns⟩ := visited
      have isKey := isInner visit.1 visit.2 rfl
      have differ : visit.1 ≠ "type" ∧ visit.1 ≠ "nullable" := by
        revert isKey
        generalize visit.1 = key
        revert key
        decide
      exact ⟨p, by rwa [field?_copyOf differ.1 differ.2] at found, turns⟩

/-- Copies of a schema for different types follow the copies of what the schema is rewritten to. -/
theorem tracks_copies {names : List String} {copies : List Nat} {final : List (Atom × Value)} {steps : Nat}
    (keeps : KeepsMaps g) (stands : world.store.Stands [.map id entries])
    (copied : List.Forall₂ (Copied world.store id entries) copies names) (apart : names.Nodup)
    (notNull : "null" ∉ names) (noReference : Entries.field? (treesUnder entries) "$ref" = none)
    (isOpen : IsOpen (treesUnder entries))
    (rewritten : rewriteSpots g (spotsForTypes (treesUnder entries) names) (treesUnder entries) = some final)
    (each : ∀ name ∈ names, ∀ spot ∈ spotsForType (treesUnder entries) (.text name),
      ∀ part ∈ spot.parts (treesUnder entries), Leads crew document g part)
    (least : 2 ≤ steps) (enough : ∀ key ∈ innerKeys, ∀ v, Entries.field? final key = some v → 6 * v.size + 2 ≤ steps) :
    Tracks crew world (steps + names.length + 1)
      (convertCopies document · (names.map fun name => retypedTo final (.text name)))
      (convertCopies crew.document · (copies.map Node.cell))
      fun later => world.store.Turns later.store (.map id entries) (.map final) := by
  induction names generalizing copies world entries with
  | nil =>
    cases copied
    have isFinal : treesUnder entries = final := Option.some.inj rewritten
    have same : world.store.Turns world.store (.map id entries) (.map final) :=
      ⟨.map id entries, .refl stands, rfl, congrArg Value.map isFinal⟩
    exact (tracks_pure [] same).step world (fun _ => rfl) fun _ => rfl
  | cons name names ih =>
    obtain ⟨copy, copies, isCopy, areCopies, rfl⟩ := List.forall₂_cons_right_iff.mp copied
    obtain ⟨form, formed, spots⟩ := kindForm_unnamed (treesUnder entries) name
    obtain ⟨middle, stages⟩ := stages apart rewritten
    have first := stages.first
    have eachFirst := each name List.mem_cons_self
    rw [spots (treesUnder entries)] at first eachFirst
    obtain ⟨other, visit, outcome, there⟩ := kind_follows keeps formed first eachFirst
    have visited : ∀ key v, visit = some (key, v) → key ∈ innerKeys ∧ Entries.field? final key = some v := by
      rintro key v rfl
      obtain ⟨spot, isSpot, rfl⟩ := outcome.atSpot key v rfl
      rw [← spots] at isSpot
      have keys := spotsForType_key isSpot
      exact ⟨keys.1, (stages.kept _ ((keys.2 _).mpr rfl)).trans outcome.visited⟩
    have isNotNull : name ≠ "null" := fun isNull => notNull (isNull ▸ List.mem_cons_self)
    have tracks := tracks_copy stands isCopy isNotNull noReference isOpen formed stages.outside
      ((kindForm_congr stages.kept).trans there) outcome.follows fun key v isVisit => (visited key v isVisit).1
    have bound : visitSteps visit + 2 ≤ steps := by
      cases visit with
      | none => exact least
      | some visit => exact enough visit.1 (visited _ _ rfl).1 visit.2 (visited _ _ rfl).2
    have rest : ∀ type later, Visited world.store later.store entries visit →
        Tracks crew later (steps + names.length + 1)
          (fun depth => (type :: ·) <$> convertCopies document depth (names.map fun name => retypedTo final (.text name)))
          (fun depth => (type :: ·) <$> convertCopies crew.document depth (copies.map Node.cell))
          fun last => world.store.Turns last.store (.map id entries) (.map final) := by
      intro type later visited
      obtain ⟨others, step, nodes, isMiddle⟩ := visited.inside stands
      rw [← outcome.isLeft] at isMiddle
      subst isMiddle
      have copiedLater := areCopies.imp fun copy name copied => copied.kept step nodes
      have eachLater : ∀ later ∈ names, ∀ spot ∈ spotsForType (treesUnder others) (.text later),
          ∀ part ∈ spot.parts (treesUnder others), Leads crew document g part := by
        intro later isLater spot isSpot part isPart
        obtain ⟨isSpotThere, sameParts⟩ := stages.parts isLater isSpot
        exact each later (List.mem_cons_of_mem _ isLater) spot isSpotThere part (sameParts ▸ isPart)
      have noReferenceLater := (stages.outsideFirst "$ref" (by decide)).trans noReference
      have isOpenLater := isOpen.congr fun key isKey => stages.outsideFirst key (by revert key; decide)
      have tracks := ih step.stands copiedLater (List.nodup_cons.mp apart).2
        (fun member => notNull (List.mem_cons_of_mem _ member)) noReferenceLater isOpenLater stages.rest eachLater
      refine (tracks.map (type :: ·)).weaken ?_
      rintro last ⟨q, turned, isNode, isTree⟩
      exact ⟨q, step.trans turned, isNode, isTree⟩
    have enoughHere := tracks.more (show _ ≤ steps + names.length + 1 by omega)
    refine (enoughHere.bind rest).step world (fun depth => ?_) fun depth => ?_
    · rw [List.map_cons, convertCopies]
      simp only [map_eq_pure_bind]
    · rw [List.map_cons, convertCopies]
      simp only [map_eq_pure_bind]

end

end SchemaType

end ClientGen
