import ClientGen.Proofs.Schema.LiveForm
import ClientGen.Proofs.Schema.Rules

/-!
Conversions side by side. A conversion with plugins of what stands in a store is compared with a conversion of another
schema without plugins, step by step: both come to the same outcome, and the first leaves the schema of the second in
the store (`Tracks`, `Follows`). Where the parts of a form follow schemas, its type follows the type of the form of
these schemas (`tracks_build`).
-/

namespace ClientGen

namespace Entries

variable {α β : Type}

theorem replace_mapValues (h : α → β) (entries : List (Atom × α)) (key : String) (value : α) :
    replace (mapValues h entries) key (h value) = mapValues h (replace entries key value) := by
  induction entries with
  | nil => rfl
  | cons entry rest ih =>
    rw [mapValues_cons, replace, replace]
    split
    · rfl
    · rw [ih]
      rfl

end Entries

namespace Store

open Placed

variable {before after : Store} {p : Placed} {v : Value}

/-- A step has turned a tree into one of another value, in its place. -/
def Turns (before after : Store) (p : Placed) (v : Value) : Prop :=
  ∃ q, before.Becomes after [p] [q] ∧ q.node = p.node ∧ q.tree = v

theorem Turns.list {id : Nat} {items others : List Placed} (step : before.Becomes after items others)
    (nodes : others.map node = items.map node) (stands : before.Stands [.list id items]) :
    before.Turns after (.list id items) (.list (trees others)) :=
  ⟨.list id others, step.list stands nodes, rfl, rfl⟩

theorem Turns.map {id : Nat} {entries others : List (Atom × Placed)}
    (step : before.Becomes after (entries.map (·.2)) (others.map (·.2)))
    (nodes : Entries.mapValues node others = Entries.mapValues node entries) (stands : before.Stands [.map id entries]) :
    before.Turns after (.map id entries) (.map (treesUnder others)) :=
  ⟨.map id others, step.map stands nodes, rfl, rfl⟩

/-- What stands under a key may be turned inside its mapping. -/
theorem Turns.inside {id : Nat} {entries : List (Atom × Placed)} {key : String} (turns : before.Turns after p v)
    (found : Entries.field? entries key = some p) (stands : before.Stands [.map id entries]) :
    ∃ others, before.Becomes after [.map id entries] [.map id others] ∧
      Entries.mapValues node others = Entries.mapValues node entries ∧
      treesUnder others = Entries.replace (treesUnder entries) key v := by
  obtain ⟨q, step, isNode, rfl⟩ := turns
  obtain ⟨front, name, back, rfl, replaced⟩ := Entries.split_of_field? found
  have nodes : Entries.mapValues node (front ++ (name, q) :: back) =
      Entries.mapValues node (front ++ (name, p) :: back) := by
    rw [Entries.mapValues_append, Entries.mapValues_append, Entries.mapValues_cons, Entries.mapValues_cons, isNode]
  have parts := stands.map_entries
  have within := @Becomes.among before after [p] [q] (front.map (·.2)) (back.map (·.2)) step (by simpa using parts)
  refine ⟨front ++ (name, q) :: back, Becomes.map (by simpa using within) stands nodes, nodes, ?_⟩
  rw [treesUnder_eq, treesUnder_eq, Entries.replace_mapValues, replaced]

/-- A mapping that is turned into another still stands in its cell. -/
theorem Turns.map_inv {id : Nat} {entries : List (Atom × Placed)} {inner : List (Atom × Value)}
    (turns : before.Turns after (.map id entries) (.map inner)) :
    ∃ others, before.Becomes after [.map id entries] [.map id others] ∧ treesUnder others = inner := by
  obtain ⟨q, step, isNode, isTree⟩ := turns
  cases q with
  | map at_ others =>
    obtain rfl : at_ = id := Node.cell.inj isNode
    exact ⟨others, step, Value.map.inj isTree⟩
  | _ => cases isTree

end Store

namespace SchemaType

open Placed

/-- A run without plugins and one with plugins come to the same outcome, given enough steps; where they yield
something, the world that the plugins leave behind has a property. -/
def Tracks {α : Type} (crew : Crew) (world : World) (steps : Nat) (plain : Nat → Except Fault α) (live : Nat → Live α)
    (left : World → Prop) : Prop :=
  ∃ result later, (∀ depth ≥ steps, plain depth = result ∧ (live depth crew).on world = (result, later)) ∧
    ∀ a, result = .ok a → left later

section

variable {α β : Type} {crew : Crew} {world : World} {steps : Nat} {plain : Nat → Except Fault α} {live : Nat → Live α}
  {left : World → Prop}

theorem Tracks.more {more : Nat} (tracks : Tracks crew world steps plain live left) (bound : steps ≤ more) :
    Tracks crew world more plain live left := by
  obtain ⟨result, later, same, holds⟩ := tracks
  exact ⟨result, later, fun depth enough => same depth (Nat.le_trans bound enough), holds⟩

theorem Tracks.weaken {weaker : World → Prop} (tracks : Tracks crew world steps plain live left)
    (weakens : ∀ later, left later → weaker later) : Tracks crew world steps plain live weaker := by
  obtain ⟨result, later, same, holds⟩ := tracks
  exact ⟨result, later, same, fun a isOk => weakens later (holds a isOk)⟩

theorem tracks_pure (a : α) (holds : left world) : Tracks crew world steps (fun _ => .ok a) (fun _ => pure a) left :=
  ⟨.ok a, world, fun _ _ => ⟨rfl, rfl⟩, fun _ _ => holds⟩

theorem Tracks.bind {next : α → Nat → Except Fault β} {liveNext : α → Nat → Live β} {last : World → Prop}
    (first : Tracks crew world steps plain live left)
    (rest : ∀ a later, left later → Tracks crew later steps (next a) (liveNext a) last) :
    Tracks crew world steps (fun depth => plain depth >>= (next · depth)) (fun depth => live depth >>= (liveNext · depth))
      last := by
  obtain ⟨result, later, same, holds⟩ := first
  cases result with
  | error fault =>
    refine ⟨.error fault, later, fun depth enough => ?_, fun _ => nofun⟩
    obtain ⟨plainly, lively⟩ := same depth enough
    dsimp only
    exact ⟨by rw [plainly, except_bind_error], Live.on_bind_error lively⟩
  | ok a =>
    obtain ⟨result, last, sameRest, holdsRest⟩ := rest a later (holds a rfl)
    refine ⟨result, last, fun depth enough => ?_, holdsRest⟩
    obtain ⟨plainly, lively⟩ := same depth enough
    obtain ⟨plainRest, liveRest⟩ := sameRest depth enough
    dsimp only
    exact ⟨by rw [plainly, except_bind_ok, plainRest], by rw [Live.on_bind_ok lively, liveRest]⟩

theorem Tracks.map (f : α → β) (tracks : Tracks crew world steps plain live left) :
    Tracks crew world steps (fun depth => f <$> plain depth) (fun depth => f <$> live depth) left := by
  simp only [map_eq_pure_bind]
  exact tracks.bind fun a later holds => tracks_pure (f a) holds

/-- One more step leads to runs that are tracked. -/
theorem Tracks.step {whole : Nat → Except Fault α} {liveWhole : Nat → Live α}
    (tracks : Tracks crew world steps plain live left) (before : World) (plainly : ∀ depth, whole (depth + 1) = plain depth)
    (lively : ∀ depth, (liveWhole (depth + 1) crew).on before = (live depth crew).on world) :
    Tracks crew before (steps + 1) whole liveWhole left := by
  obtain ⟨result, later, same, holds⟩ := tracks
  refine ⟨result, later, fun depth enough => ?_, holds⟩
  obtain ⟨less, rfl⟩ : ∃ less, depth = less + 1 := ⟨depth - 1, by omega⟩
  obtain ⟨plainRest, liveRest⟩ := same less (by omega)
  exact ⟨by rw [plainly, plainRest], by rw [lively, liveRest]⟩

end

/-- Wherever a schema stands, its conversion with plugins is that of another schema without, and leaves the other
schema in its place. -/
def Follows (crew : Crew) (document : Value) (name : Option String) (p : Placed) (schema : Value) : Prop :=
  ∀ world : World, world.store.Stands [p] →
    Tracks crew world (6 * schema.size) (convert document · name schema) (convert crew.document · name p.node)
      fun later => world.store.Turns later.store p schema

section

variable {crew : Crew} {document : Value} {world : World} {steps : Nat}

/-- The items of a list in a store are converted in order. -/
theorem on_convertItems (document : Node) {id : Nat} {nodes : List Node}
    (here : world.store.cells[id]? = some (.list nodes)) (fuel index : Nat) :
    ((convertItems document (fuel + 1) (.cell id) index : Live (List Expr)) crew).on world =
      match nodes.drop index with
      | [] => (.ok [], world)
      | item :: _ => ((do
          let type ← convert document fuel none item
          (type :: ·) <$> convertItems document fuel (.cell id) (index + 1) : Live (List Expr)) crew).on world := by
  have isList : world.store.shape (.cell id) = .list nodes := by rw [Store.shape, here]; rfl
  rw [convertItems, Live.on_bind_ok (Live.on_shape _), isList]
  dsimp only
  cases drop : nodes.drop index with
  | nil =>
    have none : nodes[index]? = none := by simpa using drop
    rw [none]
    rfl
  | cons item rest =>
    have some : nodes[index]? = some item := by rw [← List.head?_drop, drop, List.head?_cons]
    simp only [some, map_eq_pure_bind]

/-- The items of a list are converted in order; the list itself stays where it is. -/
theorem tracks_items {id : Nat} {nodes : List Node} {rest : List Placed} {front values : List Value}
    (follows : List.Forall₂ (fun p schema => Follows crew document none p schema ∧ 6 * schema.size ≤ steps) rest values)
    (stands : world.store.Stands rest) (here : world.store.cells[id]? = some (.list nodes))
    (outside : id ∉ Placed.cells rest) (areRest : nodes.drop front.length = rest.map node) :
    Tracks crew world (steps + values.length + 1) (convertItems document · (.list (front ++ values)) front.length)
      (convertItems crew.document · (.cell id) front.length)
      fun later => ∃ others, world.store.Becomes later.store rest others ∧ others.map node = rest.map node ∧
        trees others = values := by
  induction follows generalizing front world with
  | nil =>
    refine (tracks_pure [] ⟨[], .refl stands, rfl, rfl⟩).step world (fun depth => ?_) fun depth => ?_
    · rw [convertItems_list, List.append_nil, List.drop_length]
    · rw [on_convertItems _ here, areRest]
      rfl
  | @cons p schema rest values first _ ih =>
    obtain ⟨firstFollows, enough⟩ := first
    have parts := stands.split
    have firstTracks := (firstFollows world parts.1).more (show _ ≤ steps + values.length + 1 by omega)
    have restTracks : ∀ type later, world.store.Turns later.store p schema →
        Tracks crew later (steps + values.length + 1)
          (fun depth => (type :: ·) <$> convertItems document depth (.list (front ++ schema :: values)) (front.length + 1))
          (fun depth => (type :: ·) <$> convertItems crew.document depth (.cell id) (front.length + 1))
          fun last => ∃ others, world.store.Becomes last.store (p :: rest) others ∧
            others.map node = (p :: rest).map node ∧ trees others = schema :: values := by
      rintro type later ⟨q, moved, isNode, isTree⟩
      rw [← List.singleton_append, cells_append, List.mem_append, not_or] at outside
      have restStands : later.store.Stands rest := (moved.head stands).stands.split.2
      have inside : id < world.store.cells.size := (Array.getElem?_eq_some_iff.mp here).1
      have still : later.store.cells[id]? = some (.list nodes) := by rw [moved.frame id inside outside.1, here]
      have areLater : nodes.drop (front ++ [schema]).length = rest.map node := by
        rw [List.length_append, List.length_singleton, ← List.tail_drop, areRest]
        rfl
      have tracks := ih restStands still outside.2 areLater
      rw [List.append_assoc, List.length_append] at tracks
      refine (tracks.map (type :: ·)).weaken ?_
      rintro last ⟨others, becomes, nodes, areTrees⟩
      refine ⟨q :: others, moved.cons stands becomes, ?_, ?_⟩
      · rw [List.map_cons, List.map_cons, isNode, nodes]
      · rw [trees, isTree, areTrees]
    refine (firstTracks.bind restTracks).step world (fun depth => ?_) fun depth => ?_
    · rw [convertItems_list, List.drop_left]
      simp only [map_eq_pure_bind, except_pure]
    · rw [on_convertItems _ here, areRest]
      rfl

theorem on_convertProperties (document : Node) (fuel : Nat) (required : List Value) (key : Atom) (schema : Node)
    (rest : List (Atom × Node)) :
    ((convertProperties document (fuel + 1) required ((key, schema) :: rest) : Live (List (Expr × Expr))) crew).on world =
      ((do
        let type ← convert document fuel none schema
        (recordEntry required key type :: ·) <$> convertProperties document fuel required rest :
          Live (List (Expr × Expr))) crew).on world := by
  simp only [convertProperties, map_eq_pure_bind, recordEntry]

/-- The properties of a record are converted in order. -/
theorem tracks_properties (required : List Value) {rest : List (Atom × Placed)} {properties : List (Atom × Value)}
    (follows : List.Forall₂ (fun p property => property.1 = p.1 ∧ Follows crew document none p.2 property.2 ∧
      6 * property.2.size ≤ steps) rest properties)
    (stands : world.store.Stands (rest.map (·.2))) :
    Tracks crew world (steps + properties.length + 1) (convertProperties document · required properties)
      (convertProperties crew.document · required (Entries.mapValues node rest))
      fun later => ∃ others, world.store.Becomes later.store (rest.map (·.2)) (others.map (·.2)) ∧
        Entries.mapValues node others = Entries.mapValues node rest ∧ treesUnder others = properties := by
  induction follows generalizing world with
  | nil =>
    exact (tracks_pure [] ⟨[], .refl stands, rfl, rfl⟩).step world (fun _ => rfl) fun _ => rfl
  | @cons p property rest properties first _ ih =>
    obtain ⟨key, p⟩ := p
    obtain ⟨name, schema⟩ := property
    obtain ⟨same, firstFollows, enough⟩ := first
    obtain rfl : name = key := same
    have firstTracks := (firstFollows world stands.split.1).more (show _ ≤ steps + properties.length + 1 by omega)
    have restTracks : ∀ type later, world.store.Turns later.store p schema →
        Tracks crew later (steps + properties.length + 1)
          (fun depth => (recordEntry required name type :: ·) <$> convertProperties document depth required properties)
          (fun depth => (recordEntry required name type :: ·) <$>
            convertProperties crew.document depth required (Entries.mapValues node rest))
          fun last => ∃ others, world.store.Becomes last.store (((name, p) :: rest).map (·.2)) (others.map (·.2)) ∧
            Entries.mapValues node others = Entries.mapValues node ((name, p) :: rest) ∧
            treesUnder others = (name, schema) :: properties := by
      rintro type later ⟨q, moved, isNode, isTree⟩
      refine ((ih (moved.head stands).stands.split.2).map (recordEntry required name type :: ·)).weaken ?_
      rintro last ⟨others, becomes, nodes, areTrees⟩
      refine ⟨(name, q) :: others, moved.cons stands becomes, ?_, ?_⟩
      · rw [Entries.mapValues_cons, Entries.mapValues_cons, isNode, nodes]
      · rw [treesUnder, isTree, areTrees]
    refine (firstTracks.bind restTracks).step world (fun depth => ?_) fun depth => ?_
    · simp only [convertProperties, map_eq_pure_bind, except_pure, recordEntry]
    · rw [Entries.mapValues_cons, on_convertProperties]

end

/-! ### Forms -/

/-- Entries after a visit to what stands under a key. -/
def afterVisit (entries : List (Atom × Value)) : Option (String × Value) → List (Atom × Value)
  | none => entries
  | some (key, v) => Entries.replace entries key v

theorem field?_afterVisit {entries : List (Atom × Value)} {visit : Option (String × Value)} {key : String}
    (elsewhere : ∀ v, visit ≠ some (key, v)) :
    Entries.field? (afterVisit entries visit) key = Entries.field? entries key := by
  cases visit with
  | none => rfl
  | some visit => exact Entries.field?_replace_of_ne entries visit.2 fun same => elsewhere visit.2 (by rw [← same])

/-- What stands under a key has been turned into another value, or nothing has happened. -/
def Visited (before after : Store) (entries : List (Atom × Placed)) : Option (String × Value) → Prop
  | none => after = before
  | some (key, v) => ∃ p, Entries.field? entries key = some p ∧ before.Turns after p v

theorem Visited.inside {before after : Store} {entries : List (Atom × Placed)} {visit : Option (String × Value)} {id : Nat}
    (visited : Visited before after entries visit) (stands : before.Stands [.map id entries]) :
    ∃ others, before.Becomes after [.map id entries] [.map id others] ∧
      Entries.mapValues node others = Entries.mapValues node entries ∧
      treesUnder others = afterVisit (treesUnder entries) visit := by
  cases visit with
  | none =>
    obtain rfl : after = before := visited
    exact ⟨entries, .refl stands, rfl, rfl⟩
  | some visit =>
    obtain ⟨p, found, turns⟩ := visited
    exact turns.inside found stands

/-- The steps that a visit may take. -/
def visitSteps : Option (String × Value) → Nat
  | none => 0
  | some (_, v) => 6 * v.size

/-- The parts of a form follow those of another. The conversion visits what stands under one key, at most. -/
inductive Form.Follows (crew : Crew) (document : Value) (entries : List (Atom × Placed)) :
    Form → Form → Option (String × Value) → Prop
  | literals {values} : Follows crew document entries (.literals values) (.literals values) none
  | union {id items schemas}
    (found : Entries.field? entries (alternativesKey (treesUnder entries)) = some (.list id items))
    (each : List.Forall₂ (SchemaType.Follows crew document none) items schemas) :
    Follows crew document entries (.union (trees items)) (.union schemas)
      (some (alternativesKey (treesUnder entries), .list schemas))
  | conjunction {id items schemas} (found : Entries.field? entries "allOf" = some (.list id items))
    (each : List.Forall₂ (SchemaType.Follows crew document none) items schemas) :
    Follows crew document entries (.conjunction (trees items)) (.conjunction schemas) (some ("allOf", .list schemas))
  | arrayOfAny : Follows crew document entries (.array none) (.array none) none
  | array {p schema} (found : Entries.field? entries "items" = some p)
    (part : SchemaType.Follows crew document none p schema) :
    Follows crew document entries (.array (some p.tree)) (.array (some schema)) (some ("items", schema))
  | record {required id inner properties} (found : Entries.field? entries "properties" = some (.map id inner))
    (each : List.Forall₂ (fun p property => property.1 = p.1 ∧ SchemaType.Follows crew document none p.2 property.2)
      inner properties) :
    Follows crew document entries (.record required (treesUnder inner)) (.record required properties)
      (some ("properties", .map properties))
  | mappingToAny : Follows crew document entries (.mapping none) (.mapping none) none
  | mapping {p schema} (found : Entries.field? entries "additionalProperties" = some p)
    (part : SchemaType.Follows crew document none p schema) :
    Follows crew document entries (.mapping (some p.tree)) (.mapping (some schema))
      (some ("additionalProperties", schema))
  | emptied {p} (found : Entries.field? entries "additionalProperties" = some p)
    (part : SchemaType.Follows crew document none p (.map [])) :
    Follows crew document entries (.mapping (some p.tree)) (.mapping none) (some ("additionalProperties", .map []))
  | simple {type} : Follows crew document entries (.simple type) (.simple type) none

section

variable {crew : Crew} {document : Value} {world : World} {id : Nat} {entries : List (Atom × Placed)}

/-- Steps that suffice for each of several schemas and for counting them. -/
private theorem steps_of_mem {schema : Value} {schemas : List Value} (member : schema ∈ schemas) :
    6 * schema.size ≤ 6 * (Value.list schemas).size - schemas.length - 1 := by
  have inside := Value.size_add_length_le member
  have positive := List.length_pos_of_mem member
  rw [Value.size]
  omega

private theorem steps_of_items (schemas : List Value) :
    6 * (Value.list schemas).size - schemas.length - 1 + schemas.length + 1 ≤ 6 * (Value.list schemas).size := by
  have counted := Value.length_le_sizeItems schemas
  rw [Value.size]
  omega

/-- The members of a list under a key are converted in order. -/
private theorem tracks_members {key : String} {at_ : Nat} {items : List Placed} {schemas : List Value}
    (stands : world.store.Stands [.map id entries]) (found : Entries.field? entries key = some (.list at_ items))
    (each : List.Forall₂ (Follows crew document none) items schemas) :
    Tracks crew world (6 * (Value.list schemas).size) (convertItems document · (.list schemas) 0)
      (convertItems crew.document · (nodeAt entries key) 0)
      fun later => Visited world.store later.store entries (some (key, .list schemas)) := by
  have list := stands.field found
  have here := (Store.holds_list.mp list.holds).1
  have outside : at_ ∉ Placed.cells items := by
    have apart := list.apart
    rw [cells_list, List.nodup_cons] at apart
    exact apart.1
  have bounded := ((List.forall₂_and_left schemas items).mpr ⟨fun _ => steps_of_mem, each.flip⟩).flip
  have follows := bounded.imp fun p schema both => And.symm both
  have tracks := @tracks_items crew document world _ at_ _ items [] schemas follows list.list_items here outside rfl
  rw [nodeAt_of_field found]
  refine (tracks.more (steps_of_items schemas)).weaken ?_
  rintro later ⟨others, becomes, nodes, rfl⟩
  exact ⟨_, found, .list becomes nodes list⟩

/-- The properties under a key are converted in order. -/
private theorem tracks_inner {at_ : Nat} {inner : List (Atom × Placed)} {properties : List (Atom × Value)}
    (stands : world.store.Stands [.map id entries])
    (found : Entries.field? entries "properties" = some (.map at_ inner)) (required : List Value)
    (each : List.Forall₂ (fun p property => property.1 = p.1 ∧ Follows crew document none p.2 property.2)
      inner properties) :
    Tracks crew world (6 * (Value.map properties).size) (convertProperties document · required properties)
      (convertProperties crew.document · required (Entries.mapValues node ((innerAt entries "properties").getD [])))
      fun later => Visited world.store later.store entries (some ("properties", .map properties)) := by
  have mapping := stands.field found
  have isInner : (innerAt entries "properties").getD [] = inner := by
    rw [innerAt, found]
    cases inner <;> rfl
  have sizes : (Value.map properties).size = (Value.list (properties.map (·.2))).size := by
    rw [Value.size, Value.size, Value.sizeEntries_eq]
  have bounded := ((List.forall₂_and_left properties inner).mpr
    ⟨fun property member => steps_of_mem (List.mem_map_of_mem (f := (·.2)) member), each.flip⟩).flip
  have tracks := tracks_properties required
    (bounded.imp fun p property both => ⟨both.2.1, both.2.2, both.1⟩) mapping.map_entries
  have enough := steps_of_items (properties.map (·.2))
  rw [List.length_map] at enough tracks
  rw [isInner, sizes]
  refine (tracks.more enough).weaken ?_
  rintro later ⟨others, becomes, nodes, rfl⟩
  exact ⟨_, found, .map becomes nodes mapping⟩

/-- The schema under a key is converted. -/
private theorem tracks_part {key : String} {p : Placed} {schema : Value} (stands : world.store.Stands [.map id entries])
    (found : Entries.field? entries key = some p) (part : Follows crew document none p schema) :
    Tracks crew world (6 * schema.size) (convert document · none schema) (convert crew.document · none (nodeAt entries key))
      fun later => Visited world.store later.store entries (some (key, schema)) := by
  rw [nodeAt_of_field found]
  exact (part world (stands.field found)).weaken fun later turns => ⟨p, found, turns⟩

/-- A schema that says nothing admits everything. -/
private theorem convert_empty (document : Value) (fuel : Nat) :
    (convert document (fuel + 3) none (.map []) : Except Fault Expr) = .ok .anything := by
  rw [convert_map, unannounced_map]
  show admitNull _ <$> shaped document (fuel + 1) none (.map []) [] = _
  rw [shaped_map]
  rfl

/-- The type of a form follows that of another if its parts do. -/
theorem tracks_build {form other : Form} {visit : Option (String × Value)}
    (stands : world.store.Stands [.map id entries]) (follows : form.Follows crew document entries other visit)
    (name : Option String) (types : List Node) :
    Tracks crew world (visitSteps visit) (other.build document · name)
      (form.buildLive crew.document id entries types · name)
      fun later => Visited world.store later.store entries visit := by
  cases follows with
  | literals => exact tracks_pure _ rfl
  | union found each => exact (tracks_members stands found each).map unionType
  | conjunction found each => exact (tracks_members stands found each).map intersectionType
  | arrayOfAny => exact tracks_pure _ rfl
  | array found part => exact (tracks_part stands found part).map _
  | record found each => exact (tracks_inner stands found _ each).map _
  | mappingToAny => exact tracks_pure _ rfl
  | mapping found part => exact (tracks_part stands found part).map _
  | emptied found part =>
    obtain ⟨result, later, same, visited⟩ := tracks_part stands found part
    obtain rfl : .ok .anything = result := by
      have enough := (same (6 * (Value.map []).size) (Nat.le_refl _)).1
      exact (convert_empty document 3).symm.trans enough
    refine ⟨.ok (.mappingTo .anything), later, fun depth enough => ⟨rfl, ?_⟩, fun _ _ => visited _ rfl⟩
    simp only [Form.buildLive, map_eq_pure_bind]
    rw [Live.on_bind_ok (same depth enough).2, Live.on_pure]
  | simple => exact tracks_pure _ rfl

/-- Null left out of account, the type of a schema follows that of another if its form does. -/
theorem tracks_shaped {form other : Form} {visit : Option (String × Value)} {name : Option String} {names : List String}
    {inner : List (Atom × Value)} {types : List Value} (stands : world.store.Stands [.map id entries])
    (formed : formOf name (treesUnder entries) (names.map .text) = .ok form)
    (formedOther : formOf name inner types = .ok other) (follows : form.Follows crew document entries other visit) :
    Tracks crew world (visitSteps visit + 1) (shaped document · name (.map inner) types)
      (shaped crew.document · name (.cell id) ((texts names).map node))
      fun later => Visited world.store later.store entries visit := by
  refine (tracks_build stands follows name ((texts names).map node)).step world (fun depth => ?_) fun depth => ?_
  · rw [shaped_map, formedOther, except_bind_ok]
  · rw [on_shaped stands.holds _ _ _ holds_texts, trees_texts, formed]
    rfl

/-- The type of a schema that is no reference follows that of another if they do so with null left out of account. -/
theorem tracks_unannounced {name : Option String} {inner : List (Atom × Value)} {nullable : Bool}
    {names : List String} {others : List Value} {steps : Nat} {left : World → Prop}
    (stands : world.store.Stands [.map id entries]) (noReference : Entries.field? (treesUnder entries) "$ref" = none)
    (noneThere : Entries.field? inner "$ref" = none)
    (typed : typesOf (treesUnder entries) = .types nullable (names.map .text))
    (typedThere : typesOf inner = .types nullable others)
    (tracks : Tracks crew world steps (shaped document · name (.map inner) others)
      (shaped crew.document · name (.cell id) ((texts names).map node)) left)
    (kept : ∀ later, left later → ∃ after, later.store.Stands [.map id after] ∧
      listsNull (treesUnder after) = listsNull inner) :
    Tracks crew world (steps + 1) (unannounced document · name (.map inner)) (unannounced crew.document · name (.cell id))
      left := by
  have rest : ∀ type later, left later →
      Tracks crew later steps (fun _ => .ok (admitNull (nullable || listsNull inner) type))
        (fun _ => do
          let listed ← enumeratesNull (Node.cell id)
          pure (admitNull (nullable || listed) type)) left := by
    intro type later holds
    obtain ⟨after, standsAfter, same⟩ := kept later holds
    refine ⟨_, later, fun _ _ => ⟨rfl, ?_⟩, fun _ _ => holds⟩
    rw [Live.on_bind_ok (on_enumeratesNull standsAfter.holds), same, Live.on_pure]
  refine (tracks.bind rest).step world (fun depth => ?_) fun depth => ?_
  · rw [unannounced_map, noneThere]
    simp only [typedThere]
    cases (shaped document depth name (.map inner) others : Except Fault Expr) <;> rfl
  · rw [field?_treesUnder, Option.map_eq_none_iff] at noReference
    rw [on_unannounced stands.holds, noReference, typingIn_of_texts typed]

end

end SchemaType

end ClientGen
