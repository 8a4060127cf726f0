import ClientGen.Proofs.Schema.RewrittenSchema

/-!
Plugins that edit schemas. A plugin that replaces every schema before it is converted, in its place, by what a function
makes of it has the same effect as rewriting the schema first: the conversion comes to the same outcome as that of the
rewritten schema without plugins, and leaves the rewritten schema in the document (`convert_edited`).
-/

namespace ClientGen.SchemaType

open Placed

/-- The plugins of a run replace every schema that is announced, in its place, by what a function makes of it, and leave
every type as it is. -/
structure Edits (f : List (Atom × Value) → List (Atom × Value)) (crew : Crew) : Prop where
  enter : ∀ {world : World} {id : Nat} {entries : List (Atom × Placed)}, world.store.Stands [.map id entries] →
    ∃ later others, ((enter (Node.cell id) : Live Unit) crew).on world = (.ok (), later) ∧
      world.store.Becomes later.store [.map id entries] [.map id others] ∧ treesUnder others = f (treesUnder entries)
  leave : ∀ (world : World) (schema : Node) (type : Expr), ∃ later,
    ((leave schema type : Live Expr) crew).on world = (.ok type, later) ∧ later.store = world.store

section

variable {f : List (Atom × Value) → List (Atom × Value)} {crew : Crew} {document : Value}

private theorem keepsMaps_rewritten (depth : Nat) (name : Option String) : KeepsMaps (rewritten f depth name) := by
  intro inner v isRewritten
  cases depth with
  | zero => cases isRewritten
  | succ depth =>
    obtain ⟨left, -, rfl⟩ := Option.map_eq_some_iff.mp isRewritten
    exact ⟨left, rfl⟩

/-- Only mappings are announced. -/
private theorem follows_of_not_map {name : Option String} {p : Placed} (noMap : p.tree.shape.isMap = false) :
    Follows crew document name p p.tree := by
  intro world stands
  have positive := p.tree.size_pos
  have still : Tracks crew world 0 (fun _ => .ok Expr.anything) (fun _ => pure .anything)
      fun later => world.store.Turns later.store p p.tree := tracks_pure _ ⟨p, .refl stands, rfl, rfl⟩
  refine (still.step world (fun depth => ?_) fun depth => ?_).more (by omega)
  · exact convert_of_not_map name document depth noMap
  · have noMapThere : (world.store.shape p.node).isMap = false := by
      rw [Store.shape_of_holds stands.holds, Shape.isMap_mapParts, ← noMap, shape_tree, Shape.isMap_mapParts]
    rw [convert, Live.on_bind_ok (Live.on_shape _), noMapThere]
    rfl

/-- The conversion of a schema that plugins edit is that of what the schema is rewritten to. -/
theorem follows_of_rewritten (document : Value) (edits : Edits f crew) (limit : Nat) (name : Option String)
    (p : Placed) (schema : Value)
    (isRewritten : rewritten f limit name p.tree = some schema)
    (orderly : ∀ left, Leaves f name p.tree left → Orderly left) : Follows crew document name p schema := by
  induction limit generalizing name p schema with
  | zero => cases isRewritten
  | succ limit ih =>
    cases p with
    | map id entries =>
      obtain ⟨left, rewritten, rfl⟩ := Option.map_eq_some_iff.mp isRewritten
      intro world stands
      obtain ⟨between, others, entered, step, isEdited⟩ := edits.enter stands
      rw [← isEdited] at rewritten
      have orderlyHere : Orderly (treesUnder others) := isEdited ▸ orderly _ .top
      have each : ∀ spot ∈ spotsOf name (treesUnder others), ∀ part ∈ spot.parts (treesUnder others),
          Leads crew document (SchemaType.rewritten f limit none) part := by
        rintro spot isSpot part isPart q schema rfl isRewritten
        rw [isEdited] at isSpot isPart
        exact ih none q schema isRewritten fun left leaves => orderly left (.part isSpot isPart leaves)
      have tracks := tracks_rewritten document (keepsMaps_rewritten limit none) step.stands orderlyHere rewritten each
      have rest : ∀ type later, between.store.Turns later.store (.map id others) (.map left) →
          Tracks crew later (6 * (Value.map left).size - 1) (fun _ => .ok type) (fun _ => leave (Node.cell id) type)
            fun last => world.store.Turns last.store (.map id entries) (.map left) := by
        rintro type later ⟨q, turned, isNode, isTree⟩
        obtain ⟨last, ended, same⟩ := edits.leave later (.cell id) type
        exact ⟨.ok type, last, fun _ _ => ⟨rfl, ended⟩, fun _ _ => ⟨q, same ▸ step.trans turned, isNode, isTree⟩⟩
      have positive := (Value.map left).size_pos
      refine ((tracks.bind rest).step world (fun depth => ?_) fun depth => ?_).more (by omega)
      · rw [convert_map]
        cases (unannounced document depth name (.map left) : Except Fault Expr) <;> rfl
      · have isMap : (world.store.shape (.cell id)).isMap = true := by
          rw [show world.store.shape (.cell id) = _ from Store.shape_of_holds stands.holds]
          rfl
        rw [node, convert, Live.on_bind_ok (Live.on_shape _), isMap, if_pos rfl, Live.on_bind_ok entered]
    | _ =>
      cases isRewritten
      exact follows_of_not_map rfl

end

/-! ### The callback -/

/-- A callback replaces every schema that it is called with before its conversion, in its place, by what a function
makes of it, and does nothing else. -/
def Replaces (f : List (Atom × Value) → List (Atom × Value)) (callback : Callback) : Prop :=
  ∀ (world : World) (id : Nat) (entries : List (Atom × Placed)) (document : Node), world.store.Stands [.map id entries] →
    ∃ store others, (callback ⟨.beforeSchema (.cell id), document⟩).on world = (.ok (), { world with store }) ∧
      world.store.Becomes store [.map id entries] [.map id others] ∧ treesUnder others = f (treesUnder entries)

/-- The callback that reads a schema, and gives it the entries that a function makes of those it has. -/
def rewriting (f : List (Atom × Value) → List (Atom × Value)) : Callback := fun call => do
  match call.occasion with
  | .beforeSchema (.cell id) =>
    match (← get).store.read (.cell id) with
    | .map entries =>
      modify fun w =>
        let (made, store) := w.store.insertEntries (f entries)
        { w with store := store.update id (.map made) }
    | _ => pure ()
  | _ => pure ()

theorem replaces_rewriting (f : List (Atom × Value) → List (Atom × Value)) : Replaces f (rewriting f) := by
  intro world id entries document stands
  obtain ⟨others, nodes, trees, step⟩ := Store.insertEntries_becomes (f (treesUnder entries)) world.store
  refine ⟨_, others, ?_, step.replace stands, trees⟩
  have read : world.store.read (.cell id) = .map (treesUnder entries) := Store.read_of_holds stands.holds
  simp only [rewriting, Run.on_bind, Run.on_get, read, Run.on_modify, nodes]

/-- A genuine plugin with such a callback and no other, by itself. -/
theorem edits_of_replaces {f : List (Atom × Value) → List (Atom × Value)} {crew : Crew} {member : Nat} {plugin : Plugin}
    {callback : Callback} (alone : crew.members = [member]) (genuine : crew.registry.genuine? member = some plugin)
    (only : plugin.callbacks = [(.beforeSchema, callback)]) (replaces : Replaces f callback) : Edits f crew where
  enter := by
    intro world id entries stands
    have responder : crew.registry.responder? .beforeSchema member = some (plugin, callback) := by
      simp [Registry.responder?, genuine, Plugin.callback?, only]
    obtain ⟨noted, logged, same⟩ : ∃ noted, (plugin.reportCall .beforeSchema).on world = (.ok (), noted) ∧
        noted.store = world.store := ⟨_, Run.on_note world _, rfl⟩
    obtain ⟨store, others, edited, step, trees⟩ := replaces noted id entries crew.document (same ▸ stands)
    refine ⟨{ noted with store }, others, ?_, same ▸ step, trees⟩
    show (crew.registry.respondAll crew.members ⟨.beforeSchema (.cell id), crew.document⟩).on world = _
    simp only [alone, Registry.respondAll, Registry.respond, Occasion.checkpoint, responder, Run.on_bind, logged,
      Plugin.invoke, Run.on_tryCatch, edited, Run.on_pure]
  leave := by
    intro world schema type
    have responder : crew.registry.responder? .afterSchema member = none := by
      simp [Registry.responder?, genuine, Plugin.callback?, only]
    let laid : World := { world with types := world.types.push type }
    have laidOut : ((Live.ofRun (Live.layOut type) : Live Nat) crew).on world = (.ok world.types.size, laid) := rfl
    have silent : ((Live.announce (.afterSchema schema world.types.size) : Live Unit) crew).on laid = (.ok (), laid) := by
      show (crew.registry.respondAll crew.members ⟨.afterSchema schema world.types.size, crew.document⟩).on laid = _
      simp only [alone, Registry.respondAll, Registry.respond, Occasion.checkpoint, responder, Run.on_bind, Run.on_pure]
    have takenBack : ((Live.ofRun (Live.takeBack world.types.size) : Live Expr) crew).on laid = (.ok type, laid) := by
      show (Live.takeBack world.types.size).on laid = _
      simp only [Live.takeBack, Run.on_bind, Run.on_get, Run.on_pure, laid, Array.getElem?_push_size, Option.getD_some]
    refine ⟨laid, ?_, rfl⟩
    show ((Live.ofRun (Live.layOut type) >>= fun id =>
      Live.announce (.afterSchema schema id) >>= fun _ => Live.ofRun (Live.takeBack id) : Live Expr) crew).on world = _
    rw [Live.on_bind_ok laidOut, Live.on_bind_ok silent, takenBack]

/-- Editing every schema before it is converted is the same as rewriting the schema first. -/
theorem convert_edited {f : List (Atom × Value) → List (Atom × Value)} {crew : Crew} {member : Nat} {plugin : Plugin}
    {callback : Callback} (alone : crew.members = [member]) (genuine : crew.registry.genuine? member = some plugin)
    (only : plugin.callbacks = [(.beforeSchema, callback)]) (replaces : Replaces f callback)
    {world : World} {schema : Placed} (stands : world.store.Stands [schema]) {name : Option String}
    {left : Value} (rewrites : RewritesTo f name schema.tree left)
    (orderly : ∀ entries, Leaves f name schema.tree entries → Orderly entries) (document : Value) {depth : Nat}
    (enough : 6 * left.size ≤ depth) :
    ∃ later, ((convert crew.document depth name schema.node : Live Expr) crew).on world =
        (ofSchema document name left, later) ∧
      ∀ type, ofSchema document name left = .ok type → later.store.read schema.node = left := by
  have edits := edits_of_replaces alone genuine only replaces
  obtain ⟨limit, isRewritten⟩ := rewrites
  obtain ⟨result, later, same, turns⟩ :=
    follows_of_rewritten document edits limit name schema left isRewritten orderly world stands
  have isResult : ofSchema document name left = result := (same _ (six_size_le_budget document left)).1
  refine ⟨later, ?_, fun type isOk => ?_⟩
  · rw [isResult]
    exact (same depth enough).2
  · obtain ⟨q, step, isNode, isTree⟩ := turns type (isResult ▸ isOk)
    rw [← isNode, Store.read_of_holds step.stands.holds, isTree]

/-! A plugin that makes arrays of flags of whole numbers, and truth values of flags: it adds a schema that is edited in
turn, and takes one away that is not. -/

/-- A schema of a type. -/
private def typed (type : String) : List (Atom × Value) := [(.text "type", .text type)]

private def flagged (entries : List (Atom × Value)) : List (Atom × Value) :=
  match Entries.field? entries "type" with
  | some (.text "integer") => typed "array" ++ [(.text "items", .map (typed "flag"))]
  | some (.text "flag") => typed "boolean"
  | _ => entries

private def flagging : Plugin :=
  { name := .text "flags", callbacks := [(.beforeSchema, rewriting flagged)] }

private def flaggingCrew : Crew := ⟨⟨[(0, .plugin flagging)], [(0, true)]⟩, [0], .atom .null⟩

private def counted : Placed :=
  .map 0 [(.text "type", .atom (.text "object")), (.text "properties", .map 1 [(.text "total",
    .map 2 [(.text "type", .atom (.text "integer")), (.text "items", .map 3 [(.text "type", .atom (.text "integer"))])])])]

private def countedWorld : World := { store := ⟨((layers counted).map (·.2)).toArray⟩ }

private def flaggedCount : Value :=
  .map (typed "object" ++ [(.text "properties", .map [(.text "total",
    .map (typed "array" ++ [(.text "items", .map (typed "boolean"))]))])])

/-- The plugin that makes arrays of flags, with a schema that has a whole number. -/
theorem convert_edited_flags :
    flaggingCrew.members = [0] ∧ flaggingCrew.registry.genuine? 0 = some flagging ∧
      countedWorld.store.Stands [counted] ∧ RewritesTo flagged (some "count") counted.tree flaggedCount ∧
      ∃ later, ((convert flaggingCrew.document liveDepth (some "count") counted.node : Live Expr) flaggingCrew).on
          countedWorld = (.ok (.call "TypedDict" [.text "Count",
            .dict [(.constant (.text "total"), .index "list" [.name "bool"])]] [("total", .constant (.bool false))]), later) ∧
        later.store.read counted.node = flaggedCount := by
  have genuine : flaggingCrew.registry.genuine? 0 = some flagging := rfl
  have stands : countedWorld.store.Stands [counted] := by
    refine ⟨fun l inside => ?_, by decide⟩
    simp only [counted, layersOf, layers, layersUnder, List.append_nil, List.nil_append, List.mem_cons,
      List.not_mem_nil, or_false] at inside
    rcases inside with rfl | rfl | rfl | rfl <;> rfl
  have rewrites : RewritesTo flagged (some "count") counted.tree flaggedCount := ⟨4, rfl⟩
  have done : ofSchema .null (some "count") flaggedCount = .ok (.call "TypedDict" [.text "Count",
      .dict [(.constant (.text "total"), .index "list" [.name "bool"])]] [("total", .constant (.bool false))]) := by
    rfl
  have orderly : ∀ entries, Leaves flagged (some "count") counted.tree entries → Orderly entries := by
    intro entries leaves
    cases leaves with
    | top => exact ⟨nofun, nofun⟩
    | part isSpot isPart leaves =>
      cases List.mem_singleton.mp isSpot
      cases List.mem_singleton.mp isPart
      cases leaves with
      | top => exact ⟨nofun, nofun⟩
      | part isSpot isPart leaves =>
        cases List.mem_singleton.mp isSpot
        cases List.mem_singleton.mp isPart
        cases leaves with
        | top => exact ⟨nofun, nofun⟩
        | part isSpot => cases isSpot
  obtain ⟨later, converted, reads⟩ := convert_edited rfl genuine rfl (replaces_rewriting flagged) stands rewrites
    orderly .null (show 6 * flaggedCount.size ≤ liveDepth by decide)
  rw [done] at converted reads
  exact ⟨rfl, genuine, stands, rewrites, later, converted, reads _ rfl⟩

end ClientGen.SchemaType
