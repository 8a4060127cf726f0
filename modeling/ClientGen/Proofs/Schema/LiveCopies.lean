import ClientGen.Proofs.Schema.Copies
import ClientGen.Proofs.Schema.LiveReading

/-!
Copies of a schema of a store. The copy for one of the types is a new cell, and its parts are those of the schema
(`on_retyped`); so it is the copy of the tree (`treesUnder_copyOf`).
-/

namespace ClientGen.SchemaType

open Placed

/-- The entries of a copy of a schema for one of its types. -/
def copyOf (entries : List (Atom × Placed)) (type : Placed) : List (Atom × Placed) :=
  retypedEntries entries type (.atom (.bool false))

variable {entries : List (Atom × Placed)} {type : Placed}

theorem mapValues_copyOf {α : Type} (h : Placed → α) (entries : List (Atom × Placed)) (type : Placed) :
    Entries.mapValues h (copyOf entries type) =
      retypedEntries (Entries.mapValues h entries) (h type) (h (.atom (.bool false))) := by
  rw [copyOf, retypedEntries, retypedEntries, ← Entries.put_mapValues, ← Entries.put_mapValues]

theorem treesUnder_copyOf (entries : List (Atom × Placed)) (type : Placed) :
    treesUnder (copyOf entries type) = retypedEntries (treesUnder entries) type.tree (.bool false) := by
  rw [treesUnder_eq, treesUnder_eq, mapValues_copyOf]
  rfl

theorem field?_copyOf {key : String} (noType : key ≠ "type") (noNullable : key ≠ "nullable") :
    Entries.field? (copyOf entries type) key = Entries.field? entries key := by
  rw [copyOf, retypedEntries, Entries.field?_put_of_ne _ (Ne.symm noNullable),
    Entries.field?_put_of_ne _ (Ne.symm noType)]

/-- The world with one more cell, for a copy of a schema. -/
def withCopy (world : World) (entries : List (Atom × Placed)) (type : Placed) : World :=
  { world with store := (world.store.add (.map (Entries.mapValues node (copyOf entries type)))).2 }

/-- A copy of a schema is a new cell. -/
theorem on_retyped {crew : Crew} {world : World} {id : Nat} (holds : world.store.Holds [.map id entries])
    (type : Placed) :
    ((retyped (Node.cell id) type.node : Live Node) crew).on world =
      (.ok (.cell world.store.cells.size), withCopy world entries type) := by
  have isMap : world.store.shape (.cell id) = .map (Entries.mapValues node entries) := Store.shape_of_holds holds
  show (Live.retype (.cell id) type.node).on world = _
  rw [Live.retype, Run.on_bind, Run.on_get]
  dsimp only
  rw [isMap]
  simp only [Run.on_bind, Run.on_get, Run.on_modify, Run.on_pure, withCopy, mapValues_copyOf]
  rfl

end ClientGen.SchemaType
