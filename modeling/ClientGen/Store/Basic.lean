import ClientGen.Value.Basic

/-!
Live documents. Containers are cells of a store, so that one container can stand at several places,
be edited in place, and go on being used after it has been taken out of the document.
-/

namespace ClientGen

/-- A value of a live document: an atom, or the container in a cell. -/
inductive Node where
  | atom (a : Atom)
  | cell (id : Nat)
  deriving DecidableEq, Inhabited, Repr

/-- The containers of live documents. -/
structure Store where
  cells : Array (Shape Node) := #[]
  deriving Inhabited

namespace Store

/-- The outermost layer of a node. -/
def shape (store : Store) : Node → Shape Node
  | .atom a => .atom a
  | .cell id => (store.cells[id]?).getD (.atom .null)

/-- A store with a new container. -/
def add (store : Store) (layer : Shape Node) : Node × Store :=
  (.cell store.cells.size, ⟨store.cells.push layer⟩)

/-- A store with another container in a cell. -/
def update (store : Store) (id : Nat) (layer : Shape Node) : Store :=
  ⟨store.cells.setIfInBounds id layer⟩

mutual

/-- Puts a tree into a store; every container gets a cell of its own. -/
def insert (store : Store) : Value → Node × Store
  | .atom a => (.atom a, store)
  | .list items =>
    let (nodes, store) := insertItems store items
    store.add (.list nodes)
  | .tuple items =>
    let (nodes, store) := insertItems store items
    store.add (.tuple nodes)
  | .set members => store.add (.set members)
  | .map entries =>
    let (nodes, store) := insertEntries store entries
    store.add (.map nodes)

def insertItems (store : Store) : List Value → List Node × Store
  | [] => ([], store)
  | v :: rest =>
    let (node, store) := insert store v
    let (nodes, store) := insertItems store rest
    (node :: nodes, store)

def insertEntries (store : Store) : List (Atom × Value) → List (Atom × Node) × Store
  | [] => ([], store)
  | (k, v) :: rest =>
    let (node, store) := insert store v
    let (nodes, store) := insertEntries store rest
    ((k, node) :: nodes, store)

end

/-- The tree below a node down to a depth. -/
def readTo (store : Store) : Nat → Node → Value
  | _, .atom a => .atom a
  | 0, .cell _ => .atom .null
  | depth + 1, node =>
    match store.shape node with
    | .atom a => .atom a
    | .list items => .list (items.map (readTo store depth))
    | .tuple items => .tuple (items.map (readTo store depth))
    | .set members => .set members
    | .map entries => .map (entries.map fun entry => (entry.1, readTo store depth entry.2))

/-- The tree below a node. Without cycles no way is longer than there are cells. -/
def read (store : Store) (node : Node) : Value :=
  store.readTo (store.cells.size + 1) node

end Store

end ClientGen
