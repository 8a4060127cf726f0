import ClientGen.Fault
import ClientGen.Value.Printer

/-!
Reading a document. Rules that only look at documents are written once for every kind of node: a
tree is read as it stands, a node of a store that plugins edit is read as it is at the moment.
-/

namespace ClientGen

/-- A monad in which documents with nodes of type `ν` can be read. -/
class Reading (ν : Type) (m : Type → Type) where
  /-- The outermost layer of a node. -/
  shape : ν → m (Shape ν)
  /-- The whole tree below a node. -/
  whole : ν → m Value
  /-- A number that no count of nodes below a node exceeds. -/
  extent : ν → m Nat

export Reading (shape whole extent)

instance : Reading Value (Except Fault) where
  shape v := .ok v.shape
  whole v := .ok v
  extent v := .ok v.size

namespace Shape

variable {ν : Type}

/-- The entries of a value that is asked for one of its entries: only mappings have entries. -/
def entries? : Shape ν → Except Fault (List (Atom × ν))
  | map entries => .ok entries
  | _ => .error .noMember

/-- The parts that a loop over the value visits, as far as they can be containers. Texts, bytes and
mappings are visited as well, but their members are atoms. -/
def parts? : Shape ν → Except Fault (List ν)
  | list items => .ok items
  | tuple items => .ok items
  | set _ => .ok []
  | map _ => .ok []
  | atom (.text _) => .ok []
  | atom (.bytes _) => .ok []
  | atom _ => .error .wrongType

/-- The names and parts of a value that is asked for its entries in order. -/
def items? : Shape ν → Except Fault (List (Atom × ν))
  | map entries => .ok entries
  | _ => .error .noMember

end Shape

namespace Value

/-- The text of a value in running text, if it may be written. -/
def shown (v : Value) : Except Fault String :=
  if v.isWritable then .ok v.displayed else .error .tooManyDigits

/-- The members that a loop over the value visits. -/
def members? : Value → Except Fault (List Value)
  | list items => .ok items
  | tuple items => .ok items
  | set members => .ok (members.map atom)
  | map entries => .ok (entries.map fun entry => atom entry.1)
  | atom (.text s) => .ok (s.toList.map fun c => text c.toString)
  | atom (.bytes b) => .ok (b.map fun byte => int byte.toNat)
  | atom _ => .error .wrongType

/-- The members of the set made from a value; every member must be fit for a set. -/
def toSet? (v : Value) : Except Fault (List Value) := do
  let members ← v.members?
  if members.all isKey then .ok members else .error .wrongType

/-- The set made from a value that may be absent or empty. -/
def toSetOrEmpty? : Option Value → Except Fault (List Value)
  | some v => if v.truthy then v.toSet? else .ok []
  | none => .ok []

end Value

section

variable {ν : Type} {m : Type → Type} [Monad m] [MonadExceptOf Fault m] [Reading ν m]

/-- A result of a pure rule as a step of the run. -/
def lift {α : Type} : Except Fault α → m α
  | .ok a => pure a
  | .error e => throw e

/-- The value under a key of a node that must be a mapping. -/
def fieldOf (node : ν) (name : String) : m (Option ν) := do
  let entries ← lift (← shape node).entries?
  pure (Entries.field? entries name)

/-- The shape of a value that may be absent; what is absent has the shape of null. -/
def shapeOrNull : Option ν → m (Shape ν)
  | some node => shape node
  | none => pure (.atom .null)

/-- Whether a value is present and true. -/
def isTrue (node : Option ν) : m Bool := do
  return (← shapeOrNull node).truthy

/-- The node if it is present and true. -/
def ifTrue (node : Option ν) : m (Option ν) := do
  if ← isTrue node then pure node else pure none

/-- The tree below a node that may be absent. -/
def wholeOf : Option ν → m (Option Value)
  | some node => some <$> whole node
  | none => pure none

/-- A node as shown in running text; an absent one is shown as null. -/
def shownOf (node : Option ν) : m String := do
  lift ((← wholeOf node).getD .null).shown

end

end ClientGen
