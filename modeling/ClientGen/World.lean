import ClientGen.Disk.AtomicWrite
import ClientGen.Log
import ClientGen.Settings.Records
import ClientGen.Store.Edit
import ClientGen.Syntax.Printer

/-!
The state of a run: the live documents, the settings, the module under construction, and everything
that can be seen of the run from outside.
-/

namespace ClientGen

/-- The module under construction. Statements have an identity, so that one that has been taken out
of the module can still be edited by whoever holds it. -/
structure Draft where
  statements : Array Statement := #[]
  order : List Nat := []
  deriving Inhabited

namespace Draft

/-- A draft with one more statement at the end, and its identity. -/
def append (draft : Draft) (s : Statement) : Nat × Draft :=
  let id := draft.statements.size
  (id, ⟨draft.statements.push s, draft.order ++ [id]⟩)

/-- A draft with several more statements at the end. -/
def appendAll (draft : Draft) (ss : List Statement) : Draft :=
  ss.foldl (fun draft s => (draft.append s).2) draft

/-- A statement by its identity. -/
def get (draft : Draft) (id : Nat) : Statement := (draft.statements[id]?).getD .foreign

/-- A draft with another statement under an identity. -/
def update (draft : Draft) (id : Nat) (s : Statement) : Draft :=
  { draft with statements := draft.statements.setIfInBounds id s }

/-- The statements of the module in order. -/
def toList (draft : Draft) : List Statement := draft.order.map draft.get

end Draft

/-- Something that a plugin recorded: who recorded it, at which slot, and what it showed. -/
structure Event where
  source : Value
  slot : Option String := none
  shown : Option Value := none
  deriving Inhabited, Repr

/-- The state of a run. -/
structure World where
  store : Store := {}
  settings : Settings := ⟨[]⟩
  draft : Draft := {}
  /-- The types that plugins are looking at. -/
  types : Array Expr := #[]
  journal : List Event := []
  log : List LogRecord := []
  disk : Disk := {}
  printed : List String := []
  deriving Inhabited

/-- A run: it can fail, and what it has done until then stays done. -/
abbrev Run := ExceptT Fault (StateM World)

namespace Run

instance : Logging Run where
  note record := modify fun w => { w with log := w.log ++ [record] }

instance : Reading Value Run where
  shape v := pure v.shape
  whole v := pure v
  extent v := pure v.size

instance : Reading Node Run where
  shape node := do return (← get).store.shape node
  whole node := do return (← get).store.read node
  extent _ := do return (← get).store.cells.size

/-- A result of a pure rule. -/
def ofExcept {α : Type} (r : Except Fault α) : Run α := lift r

/-- Runs a step that leaves a log of its own. -/
def ofLogged {α : Type} (step : Logged α) : Run α := do
  let (outcome, log) := step.run.run []
  modify fun w => { w with log := w.log ++ log }
  ofExcept outcome

/-- A setting as it is at the moment. -/
def setting (name : String) : Run Value := do return (← get).settings.get name

/-- Puts a tree into the store. -/
def allocate (v : Value) : Run Node := do
  let (node, store) := (← get).store.insert v
  modify fun w => { w with store }
  return node

/-- Appends a statement to the module. -/
def addStatement (s : Statement) : Run Nat := do
  let (id, draft) := (← get).draft.append s
  modify fun w => { w with draft }
  return id

/-- Writes text to the output, with a line break at its end. -/
def print (text : String) : Run Unit :=
  modify fun w => { w with printed := w.printed ++ [Text.ended text] }

end Run

end ClientGen
