import ClientGen.Plugin.Registry
import ClientGen.SchemaType

/-!
Calling plugins. At a checkpoint every genuine plugin that fills its slot is called, one after the other
in the order of the list; the first failure ends the run and names the plugin and the slot. The list may
hold anything: whether something is a genuine plugin is asked before every call.
-/

namespace ClientGen

namespace Plugin

/-- A failure of a callback as the run reports it: a failure that a plugin declares to be one of a
plugin is passed on as it is. -/
def failureOf (p : Plugin) (c : Checkpoint) (fault : Fault) : Fault :=
  if fault.kind = .plugin then fault
  else .plugin (.callbackFailed p.label c.slot fault.message)

/-- Reports that a plugin is about to be called. -/
def reportCall (p : Plugin) (c : Checkpoint) : Run Unit :=
  note (LogRecord.mk .debug "specgen.plugins.hooks"
    ("Running " ++ c.slot ++ " for plugin '" ++ p.label ++ "'"))

/-- Calls a callback of a plugin. -/
def invoke (p : Plugin) (callback : Callback) (call : Call) : Run Unit :=
  tryCatch (callback call) fun fault => throw (p.failureOf call.occasion.checkpoint fault)

end Plugin

namespace Registry

/-- The plugin with an identity and its callback for a checkpoint, if it is genuine and fills the slot. -/
def responder? (r : Registry) (c : Checkpoint) (id : Nat) : Option (Plugin × Callback) := do
  let p ← r.genuine? id
  return (p, ← p.callback? c)

/-- Calls one member of a list of plugins, if it is a genuine plugin that fills the slot. -/
def respond (r : Registry) (id : Nat) (call : Call) : Run Unit := do
  match r.responder? call.occasion.checkpoint id with
  | none => pure ()
  | some (p, callback) =>
    p.reportCall call.occasion.checkpoint
    p.invoke callback call

/-- Calls the members of a list in order. -/
def respondAll (r : Registry) : List Nat → Call → Run Unit
  | [], _ => pure ()
  | id :: rest, call => do
    r.respond id call
    r.respondAll rest call

end Registry

/-- Who is to be called in a run, and the document that plugins are given. -/
structure Crew where
  registry : Registry
  members : List Nat
  document : Node

/-- A run in which plugins take part. -/
abbrev Live := ReaderT Crew Run

namespace Live

/-- A step that does not depend on the plugins. -/
def ofRun {α : Type} (step : Run α) : Live α := fun _ => step

instance : Logging Live where
  note record := ofRun (note record)

instance : Reading Node Live where
  shape node := ofRun (shape node)
  whole node := ofRun (whole node)
  extent node := ofRun (extent node)

/-- Calls the plugins. -/
def announce (occasion : Occasion Node) : Live Unit := fun crew =>
  crew.registry.respondAll crew.members ⟨occasion, crew.document⟩

/-- A copy of a mapping for one of its types; the parts are shared. -/
def retype (schema type : Node) : Run Node := do
  match (← get).store.shape schema with
  | .map entries =>
    let layer := Shape.map (SchemaType.retypedEntries entries type (.atom (.bool false)))
    let (node, store) := (← get).store.add layer
    modify fun w => { w with store }
    return node
  | _ => return schema

/-- Lays a type where plugins can edit it. -/
def layOut (type : Expr) : Run Nat := do
  let id := (← get).types.size
  modify fun w => { w with types := w.types.push type }
  return id

/-- The type as plugins left it. -/
def takeBack (id : Nat) : Run Expr := do
  return ((← get).types[id]?).getD .anything

instance : Converting Node Live where
  retyped schema type := ofRun (retype schema type)
  enter schema := announce (.beforeSchema schema)
  leave schema type := do
    let id ← ofRun (layOut type)
    announce (.afterSchema schema id)
    ofRun (takeBack id)

end Live

namespace SchemaType

/-- Conversions are not followed deeper than this where plugins take part. -/
def liveDepth : Nat := 4000

/-- The type of a schema where plugins take part. -/
def ofLiveSchema (name : Option String) (schema : Node) : Live Expr := do
  convert (← read).document liveDepth name schema

end SchemaType

end ClientGen
