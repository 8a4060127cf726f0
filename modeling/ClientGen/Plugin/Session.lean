import ClientGen.Head
import ClientGen.Plugin.Manager
import ClientGen.Plugin.Runner
import ClientGen.Plugin.ScriptReader

/-!
Working with plugins step by step: objects are made and registered, edited and copied, dropped, loaded
into a manager and called. An object that nothing holds any more ceases to exist.
-/

namespace ClientGen

/-- The state between steps. -/
structure Session where
  registry : Registry := {}
  manager : Manager := {}
  world : World := {}
  /-- The objects that are held by name. -/
  table : List (String × Nat) := []
  /-- Modules that can be imported, by what they hold. -/
  declared : List (String × Value) := []
  modules : Modules := []
  /-- The plugins that are called: the serial of their list if the manager made it, and the objects. -/
  current : Option (Option Nat × List Nat) := none

/-- Steps of a session. What they have changed stays changed when they fail. -/
abbrev Sitting := ExceptT Fault (StateM Session)

namespace Session

/-- A result of a pure rule. -/
def ofExcept {α : Type} (r : Except Fault α) : Sitting α := MonadExcept.ofExcept r

/-- A step of a run. -/
def ofRun {α : Type} (step : Run α) : Sitting α := do
  let s ← get
  let (outcome, world) := step.run s.world
  set { s with world }
  ofExcept outcome

/-- A step of managing plugins. -/
def ofManaged {α : Type} (step : Managed α) : Sitting α := do
  let s ← get
  let ((outcome, manager), world) := (step.run s.manager) s.world
  set { s with world, manager }
  ofExcept outcome

/-- Changes the state of the run. -/
def modifyWorld (edit : World → World) : Sitting Unit :=
  modify fun s => { s with world := edit s.world }

/-- The object that is held under a name. -/
def idOf (name : String) : Sitting Nat := do
  match (← get).table.find? (·.1 = name) with
  | some (_, id) => return id
  | none => throw (Fault.noKey name)

/-- The object with an identity. -/
def objectAt (id : Nat) : Sitting Candidate :=
  return ((← get).registry.object? id).getD (.value .null)

def objectOf (name : String) : Sitting Candidate := do objectAt (← idOf name)

/-- A new object. -/
def make (c : Candidate) : Sitting Nat := do
  let (id, registry) := (← get).registry.create c
  modify fun s => { s with registry }
  return id

/-- Registers an object. -/
def define (id : Nat) : Sitting Unit := do
  let (registry, log) ← ofExcept ((← get).registry.define id)
  modify fun s => { s with registry, world := { s.world with log := s.world.log ++ log } }

/-- The objects that something holds. -/
def held (s : Session) : List Nat :=
  let members := s.modules.flatMap fun entry => match entry.2 with
    | .ok members => members.map (·.2)
    | .error _ => []
  s.table.map (·.2) ++ s.manager.loaded.map (·.id) ++ members ++
    (s.manager.runner.map (·.members)).getD [] ++ (s.current.map (·.2)).getD []

/-- Lets the objects that nothing holds cease to exist. -/
def releaseUnheld : Sitting Unit :=
  modify fun s =>
    let lost := (s.registry.objects.map (·.1)).filter fun id => !s.held.contains id
    { s with registry := lost.foldl (fun r id => r.release id) s.registry }

/-- A table with an object under a name, in the old place if the name is present. -/
def putObject (table : List (String × Nat)) (name : String) (id : Nat) : List (String × Nat) :=
  if table.any fun entry => entry.1 = name then
    table.map fun entry => if entry.1 = name then (name, id) else entry
  else table ++ [(name, id)]

/-- Holds an object under a name. -/
def hold (name : String) (id : Nat) : Sitting Unit := do
  modify fun s => { s with table := putObject s.table name id }
  releaseUnheld

/-- Gives up the object under a name. -/
def drop (name : String) : Sitting Unit := do
  let _ ← idOf name
  modify fun s => { s with table := s.table.filter (·.1 ≠ name) }
  releaseUnheld

/-- Edits the object under a name. -/
def edit (name : String) (rule : Candidate → Except Fault Candidate) : Sitting Unit := do
  let id ← idOf name
  let c ← ofExcept (rule (← objectAt id))
  modify fun s => { s with registry := s.registry.edit id c }

/-- Copies the object under a name. -/
def copy (mode : Registry.CopyMode) (name new : String) : Sitting Unit := do
  let c ← ofExcept (Registry.copy mode (← objectOf name))
  hold new (← make c)

/-- Makes a plugin of a class, and registers it if asked to. -/
def makePlugin (descriptor : PluginClass) (markEntry registered : Bool) (v : Value) : Sitting Nat := do
  let p ← ofExcept (Script.readPlugin descriptor markEntry v)
  let id ← make (.plugin p)
  if registered then define id
  return id

/-- Makes the object that a script describes. -/
def makeObject (defaultKind : String) (v : Value) : Sitting Nat := do
  match Script.textOr (Script.fieldOf v "kind") defaultKind with
  | "raw" => makePlugin .plain false false v
  | "subclass" => makePlugin .annotated false true v
  | "shadow" => makePlugin .shadowing false false v
  | "forged" => makePlugin .plain true false v
  | "namespace" =>
    let c ← ofExcept (Script.readLookalike v)
    make (← ofExcept (Registry.withEntry c))
  | "value" => make (.value (Script.fieldOf v "value"))
  | "copy" =>
    let id ← makePlugin .plain false true v
    let copied ← make (← ofExcept (Registry.copy .shallow (← objectAt id)))
    modify fun s => { s with registry := s.registry.release id }
    return copied
  | _ => makePlugin .plain false true v

/-- Makes the members of a module when it is imported for the first time. -/
def importModule (name : String) : Sitting Unit := do
  let s ← get
  if s.modules.any (·.1 = name) then return
  match s.declared.find? (·.1 = name) with
  | none => return
  | some (_, content) =>
    let outcome ← match content.field? "$raise" with
      | some raised =>
        let (kind, text) := Script.failure raised
        pure (Except.error (Fault.raised kind text))
      | none => do
        let own ← [("__name__", Value.text name), ("__package__", .text ""), ("__doc__", .null)].mapM
          fun (key, v) => do return (key, ← make (.value v))
        let members ← (Script.entries content).mapM fun (key, v) => do
          return (key, ← makeObject "registered" v)
        pure (Except.ok (own ++ members))
    modify fun s => { s with modules := s.modules ++ [(name, outcome)] }

/-- Imports the module at the front of a path. -/
def importFor (path : String) : Sitting Unit := do
  match (Manager.cutPath path).1.toList with
  | '.' :: _ => return
  | cs => importModule (String.ofList (cs.takeWhile (· ≠ '.')))

/-- Loads the plugin that a path leads to; yields its name. -/
def loadPath (path : String) : Sitting Value := do
  importFor path
  let s ← get
  return Manager.nameOf s.registry (← ofManaged (Manager.loadPath s.modules s.registry path))

/-- Loads the plugins that paths lead to, one after the other; yields the names of those that are
loaded. -/
def loadPaths : List String → Sitting (List Value)
  | [] => return []
  | path :: rest => do
    importFor path
    let s ← get
    let names ← ofManaged (Manager.loadPaths s.modules s.registry [path])
    return names ++ (← loadPaths rest)

/-- The names under which an object is held. -/
def namesOf (id : Nat) : Sitting (List String) :=
  return ((← get).table.filter (·.2 = id)).map (·.1)

/-- The genuine plugins among objects. -/
def genuineAmong (ids : List Nat) : Sitting (List Plugin) :=
  return ids.filterMap (← get).registry.genuine?

/-- The objects that are called at the moment. -/
def currentMembers : Sitting (List Nat) := return ((← get).current.map (·.2)).getD []

/-- Calls the plugins of the manager from now on; yields their names, and whether the list is the one
that was used before. -/
def useManager : Sitting (List Value × Bool) := do
  let s ← get
  let (runner, manager) := s.manager.hookRunner
  set { s with manager, current := some (some runner.serial, runner.members) }
  let names := (← genuineAmong runner.members).map (·.name)
  return (names, s.current.any fun c => c.1 = some runner.serial)

/-- Calls given objects from now on; yields the names of the genuine plugins among them. -/
def useObjects (ids : List Nat) : Sitting (List Value) := do
  modify fun s => { s with current := some (none, ids) }
  return (← genuineAmong ids).map (·.name)

/-- What a step shows the plugins around a checkpoint. -/
structure Exhibits where
  document : Value := .map []
  operation : Value := .map []
  schema : Value := .map []
  type : String := "int"
  file : String := "f.py"
  contents : String := ""

/-- The function that plugins are shown. -/
def sampleFunction : Function := ⟨"f", [], [], none, none, .constant .null⟩

/-- The occasion of a checkpoint, with what it is about made anew. -/
def occasion (c : Checkpoint) (e : Exhibits) : Run (Occasion Node) := do
  match c with
  | .started => return .started
  | .modifyDefaults => return .defaults Head.defaultsPlace
  | .modifyServers => return .servers Head.serversPlace
  | .beforeOperation => return .beforeOperation (← Run.allocate e.operation)
  | .afterOperation =>
    let draft := (← get).draft
    modify fun w => { w with draft :=
      { draft with statements := draft.statements.push (.define sampleFunction) } }
    return .afterOperation (← Run.allocate e.operation) draft.statements.size
  | .beforeSchema => return .beforeSchema (← Run.allocate e.schema)
  | .afterSchema =>
    let type ← Live.layOut (.name e.type)
    return .afterSchema (← Run.allocate e.schema) type
  | .moduleBuilt => return .moduleBuilt
  | .beforeWrite => return .beforeWrite (.text e.file) e.contents
  | .afterWrite => return .afterWrite (.text e.file) e.contents

/-- Calls the current plugins at a checkpoint; yields what they were called with, as they left it. -/
def run (c : Checkpoint) (settings : Settings) (e : Exhibits) : Sitting (List (String × Value)) := do
  let head ← ofExcept (Head.build e.document .null)
  modifyWorld fun w =>
    { w with settings, store := {}, types := #[], draft := ({} : Draft).appendAll head }
  let document ← ofRun (Run.allocate e.document)
  let call : Call := ⟨← ofRun (occasion c e), document⟩
  ofRun ((← get).registry.respondAll (← currentMembers) call)
  c.arguments.mapM fun name => do return (name, ← ofRun (Script.exhibit call name))

end Session

end ClientGen
