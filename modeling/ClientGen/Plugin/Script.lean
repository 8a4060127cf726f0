import ClientGen.Plugin.Basic
import ClientGen.Syntax.Literal

/-!
Plugins given by scripts: each callback is a list of actions that record what the callback was called
with, edit it, or fail.
-/

namespace ClientGen

/-- When an action is carried out: a path has to exist in an argument, and to hold a value. -/
structure Condition where
  argument : String
  path : List Atom
  equals : Option Value

/-- One action of a callback. -/
inductive Action where
  | record (shown : Option String)
  | set (argument : String) (path : List Atom) (value : Value)
  | delete (argument : String) (path : List Atom)
  | append (argument : String) (path : List Atom) (value : Value)
  | fail (kind : FaultKind) (text : String)
  | renameFunction (front : String) (name : Option String) (back : String)
  | renameType (old new : String)
  | addDefault (key : String) (value : Value)
  | addServer (key : String) (value : Value)
  | replaceServers (value : Value)
  | appendAssign (name : String) (value : Value)
  | appendAll
  | popStatement (index : Int)
  | corrupt

/-- An action of a callback that is awaited: the end of a sequence, raised there, is a failure of its own. -/
def Action.awaited : Action → Action
  | fail (.other "StopIteration") _ => fail (.other "RuntimeError") "coroutine raised StopIteration"
  | action => action

/-- An action with its condition. -/
structure Instruction where
  condition : Option Condition
  action : Action

namespace Script

/-- The complaint about an argument that the slot does not have. -/
def noArgument (name : String) : Fault := Fault.noKey name

/-- The document node that an argument holds. -/
def nodeOf? (call : Call) : String → Option Node
  | "document" => some call.document
  | "operation" =>
    match call.occasion with
    | .beforeOperation operation => some operation
    | .afterOperation operation _ => some operation
    | _ => none
  | "schema" =>
    match call.occasion with
    | .beforeSchema schema => some schema
    | .afterSchema schema _ => some schema
    | _ => none
  | _ => none

/-- The statement that an argument holds. -/
def statementOf? (call : Call) : String → Option Nat
  | "defaults" =>
    match call.occasion with
    | .defaults id => some id
    | _ => none
  | "servers" =>
    match call.occasion with
    | .servers id => some id
    | _ => none
  | "function" =>
    match call.occasion with
    | .afterOperation _ id => some id
    | _ => none
  | _ => none

/-- The type that is looked at. -/
def typeOf? (call : Call) : Option Nat :=
  match call.occasion with
  | .afterSchema _ id => some id
  | _ => none

/-- File name and contents around a write. -/
def fileOf? (call : Call) : Option (Value × String) :=
  match call.occasion with
  | .beforeWrite file contents => some (file, contents)
  | .afterWrite file contents => some (file, contents)
  | _ => none

/-- Whether the slot has the module under construction among its arguments. -/
def hasModule (call : Call) : Bool :=
  match call.occasion with
  | .started => false
  | .beforeWrite _ _ => false
  | .afterWrite _ _ => false
  | _ => true

/-- How the module under construction is shown: the number of statements and the text of the last. -/
def showDraft (draft : Draft) : Except Fault Value := do
  let statements := draft.toList
  match statements.getLast? with
  | none => return .list [.int 0, .null]
  | some last => return .list [.int statements.length, .text (← last.render)]

/-- A value that is shown, which it can only be if it may be written. -/
def exhibited (v : Value) : Except Fault Value := if v.isWritable then .ok v else .error .tooManyDigits

/-- How an argument is shown. -/
def exhibit (call : Call) (name : String) : Run Value := do
  let world ← get
  match nodeOf? call name, statementOf? call name with
  | some node, _ => Run.ofExcept (exhibited (world.store.read node))
  | _, some id => return .text (← Run.ofExcept (world.draft.get id).render)
  | none, none =>
    match name, call.occasion.checkpoint, typeOf? call, fileOf? call with
    | "options", .started, _, _ => return world.settings.toValue
    | "type_node", _, some id, _ =>
      return .text (← Run.ofExcept ((world.types[id]?).getD .anything).shown)
    | "file_name", _, _, some (file, _) => return file
    | "contents", _, _, some (_, contents) => return .text contents
    | "tree", _, _, _ =>
      if hasModule call then Run.ofExcept (showDraft world.draft) else throw (noArgument name)
    | _, _, _, _ => throw (noArgument name)

/-- The word for the kind of an expression in complaints. -/
def kindOf : Expr → String
  | .name _ => "Name"
  | .constant _ => "Constant"
  | .index _ _ => "Subscript"
  | .tuple _ => "Tuple"
  | .list _ => "List"
  | .set _ => "Set"
  | .dict _ => "Dict"
  | .call _ _ _ => "Call"
  | .negative _ => "UnaryOp"

/-- What a path can start from: a value, or an object of a kind that has no parts under keys. -/
inductive Start where
  | node (node : Node)
  | object (kind : String)

/-- What a path into an argument starts from, if the slot has the argument. -/
def start? (call : Call) (name : String) : Run (Option Start) := do
  match nodeOf? call name, statementOf? call name with
  | some node, _ => return some (.node node)
  | none, some _ => return some (.object (if name = "function" then "FunctionDef" else "Assign"))
  | none, none =>
    match name, call.occasion.checkpoint, typeOf? call, fileOf? call with
    | "options", .started, _, _ => return some (.object "GenerateOptions")
    | "type_node", _, some id, _ =>
      return some (.object (kindOf (((← get).types[id]?).getD .anything)))
    | "file_name", _, _, some (file, _) => return some (.node (← Run.allocate file))
    | "contents", _, _, some (_, contents) => return some (.node (.atom (.text contents)))
    | "tree", _, _, _ => return if hasModule call then some (.object "Module") else none
    | _, _, _, _ => return none

/-- Whether a condition is met. -/
def holds (call : Call) (condition : Condition) : Run Bool := do
  match ← start? call condition.argument with
  | none => return false
  | some (.object _) => return condition.path.isEmpty && condition.equals.isNone
  | some (.node root) =>
    let store := (← get).store
    match store.follow root condition.path with
    | .error _ => return false
    | .ok node => return condition.equals.all fun v => (store.read node).same v

/-- Edits the store by a rule that may fail. -/
def editStore (edit : Store → Except Fault Store) : Run Unit := do
  let store ← Run.ofExcept (edit (← get).store)
  modify fun w => { w with store }

/-- The node that an edit is about: what stands at a path in an argument. An object has no parts, and the
complaint says what it was asked for. -/
def target (call : Call) (argument : String) (path : List Atom) (asked : String) : Run Node := do
  match ← start? call argument with
  | none => throw (noArgument argument)
  | some (.node root) => Run.ofExcept ((← get).store.follow root path)
  | some (.object kind) =>
    let lacking := if path.isEmpty then asked else "is not subscriptable"
    throw (.raised .wrongType ("'" ++ kind ++ "' object " ++ lacking))

/-- A path into an argument without its last key, and that key. -/
def pathTo (call : Call) (argument : String) (path : List Atom) : Run (List Atom × Atom) := do
  match ← start? call argument, path.getLast? with
  | none, _ => throw (noArgument argument)
  | some _, some key => return (path.dropLast, key)
  | some _, none => throw (.raised .outOfRange "list index out of range")

/-- Sets the part at the end of a path. -/
def setPart (call : Call) (argument : String) (path : List Atom) (value : Value) : Run Unit := do
  let (front, key) ← pathTo call argument path
  let holder ← target call argument front "does not support item assignment"
  let node ← Run.allocate value
  editStore fun store => store.assign holder key node

/-- Deletes the part at the end of a path. -/
def deletePart (call : Call) (argument : String) (path : List Atom) : Run Unit := do
  let (front, key) ← pathTo call argument path
  let holder ← target call argument front "doesn't support item deletion"
  editStore fun store => store.delete holder key

/-- Appends to the list at the end of a path, which is made where its key is absent. -/
def appendPart (call : Call) (argument : String) (path : List Atom) (value : Value) : Run Unit := do
  let (front, key) ← pathTo call argument path
  let holder ← target call argument front "is not subscriptable"
  let node ← Run.allocate value
  editStore fun store => do
    let (list, store) ← store.listUnder holder key
    store.push list node

/-- The complaint about a name that is no text. -/
def notName (key : Atom) : Fault :=
  .raised .wrongType ("attribute name must be string, not '" ++ key.kindName ++ "'")

/-- Sets the setting that a path begins with. Members of the record that are no settings are not seen
again, and computed ones cannot be set. -/
def setSetting (path : List Atom) (value : Value) : Run Unit :=
  match path with
  | [] => throw (.raised .outOfRange "list index out of range")
  | .text name :: _ =>
    if Settings.computedNames.contains name then
      throw (.raised .noMember
        ("property '" ++ name ++ "' of 'GenerateOptions' object has no setter"))
    else if Settings.memberNames.contains name || Text.startsWith name "_" then pure ()
    else modify fun w => { w with settings := w.settings.put name value }
  | key :: _ => throw (notName key)

/-- Changes the value of an assignment. -/
def editAssigned (id : Nat) (edit : Expr → Except Fault Expr) : Run Unit := do
  let draft := (← get).draft
  match draft.get id with
  | .assign name value =>
    let value ← Run.ofExcept (edit value)
    modify fun w => { w with draft := w.draft.update id (.assign name value) }
  | _ => pure ()

/-- Adds an entry to a dictionary display. -/
def addEntry (key : String) (value : Value) : Expr → Except Fault Expr
  | .dict entries => do return .dict (entries ++ [(.text key, ← Expr.ofValue value)])
  | other =>
    .error (.raised .noMember ("'" ++ kindOf other ++ "' object has no attribute 'keys'"))

/-- The statement that an edit is about. -/
def targetStatement (call : Call) (argument : String) : Run Nat :=
  match statementOf? call argument with
  | some id => pure id
  | none => throw (noArgument argument)

/-- Removes a statement by its place; negative places count from the end. -/
def popStatement (draft : Draft) (index : Int) : Except Fault Draft :=
  if draft.order.isEmpty then .error (.raised .outOfRange "pop from empty list")
  else match Store.position? draft.order.length index with
    | some place => .ok { draft with order := draft.order.eraseIdx place }
    | none => .error (.raised .outOfRange "pop index out of range")

/-- The names of the functions of a module that are meant for others. -/
def publicNames (draft : Draft) : List String :=
  (draft.toList.filterMap Statement.functionName?).filter fun name => !Text.startsWith name "_"

/-- Carries out one action of a plugin at a slot. -/
def perform (plugin : Value) (call : Call) : Action → Run Unit
  | .record none =>
    modify fun w => { w with
      journal := w.journal ++ [Event.mk plugin (some call.occasion.checkpoint.slot) none] }
  | .record (some name) => do
    let shown ← exhibit call name
    modify fun w => { w with
      journal := w.journal ++ [Event.mk plugin (some call.occasion.checkpoint.slot) (some shown)] }
  | .set "options" path value =>
    match call.occasion with
    | .started => setSetting path value
    | _ => throw (noArgument "options")
  | .set argument path value => setPart call argument path value
  | .delete argument path => deletePart call argument path
  | .append argument path value => appendPart call argument path value
  | .fail kind text => throw (.raised kind text)
  | .renameFunction front name back => do
    let id ← targetStatement call "function"
    match (← get).draft.get id with
    | .define f =>
      let renamed := { f with name := front ++ name.getD f.name ++ back }
      modify fun w => { w with draft := w.draft.update id (.define renamed) }
    | _ => pure ()
  | .renameType old new =>
    match typeOf? call with
    | none => throw (noArgument "type_node")
    | some id => do
      match (← get).types[id]? with
      | some (.name current) =>
        if current = old then
          modify fun w => { w with types := w.types.setIfInBounds id (.name new) }
        else pure ()
      | _ => pure ()
  | .addDefault key value => do editAssigned (← targetStatement call "defaults") (addEntry key value)
  | .addServer key value => do editAssigned (← targetStatement call "servers") (addEntry key value)
  | .replaceServers value => do
    editAssigned (← targetStatement call "servers") fun _ => Expr.ofValue value
  | .appendAssign name value => do
    let _ ← Run.addStatement (.assign name (← Run.ofExcept (Expr.ofValue value)))
  | .appendAll => do
    let names := publicNames (← get).draft
    let _ ← Run.addStatement (.assign "__all__" (Expr.literal (.list (names.map .text))))
  | .popStatement index => do
    let draft ← Run.ofExcept (popStatement (← get).draft index)
    modify fun w => { w with draft }
  | .corrupt => do
    let _ ← Run.addStatement .foreign

/-- Carries out the instructions of a callback in order. -/
def performAll (plugin : Value) (call : Call) : List Instruction → Run Unit
  | [] => pure ()
  | i :: rest => do
    let applies ← match i.condition with
      | some condition => holds call condition
      | none => pure true
    if applies then perform plugin call i.action
    performAll plugin call rest

/-- The callbacks of a script, for a plugin of the given name. -/
def callbacks (plugin : Value) (slots : List (Checkpoint × List Instruction)) :
    List (Checkpoint × Callback) :=
  slots.map fun (checkpoint, instructions) =>
    (checkpoint, fun call => performAll plugin call instructions)

/-- How a scripted validator decides. -/
inductive Verdict where
  | always (answer : Value)
  | equals (setting : String) (value : Value)
  | fails (kind : FaultKind) (text : String)

/-- The validator of a script; it may record the settings first. -/
def validator (records : Bool) (verdict : Verdict) (settings : Settings) : Run Bool := do
  if records then
    modify fun w => { w with
      journal := w.journal ++ [Event.mk (.text "validator") none (some settings.toValue)] }
  match verdict with
  | .always answer => return answer.truthy
  | .equals name value =>
    if Settings.memberNames.contains name then
      return (settings.member? name).any fun v => v.same value
    match settings.get? name with
    | some v => return v.same value
    | none =>
      throw (.raised .noMember ("'GenerateOptions' object has no attribute " ++ Text.quoted name))
  | .fails kind text => throw (.raised kind text)

end Script

end ClientGen
