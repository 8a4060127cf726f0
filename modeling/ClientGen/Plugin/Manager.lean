import ClientGen.Plugin.Modules
import ClientGen.Plugin.Parameters
import ClientGen.Plugin.Registry

/-!
The manager of the plugins of a run. A plugin is loaded under its name if it is genuine and if no flag
and no destination of its options is taken; what is refused changes nothing. Plugins whose validator
rejects the settings are disabled.
-/

namespace ClientGen

/-- A loaded plugin: the name under which it was loaded, and its identity. -/
structure Loaded where
  name : Value
  id : Nat
  deriving Inhabited, Repr

/-- The plugins that are called in a run, as they were when the list was made. -/
structure HookRunner where
  /-- Distinguishes lists that were made at different times. -/
  serial : Nat
  members : List Nat
  deriving DecidableEq, Inhabited, Repr

/-- The state of managing plugins. -/
structure Manager where
  loaded : List Loaded := []
  flagOwners : List (String × Value) := []
  destinationOwners : List (String × Value) := []
  disabled : List Value := []
  runner : Option HookRunner := none
  /-- How many lists of plugins have been made. -/
  made : Nat := 0
  deriving Inhabited, Repr

/-- Steps of managing plugins. What they have changed stays changed when they fail. -/
abbrev Managed := ExceptT Fault (StateT Manager (StateM World))

namespace Managed

/-- A step of a run, as a step of managing plugins. -/
def ofRun {α : Type} (step : Run α) : Managed α := fun manager world =>
  let (outcome, world) := step.run world
  ((outcome, manager), world)

instance : Logging Managed where
  note record := ofRun (note record)

end Managed

namespace Manager

/-- The flags of the built-in options, without dashes. -/
def builtinNames : List String :=
  ["spec", "output", "o", "base-url", "include-tag", "exclude-tag", "include-deprecated",
   "no-include-deprecated", "plugin", "P", "help"]

/-- The destinations that no option of a plugin may have: the settings, and what else the settings
record can be asked for. -/
def reservedDestinations : List String := Settings.fieldNames ++ Settings.memberNames

/-- The part of the program that reports on plugins. -/
def source : String := "specgen.plugins.manager"

/-- A flag without its dashes. -/
def bareFlag (flag : String) : String := String.ofList (flag.toList.dropWhile (· = '-'))

/-- The owner of a flag or destination. -/
def owner? (owners : List (String × Value)) (key : String) : Option Value :=
  match owners.find? fun entry => entry.1 = key with
  | some (_, .null) => none
  | some (_, name) => some name
  | none => none

/-- The owner as a complaint names it: without a name to show it is the plugin itself. -/
def ownerText (owner : Option Value) (plugin : Value) : String :=
  match owner with
  | some name => if name.truthy then name.displayed else plugin.displayed
  | none => plugin.displayed

/-- What a plugin would claim by its options. -/
structure Claims where
  flags : List String := []
  destinations : List String := []
  deriving Inhabited, Repr

/-- The flags that are claimed with those of one more option. -/
def claimFlags (manager : Manager) (plugin : Value) :
    List String → List String → Except PluginFault (List String)
  | [], claimed => .ok claimed
  | flag :: rest, claimed =>
    let key := bareFlag flag
    if builtinNames.contains key then .error (.builtinFlag plugin.displayed flag)
    else
      let owner := owner? manager.flagOwners key
      if owner.isSome || claimed.contains key then
        .error (.flagTaken plugin.displayed flag (ownerText owner plugin))
      else claimFlags manager plugin rest (claimed ++ [key])

/-- What is claimed with one more option. -/
def claimOption (manager : Manager) (plugin : Value) (claims : Claims) (o : OptionSpec) :
    Except PluginFault Claims := do
  if reservedDestinations.contains o.destination then
    throw (.shadowsSetting plugin.displayed o.name o.destination)
  let flags ← claimFlags manager plugin o.flags claims.flags
  let owner := owner? manager.destinationOwners o.destination
  if owner.isSome || claims.destinations.contains o.destination then
    throw (.destinationTaken plugin.displayed o.name o.destination (ownerText owner plugin))
  return ⟨flags, claims.destinations ++ [o.destination]⟩

/-- What a plugin would claim, or the first of its options that cannot be had. -/
def claimAll (manager : Manager) (plugin : Value) :
    Claims → List OptionSpec → Except PluginFault Claims
  | claims, [] => .ok claims
  | claims, o :: rest => do claimAll manager plugin (← claimOption manager plugin claims o) rest

/-- Owners with new ones added; a key that has an owner gets the new one. -/
def own (owners : List (String × Value)) (keys : List String) (name : Value) :
    List (String × Value) :=
  keys.foldl (fun owners key => (owners.filter fun entry => entry.1 ≠ key) ++ [(key, name)]) owners

/-- Whether a plugin is loaded under a name. -/
def has (manager : Manager) (name : Value) : Bool := manager.loaded.any fun l => l.name.same name

/-- The manager with one more plugin, or why the plugin is refused. -/
def accept (manager : Manager) (registry : Registry) (id : Nat) : Except Fault Manager :=
  match registry.genuine? id with
  | none =>
    let candidate := (registry.object? id).getD (.value .null)
    .error (.plugin (.notRegistered candidate.written))
  | some plugin =>
    if !plugin.name.isKey then .error Fault.wrongType
    else if manager.has plugin.name then .error (.plugin (.alreadyLoaded plugin.label))
    else match claimAll manager plugin.name {} plugin.specs with
      | .error fault => .error (.plugin fault)
      | .ok claims =>
        .ok { manager with
          loaded := manager.loaded ++ [⟨plugin.name, id⟩]
          flagOwners := own manager.flagOwners claims.flags plugin.name
          destinationOwners := own manager.destinationOwners claims.destinations plugin.name
          runner := none }

/-- The name of an object, as it is now. -/
def nameOf (registry : Registry) (id : Nat) : Value :=
  ((registry.plugin? id).map (·.name)).getD .null

/-- Loads a plugin. -/
def load (registry : Registry) (id : Nat) : Managed Unit := do
  match (← get).accept registry id with
  | .error fault => throw fault
  | .ok manager =>
    set manager
    note ⟨.info, source, "Loaded plugin '" ++ (nameOf registry id).displayed ++ "'"⟩

/-- Loads plugins; those that are refused are left out with a warning. Yields the names of the
others. -/
def loadAll (registry : Registry) : List Nat → Managed (List Value)
  | [] => return []
  | id :: rest => do
    let refused ← tryCatch (do load registry id; return none) fun fault =>
      if fault.kind = .plugin then pure (some fault) else throw fault
    match refused with
    | some fault =>
      note ⟨.warning, source, "Skipping plugin: " ++ fault.message⟩
      loadAll registry rest
    | none => return nameOf registry id :: (← loadAll registry rest)

/-- The name of the member that is looked up where a path names none. -/
def defaultMember : String := "plugin"

/-- The module and the member that a path names. -/
def cutPath (path : String) : String × String :=
  let cs := path.toList
  let member := String.ofList ((cs.dropWhile (· ≠ ':')).drop 1)
  (String.ofList (cs.takeWhile (· ≠ ':')), if member.isEmpty then defaultMember else member)

/-- The object that a path leads to. Only failures of the import itself are reported as failures of
the plugin. -/
def findMember (modules : Modules) (path : String) : Except Fault Nat :=
  let (moduleName, member) := cutPath path
  match modules.importModule moduleName with
  | .error fault =>
    if fault.kind.isImport then .error (.plugin (.noModule moduleName fault.message))
    else .error fault
  | .ok members =>
    match members.find? fun entry => entry.1 = member with
    | some (_, id) => .ok id
    | none => .error (.plugin (.noMember moduleName member))

/-- Loads the plugin that a path leads to. -/
def loadPath (modules : Modules) (registry : Registry) (path : String) : Managed Nat := do
  match findMember modules path with
  | .error fault => throw fault
  | .ok id =>
    load registry id
    return id

/-- Loads the plugins that paths lead to; those that fail are left out with a warning. -/
def loadPaths (modules : Modules) (registry : Registry) : List String → Managed (List Value)
  | [] => return []
  | path :: rest => do
    let outcome ← tryCatch (Except.ok <$> loadPath modules registry path) fun fault =>
      if fault.kind = .plugin then pure (Except.error fault) else throw fault
    match outcome with
    | .error fault =>
      note ⟨.warning, source, "Failed to load plugin '" ++ path ++ "': " ++ fault.message⟩
      loadPaths modules registry rest
    | .ok id => return nameOf registry id :: (← loadPaths modules registry rest)

/-- The identity of the plugin loaded under a name. -/
def find? (manager : Manager) (name : Value) : Except Fault Nat :=
  if !name.isKey then .error Fault.wrongType
  else match manager.loaded.find? fun l => l.name.same name with
  | some l => .ok l.id
  | none => .error (.plugin (.notLoaded name.displayed))

/-- Whether a name is that of a disabled plugin. -/
def isDisabled (manager : Manager) (name : Value) : Bool := manager.disabled.any name.same

/-- A loaded plugin as it is listed. -/
structure Entry where
  name : Value
  enabled : Bool
  options : List String
  description : Value
  deriving Inhabited, Repr

/-- The loaded plugins with the names under which they were loaded. -/
def plugins (manager : Manager) (registry : Registry) : List (Value × Plugin) :=
  manager.loaded.filterMap fun l => (registry.plugin? l.id).map fun p => (l.name, p)

/-- The list of loaded plugins. -/
def entries (manager : Manager) (registry : Registry) : List Entry :=
  (manager.plugins registry).map fun (name, p) =>
    ⟨name, !manager.isDisabled name, p.specs.map (·.name),
      (p.options.map (·.description)).getD (.text "")⟩

/-- All options of loaded plugins, in the order of loading. -/
def specs (manager : Manager) (registry : Registry) : List (Value × OptionSpec) :=
  (manager.plugins registry).flatMap fun (name, p) => p.specs.map fun o => (name, o)

/-- The parameters of all options. -/
def parameters (manager : Manager) (registry : Registry) : Except Fault (List Parameter) :=
  (manager.specs registry).mapM fun entry => Parameter.ofSpec entry.2

/-- The declared defaults, by destination. -/
def defaults (manager : Manager) (registry : Registry) : List (String × Value) :=
  ((manager.specs registry).foldl
    (fun (s : Settings) entry => s.put entry.2.destination entry.2.default) ⟨[]⟩).entries

/-- Reads the part of a command line that is left to plugins. -/
def readArguments (manager : Manager) (registry : Registry) (args : List String) :
    Except Fault (List (String × Value)) := do
  Parameter.read (← manager.parameters registry) args

/-- Asks a plugin whether it accepts the settings. -/
def ask (name : Value) (options : PluginOptions) (settings : Settings) : Run Bool :=
  tryCatch (options.accepts settings) fun fault =>
    throw (.plugin (.validatorFailed name.displayed fault.message))

/-- Asks validators; plugins that reject the settings are disabled at once. Yields their names. -/
def askAll (registry : Registry) (settings : Settings) : List Loaded → Managed (List Value)
  | [] => return []
  | l :: rest => do
    let options := (registry.plugin? l.id).bind (·.options)
    match options with
    | none => askAll registry settings rest
    | some options =>
      if (← get).isDisabled l.name then askAll registry settings rest
      else
        let accepted ← Managed.ofRun (ask l.name options settings)
        if accepted then askAll registry settings rest
        else
          note ⟨.warning, source,
            "Plugin '" ++ l.name.displayed ++ "' rejected the supplied options and is disabled"⟩
          modify fun m => { m with disabled := m.disabled ++ [l.name] }
          return l.name :: (← askAll registry settings rest)

/-- Lets plugins validate the settings. Only when all of them have answered is the list of plugins to
call made anew. -/
def validate (registry : Registry) (settings : Settings) : Managed (List Value) := do
  let names ← askAll registry settings (← get).loaded
  if !names.isEmpty then modify fun m => { m with runner := none }
  return names

/-- The plugins that are not disabled. -/
def enabled (manager : Manager) : List Nat :=
  (manager.loaded.filter fun l => !manager.isDisabled l.name).map (·.id)

/-- The plugins to call; the list is kept until the plugins change. -/
def hookRunner (manager : Manager) : HookRunner × Manager :=
  match manager.runner with
  | some runner => (runner, manager)
  | none =>
    let runner : HookRunner := ⟨manager.made, manager.enabled⟩
    (runner, { manager with runner := some runner, made := manager.made + 1 })

end Manager

namespace HookRunner

/-- The plugins of a list that are genuine at the moment. -/
def plugins (runner : HookRunner) (registry : Registry) : List Plugin :=
  runner.members.filterMap registry.genuine?

/-- Whether a genuine plugin fills the slot of a checkpoint. -/
def hasHook (runner : HookRunner) (registry : Registry) (c : Checkpoint) : Bool :=
  (runner.plugins registry).any fun p => (p.callback? c).isSome

end HookRunner

end ClientGen
