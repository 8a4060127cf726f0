import ClientGen.Command.Screen
import ClientGen.Disk.DataDirectory
import ClientGen.Generation
import ClientGen.Plugin.Session
import ClientGen.Settings.ProjectFile
import ClientGen.Source
import ClientGen.Terminal.Output

/-!
The commands. A failure that the program knows is reported, and its kind decides the exit code. Any
other failure leaves a crash log among the program's data.
-/

namespace ClientGen.Command

/-- What a command finds when it starts, besides the disk and the modules of its session. -/
structure Scene where
  environment : Environment := []
  input : String := ""
  fetch : String → Reply := fun _ => .unreachable ""
  platform : String := "Linux"
  /-- The time of the start, as it stands in names of crash logs. -/
  time : String := ""

/-- What a command leaves for whoever called it. -/
structure Conclusion where
  exitCode : Int
  out : String := ""
  err : String := ""
  deriving DecidableEq, Inhabited, Repr

/-- Loads plugins: those of the command line, or without any those of the project. -/
def loadPlugins (paths : List String) : Sitting Project := do
  let (_, project) ← Session.ofExcept (Project.load (← get).world.disk none)
  let _ ← Session.loadPaths (if paths.isEmpty then project.plugins else paths)
  return project

/-- The settings of a run, after plugins have read their part of the command line and have validated
the whole. -/
def settle (environment : Environment) (wishes : Wishes) : Sitting Settings := do
  let project ← loadPlugins wishes.plugins
  let s ← get
  let pluginValues ← Session.ofExcept (s.manager.readArguments s.registry wishes.rest)
  let sources : Settings.Sources :=
    { commandLine := wishes.settings, environment, project, pluginValues
      pluginDefaults := s.manager.defaults s.registry }
  let settings ← Session.ofExcept sources.resolve
  let _ ← Session.ofManaged (Manager.validate s.registry settings)
  return settings

/-- Loads the document that the settings name, and checks that it has a version. -/
def loadDocument (scene : Scene) (settings : Settings) : Sitting Node := do
  let source := match settings.get "spec" with
    | .text source => source
    | _ => ""
  let around : Surroundings :=
    { disk := (← get).world.disk, input := scene.input, fetch := scene.fetch }
  let document ← Session.ofRun (Run.ofLogged (Source.load around source))
  let _ ← Session.ofRun (Run.ofLogged (Document.version document.toValue))
  Session.modifyWorld fun w => { w with store := document.store }
  return document.root

/-- What is said about a finished run, unless its module went to the output. -/
def summary (outcome : Generation.Outcome) : Option String :=
  if outcome.file = Generation.outputName then none
  else
    let functions := toString outcome.functions.length
    let types := toString outcome.types.length
    some (s!"Generated {functions} functions and {types} types in " ++ outcome.file)

/-- Generates a module; yields what is said at the end. -/
def generate (scene : Scene) (o : Output) (wishes : Wishes) : Sitting String := do
  let settings ← settle scene.environment wishes
  let document ← loadDocument scene settings
  Session.modifyWorld fun w => { w with settings }
  let (runner, manager) := (← get).manager.hookRunner
  modify fun s => { s with manager }
  let outcome ← Session.ofRun (Generation.withPlugins (← get).registry runner.members document)
  return ((summary outcome).map o.success).getD ""

/-- The cell of a table for a value. A box can leave a cell empty; what else is no text cannot be
shown. -/
def cell? (o : Output) : Value → Option String
  | .text s => some s
  | .null => if o.isPlain then none else some ""
  | _ => none

/-- The first value, or the second where the first says nothing. -/
def orElse (v : Value) (default : String) : Value := if v.truthy then v else .text default

/-- The row of a plugin in the list of plugins. -/
def pluginRow (e : Manager.Entry) : List Value :=
  let flags := Text.join ", " (e.options.map ("--" ++ ·))
  [e.name, .text (if e.enabled then "yes" else "no"), .text (if flags.isEmpty then "-" else flags),
    orElse e.description "-"]

/-- What stands above the list of plugins. -/
def pluginHeaders : List String := ["Plugin", "Enabled", "Options", "Description"]

/-- Prints rows as a table. A plain table is printed as far as its rows can be shown. -/
def printRows (o : Output) (rows : List (List Value)) : Sitting Unit := do
  let cells := rows.map fun row => row.mapM (cell? o)
  let shown := (cells.takeWhile Option.isSome).filterMap id
  let isWhole := shown.length = rows.length
  if isWhole ∨ o.isPlain then
    let text ← Session.ofExcept (o.table pluginHeaders shown "Plugins")
    Session.modifyWorld fun w => { w with printed := w.printed ++ [text] }
  if !isWhole then throw Fault.wrongType

/-- Lists plugins; yields what is said at the end. -/
def listPlugins (o : Output) (paths : List String) : Sitting String := do
  let _ ← loadPlugins paths
  let s ← get
  let entries := s.manager.entries s.registry
  if entries.isEmpty then return o.info "No plugins loaded."
  printRows o (entries.map pluginRow)
  return ""

/-- How a command ends: the exit code, what is said last, and a failure that the program does not
know. -/
structure Ending where
  exitCode : Int
  text : String := ""
  crash : Option Fault := none
  deriving Repr

/-- The end of a command with an outcome. A message whose markup cannot be obeyed is a failure of its
own. -/
def ending (o : Output) : Except Fault String → Ending
  | .ok text => ⟨0, text, none⟩
  | .error fault =>
    if fault.kind.isOwn then
      match o.error fault.message with
      | .ok text => ⟨fault.exitCode, text, none⟩
      | .error bad => ⟨1, "", some bad⟩
    else ⟨1, "", some fault⟩

/-- The text of a crash log. -/
def crashText (fault : Fault) : String := Screen.versionText ++ fault.message ++ "\n"

/-- Writes a crash log; yields its path. -/
def writeCrashLog (scene : Scene) (fault : Fault) (disk : Disk) : Except Fault String × Disk :=
  match DataDirectory.make disk scene.environment scene.platform with
  | (.error problem, disk) => (.error problem, disk)
  | (.ok data, disk) =>
    let logs := data.child "logs"
    match disk.makeDirectories logs with
    | (some problem, disk) => (.error problem.toFault, disk)
    | (none, disk) =>
      let path := logs.child s!"crash-{scene.time}.log"
      match disk.locate path with
      | .error problem => (.error (DiskFault.toFault ⟨problem, disk.pathText path, none⟩), disk)
      | .ok place =>
        (.ok (disk.pathText path), disk.put place (.file (Text.encode (crashText fault))))

/-- What is said about a crash, with the path of its log. -/
def crashMessage (path : String) : String := "Unexpected error. Debug log: " ++ path

/-- What is said after a crash, and the disk with the crash log. -/
def reportCrash (scene : Scene) (o : Output) (fault : Fault) (disk : Disk) : String × Disk :=
  match writeCrashLog scene fault disk with
  | (.error problem, disk) => (problem.message ++ "\n", disk)
  | (.ok path, disk) =>
    match o.error (crashMessage path) with
    | .ok text => (text, disk)
    | .error bad => (bad.message ++ "\n", disk)

/-- The sources that a document may be read from: what the command line, the environment and the project
name. -/
def sources (scene : Scene) (disk : Disk) (args : List String) : List String :=
  let wished := match Request.ofArguments args with
    | .ok (.generate _ wishes) => wishes.settings
    | _ => []
  let project := match Project.load disk none with
    | .ok (_, project) => project.stated
    | .error _ => []
  (wished ++ Settings.ofEnvironment scene.environment ++ project).filterMap fun (name, v) =>
    match name, v with
    | "spec", .text source => some source
    | _, _ => none

/-- Runs a command to its end in a session. -/
def execute (scene : Scene) (manner : Manner) (body : Output → Sitting String) (s : Session) :
    Conclusion × Session :=
  let o := Output.make scene.environment manner.isPlain manner.isQuiet manner.isVerbose
  let (outcome, s) := (body o).run s
  let final := ending o outcome
  let (text, disk) := match final.crash with
    | some fault => reportCrash scene o fault s.world.disk
    | none => (final.text, s.world.disk)
  (⟨final.exitCode, String.join s.world.printed, o.log s.world.log ++ text⟩,
    { s with world := { s.world with disk } })

/-- Answers a request. -/
def answer (scene : Scene) (s : Session) : Request → Conclusion × Session
  | .version => ({ exitCode := 0, out := Screen.versionText }, s)
  | .help command => ({ exitCode := 0, out := Screen.help command }, s)
  | .nothing => ({ exitCode := FaultKind.usage.exitCode, out := Screen.help none }, s)
  | .generate manner wishes => execute scene manner (fun o => generate scene o wishes) s
  | .listPlugins manner paths => execute scene manner (fun o => listPlugins o paths) s

/-- Runs the program with the arguments of a command line. -/
def run (scene : Scene) (s : Session) (args : List String) : Conclusion × Session :=
  match Request.ofArguments args with
  | .ok request => answer scene s request
  | .error fault => ({ exitCode := FaultKind.usage.exitCode, err := Screen.refusal fault }, s)

end ClientGen.Command
