import ClientGen.Settings.Records

/-!
Where the settings of a run come from. For each setting the strongest source that states it wins: the
command line with the options of plugins, the environment, the project, and the defaults that plugins
declare.
-/

namespace ClientGen

/-- Environment variables. -/
abbrev Environment := List (String × String)

/-- The value of an environment variable. -/
def Environment.get? (env : Environment) (name : String) : Option String :=
  (env.find? fun entry => entry.1 = name).map (·.2)

namespace Settings

/-- Everything that states settings. -/
structure Sources where
  commandLine : List (String × Value) := []
  environment : Environment := []
  project : Project := Project.empty
  pluginDefaults : List (String × Value) := []
  pluginValues : List (String × Value) := []

/-- The environment variables that state settings. -/
def stating : List (String × String) :=
  [("spec", "SPECGEN_SPEC"), ("output", "SPECGEN_OUTPUT"), ("base_url", "SPECGEN_BASE_URL")]

/-- The settings that the environment states; an empty variable states nothing. -/
def ofEnvironment (env : Environment) : List (String × Value) :=
  stating.filterMap fun (name, source) =>
    match env.get? source with
    | some text => if text.isEmpty then none else some (name, .text text)
    | none => none

/-- What the command line states by a value: nothing by null or by an empty list, and a list by
several values. -/
def given? : Value → Option Value
  | .null => none
  | .list [] => none
  | .tuple items => if items.isEmpty then none else some (.list items)
  | v => some v

/-- The settings that the command line states. -/
def ofCommandLine (values : List (String × Value)) : List (String × Value) :=
  values.filterMap fun (name, v) => (given? v).map fun v => (name, v)

/-- Settings with others put over them. -/
def overlaid (entries stronger : List (String × Value)) : List (String × Value) :=
  (stronger.foldl (fun (s : Settings) entry => s.put entry.1 entry.2) ⟨entries⟩).entries

/-- What all sources together state. -/
def Sources.merged (s : Sources) : List (String × Value) :=
  [s.project.pluginOptions, s.project.stated, ofEnvironment s.environment,
    ofCommandLine s.commandLine, s.pluginValues].foldl overlaid (overlaid [] s.pluginDefaults)

/-- The settings of a run. A source for the document must be stated. -/
def Sources.resolve (s : Sources) : Except Fault Settings :=
  let merged := s.merged
  if !((Settings.mk merged).get "spec").truthy then .error (.usage .noSpecification)
  else match ofValue (Value.ofFields merged) with
    | .ok settings => .ok settings
    | .error violations => .error (.config (.optionsInvalid violations))

end Settings

end ClientGen
