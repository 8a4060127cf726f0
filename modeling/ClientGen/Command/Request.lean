import ClientGen.Flags
import ClientGen.Value.Basic

/-!
What a command line asks for. The flags in front of the name of a command say how the program talks;
those behind it belong to the command.
-/

namespace ClientGen

/-- How the program is asked to talk. -/
structure Manner where
  isPlain : Bool := false
  isQuiet : Bool := false
  isVerbose : Bool := false
  deriving DecidableEq, Inhabited, Repr

/-- What is asked of a run of generation: settings, and arguments that are left to plugins. -/
structure Wishes where
  settings : List (String × Value)
  plugins : List String
  rest : List String
  deriving Inhabited, Repr

/-- What a command line asks for. -/
inductive Request where
  | version
  /-- The help of a command, or of the program. -/
  | help (command : Option String)
  /-- Nothing at all. -/
  | nothing
  | generate (manner : Manner) (wishes : Wishes)
  | listPlugins (manner : Manner) (paths : List String)
  deriving Inhabited, Repr

namespace Request

/-- The flag for help, which every command has. -/
def helpFlag : Flag := { destination := "help", spellings := ["--help"], takesValue := false }

/-- The flag for paths of plugins. -/
def pluginFlag : Flag :=
  { destination := "plugins", spellings := ["--plugin", "-P"], takesValue := true }

/-- The flags in front of a command. -/
def mainGrammar : Grammar :=
  { flags :=
      [{ destination := "version", spellings := ["--version"], takesValue := false },
       { destination := "plain", spellings := ["--no-color"], takesValue := false },
       { destination := "quiet", spellings := ["--quiet", "-q"], takesValue := false },
       { destination := "verbose", spellings := ["--verbose", "-v"], takesValue := false },
       helpFlag]
    interspersed := false }

/-- The flags of the command that generates. Others are left to plugins. -/
def generateGrammar : Grammar :=
  { flags :=
      [{ destination := "output", spellings := ["-o", "--output"], takesValue := true },
       { destination := "base_url", spellings := ["--base-url"], takesValue := true },
       { destination := "include_tags", spellings := ["--include-tag"], takesValue := true },
       { destination := "exclude_tags", spellings := ["--exclude-tag"], takesValue := true },
       { destination := "include_deprecated", spellings := ["--include-deprecated"],
         negatives := ["--no-include-deprecated"], takesValue := false },
       pluginFlag, helpFlag]
    lenient := true }

/-- The flags of the command that lists plugins. -/
def pluginsGrammar : Grammar := { flags := [pluginFlag, helpFlag] }

/-- The names of the commands. -/
def commands : List String := ["generate", "plugins"]

/-- Whether a switch is on. -/
def isOn (line : CommandLine) (destination : String) : Bool :=
  line.last? destination = some (.switch true)

/-- The last value for a destination. -/
def lastText (line : CommandLine) (destination : String) : Value :=
  match line.last? destination with
  | some (.value text) => .text text
  | _ => .null

/-- All values for a destination. -/
def allTexts (line : CommandLine) (destination : String) : List String :=
  line.occurrences.filterMap fun o =>
    match o.given with
    | .value text => if o.destination = destination then some text else none
    | .switch _ => none

/-- What a switch says, if it is used. -/
def lastSwitch (line : CommandLine) (destination : String) : Value :=
  match line.last? destination with
  | some (.switch on) => .bool on
  | _ => .null

/-- A list of texts as a value. -/
def textList (texts : List String) : Value := .list (texts.map .text)

/-- What is asked of a run of generation. -/
def wishesOf (line : CommandLine) : Wishes :=
  let plugins := allTexts line "plugins"
  { settings :=
      [("spec", (line.arguments.head?.map Value.text).getD .null), ("output", lastText line "output"),
       ("base_url", lastText line "base_url"),
       ("include_tags", textList (allTexts line "include_tags")),
       ("exclude_tags", textList (allTexts line "exclude_tags")),
       ("include_deprecated", lastSwitch line "include_deprecated"), ("plugins", textList plugins)]
    plugins
    rest := line.arguments.drop 1 }

/-- The request of flags that come before all others, in the order in which they are given. -/
def eager? (command : Option String) (line : CommandLine) : Option Request :=
  line.occurrences.findSome? fun o =>
    if o.destination = "version" then some .version
    else if o.destination = "help" then some (.help command)
    else none

/-- The request of a command. -/
def ofCommand (manner : Manner) (name : String) (args : List String) :
    Except UsageFault Request := do
  if name = "generate" then
    let line ← generateGrammar.read args
    return (eager? (some name) line).getD (.generate manner (wishesOf line))
  else
    let line ← pluginsGrammar.read args
    match eager? (some name) line with
    | some request => return request
    | none =>
      if line.arguments.isEmpty then return .listPlugins manner (allTexts line "plugins")
      else throw (.extraArguments line.arguments)

/-- The request of a name that no command has: one that looks like a flag is read as one. -/
def ofUnknown (name : String) (args : List String) : Except UsageFault Request := do
  if name.toList.head? = some '-' then
    let line ← mainGrammar.read (name :: args)
    match eager? none line with
    | some request => return request
    | none => throw (.noSuchCommand name)
  else throw (.noSuchCommand name)

/-- The request of a command line. -/
def ofArguments (args : List String) : Except UsageFault Request := do
  if args.isEmpty then return .nothing
  let line ← mainGrammar.read args
  match eager? none line, line.arguments with
  | some request, _ => return request
  | none, [] => throw .noCommand
  | none, name :: rest =>
    if commands.contains name then
      ofCommand ⟨isOn line "plain", isOn line "quiet", isOn line "verbose"⟩ name rest
    else ofUnknown name rest

end Request

end ClientGen
