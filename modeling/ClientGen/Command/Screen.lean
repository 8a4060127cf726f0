import ClientGen.Command.Request
import ClientGen.Fault
import ClientGen.Text.Words

/-!
The screens that explain the command line.
-/

namespace ClientGen.Screen

/-- The version of the program. -/
def version : String := "0.1.0"

/-- What is printed for the version. -/
def versionText : String := s!"specgen {version}\n"

/-- The first line of a screen. -/
def usageLine : Option String → String
  | none => "Usage: specgen [OPTIONS] COMMAND [ARGS]...\n"
  | some "generate" => "Usage: specgen generate [OPTIONS] [SPEC]\n"
  | some name => s!"Usage: specgen {name} [OPTIONS]\n"

/-- Entries of a screen in two columns. -/
def entryLines (entries : List (String × String)) : String :=
  String.join (entries.map fun (name, text) => "  " ++ Text.padRight 44 name ++ text ++ "\n")

/-- What is said about the flags of the program. -/
def mainEntries : List (String × String) :=
  [("--version", "Show version and exit."),
   ("--no-color", "Disable color output."),
   ("-q, --quiet", "Suppress non-essential output."),
   ("-v, --verbose", "Enable debug output."),
   ("--help", "Show this message and exit.")]

/-- What is said about the commands. -/
def commandEntries : List (String × String) :=
  [("generate", "Generate a Python client module from an OpenAPI document."),
   ("plugins", "List plugins and the flags they add to generate.")]

/-- What is said about the flag for plugins and the flag for help. -/
def sharedEntries : List (String × String) :=
  [("-P, --plugin PATH", "Plugin import path (module:attribute)."),
   ("--help", "Show this message and exit.")]

/-- What is said about the flags of the command that generates. -/
def generateEntries : List (String × String) :=
  [("-o, --output FILE", "Write the module here instead of stdout."),
   ("--base-url URL", "Base URL baked into defaults."),
   ("--include-tag TAG", "Only generate operations with this tag."),
   ("--exclude-tag TAG", "Skip operations with this tag."),
   ("--include-deprecated, --no-include-deprecated", "Generate functions for deprecated operations.")]
    ++ sharedEntries

/-- The help of a command, or of the program. -/
def help : Option String → String
  | none => usageLine none ++ "\nGenerate Python API clients from OpenAPI 3.0/3.1 documents.\n\nOptions:\n" ++
      entryLines mainEntries ++ "\nCommands:\n" ++ entryLines commandEntries
  | some "generate" => usageLine (some "generate") ++
      "\nGenerate a Python client module from an OpenAPI document.\n\nArguments:\n" ++
      entryLines [("SPEC", "OpenAPI document: URL, file path, or '-' for stdin.")] ++ "\nOptions:\n" ++
      entryLines generateEntries
  | some name => usageLine (some name) ++
      "\nList plugins and the flags they add to generate.\n\nOptions:\n" ++ entryLines sharedEntries

/-- What is printed when a command line is refused. -/
def refusal (fault : UsageFault) : String :=
  usageLine none ++ "Try 'specgen --help' for help.\n\nError: " ++ fault.message ++ "\n"

end ClientGen.Screen
