import ClientGen.Text.Quoted
import ClientGen.Text.Words

/-!
What can go wrong, by cause. Every cause has a kind, which decides the exit code, and a message.
-/

namespace ClientGen

/-- The kinds of failure that callers tell apart. The first six are the program's own; the others
are failures of an operation on a value of the wrong form, or of the surroundings. -/
inductive FaultKind where
  | general
  | usage
  | specification
  | generation
  | plugin
  | config
  | validation
  | wrongType
  | noMember
  | noKey
  | outOfRange
  | badValue
  | badEncoding
  | overflow
  | noImport
  | noModule
  | isDirectory
  | notDirectory
  | alreadyExists
  | noFile
  | system
  | other (name : String)
  deriving DecidableEq, Inhabited, Repr

namespace FaultKind

/-- Whether a failure of this kind is one that the program reports by itself. -/
def isOwn : FaultKind → Bool
  | general | usage | specification | generation | plugin | config => true
  | _ => false

/-- The exit code of a failure of this kind. -/
def exitCode : FaultKind → Int
  | usage => 2
  | specification => 7
  | generation => 8
  | plugin => 10
  | _ => 1

/-- The kinds that a kind is a case of, itself first, as far as they are the program's own. -/
def lineage (kind : FaultKind) : List FaultKind :=
  if kind = general then [general] else if kind.isOwn then [kind, general] else []

/-- Failures of importing a module. -/
def isImport : FaultKind → Bool
  | noImport | noModule => true
  | _ => false

/-- Failures that a value of the wrong text or form can cause. -/
def isValue : FaultKind → Bool
  | badValue | badEncoding | validation => true
  | _ => false

end FaultKind

/-- One violated rule of a settings record: where, the code of the rule, and its text. -/
structure Violation where
  location : List (String ⊕ Nat)
  rule : String
  text : String
  deriving DecidableEq, Inhabited, Repr

/-- Why a reference cannot be followed. -/
inductive ReferenceFault where
  | external (ref : String)
  | missing (ref key : String)
  | badIndex (ref segment : String)
  | notNavigable (ref kind : String)
  | circular (ref : String)
  deriving DecidableEq, Repr

def ReferenceFault.message : ReferenceFault → String
  | external ref => s!"External $ref not supported: {ref}. Only internal references (#/...) are handled."
  | missing ref key => s!"Cannot resolve $ref '{ref}': key '{key}' not found at path"
  | badIndex ref segment => s!"Cannot resolve $ref '{ref}': invalid array index '{segment}'"
  | notNavigable ref kind => s!"Cannot resolve $ref '{ref}': cannot navigate into {kind}"
  | circular ref => s!"Circular $ref chain at '{ref}'"

/-- Why text is not JSON. -/
inductive JsonProblem where
  | expectingValue
  | expectingName
  | expectingColon
  | expectingComma
  | extraData
  | unterminatedString
  | controlCharacter
  | badEscape
  | badUnicodeEscape
  | byteOrderMark
  deriving DecidableEq, Repr

def JsonProblem.text : JsonProblem → String
  | expectingValue => "Expecting value"
  | expectingName => "Expecting property name enclosed in double quotes"
  | expectingColon => "Expecting ':' delimiter"
  | expectingComma => "Expecting ',' delimiter"
  | extraData => "Extra data"
  | unterminatedString => "Unterminated string starting at"
  | controlCharacter => "Invalid control character at"
  | badEscape => "Invalid \\escape"
  | badUnicodeEscape => "Invalid \\uXXXX escape"
  | byteOrderMark => "Unexpected UTF-8 BOM (decode using utf-8-sig)"

/-- A problem with its place: line and column count from one, the offset from zero. -/
structure JsonFault where
  problem : JsonProblem
  line : Nat
  column : Nat
  offset : Nat
  deriving DecidableEq, Repr

def JsonFault.message (f : JsonFault) : String :=
  f.problem.text ++ ": line " ++ toString f.line ++ " column " ++ toString f.column ++
    " (char " ++ toString f.offset ++ ")"

/-- Why a document cannot be loaded. -/
inductive LoadFault where
  | noInput
  | notFound (path : String)
  | empty (path : String)
  | unreadable (path reason : String)
  | status (code : Int) (url : String)
  | unreachable (url reason : String)
  | invalidJson (fault : JsonFault)
  | unparsable (json : Option JsonFault) (yaml : String)
  | notMapping (kind : String)
  | swagger (version : String)
  | noVersion
  | badVersion (version : String)
  deriving DecidableEq, Repr

def LoadFault.message : LoadFault → String
  | noInput => "No input received from stdin"
  | notFound path => s!"Spec file not found: {path}"
  | empty path => s!"Spec file is empty: {path}"
  | unreadable path reason => s!"Failed to read spec file {path}: {reason}"
  | status code url => s!"HTTP {code} fetching spec from {url}"
  | unreachable url reason => s!"Failed to fetch spec from {url}: {reason}"
  | invalidJson fault => "Invalid JSON: " ++ fault.message
  | unparsable json yaml =>
    "Failed to parse spec as JSON or YAML\n  " ++ Text.join "\n  "
      (((json.map fun fault => "JSON error: " ++ fault.message).toList) ++ ["YAML error: " ++ yaml])
  | notMapping kind => s!"Spec must be a JSON/YAML object (got {kind})"
  | swagger version =>
    s!"Swagger {version} is not supported. Only OpenAPI 3.0.x and 3.1.x are supported. " ++
      "Consider converting with https://converter.swagger.io"
  | noVersion => "Missing 'openapi' field. Is this an OpenAPI 3.x document?"
  | badVersion version =>
    s!"Unsupported OpenAPI version: {version}. Only OpenAPI 3.0.x and 3.1.x are supported."

/-- Why a module cannot be finished. -/
inductive OutputFault where
  | unrenderable (reason : String)
  | unwritable (file reason : String)
  deriving DecidableEq, Repr

def OutputFault.message : OutputFault → String
  | unrenderable reason => s!"Cannot render generated module: {reason}"
  | unwritable file reason => s!"Cannot write {file}: {reason}"

/-- Why a plugin is refused, or how it failed. -/
inductive PluginFault where
  | notRegistered (description : String)
  | alreadyLoaded (name : String)
  | shadowsSetting (plugin option destination : String)
  | builtinFlag (plugin flag : String)
  | flagTaken (plugin flag owner : String)
  | destinationTaken (plugin option destination owner : String)
  | notLoaded (name : String)
  | noModule (moduleName reason : String)
  | noMember (moduleName member : String)
  | validatorFailed (plugin reason : String)
  | callbackFailed (plugin slot reason : String)
  deriving DecidableEq, Repr

def PluginFault.message : PluginFault → String
  | notRegistered description =>
    s!"{description} is not a registered plugin; wrap it with define_plugin()"
  | alreadyLoaded name => s!"Plugin '{name}' is already loaded"
  | shadowsSetting plugin option destination =>
    s!"Plugin '{plugin}' option '{option}' shadows the built-in '{destination}' setting"
  | builtinFlag plugin flag =>
    s!"Plugin '{plugin}' option '{flag}' collides with a built-in option"
  | flagTaken plugin flag owner =>
    s!"Plugin '{plugin}' option '{flag}' is already declared by plugin '{owner}'"
  | destinationTaken plugin option destination owner =>
    s!"Plugin '{plugin}' option '{option}' stores its value under '{destination}', " ++
      s!"already used by plugin '{owner}'"
  | notLoaded name => s!"Plugin '{name}' is not loaded"
  | noModule moduleName reason => s!"Cannot import plugin module '{moduleName}': {reason}"
  | noMember moduleName member => s!"Module '{moduleName}' has no attribute '{member}'"
  | validatorFailed plugin reason => s!"Plugin '{plugin}' option validator raised: {reason}"
  | callbackFailed plugin slot reason => s!"Plugin '{plugin}' failed in {slot}: {reason}"

/-- Why a command line is refused. -/
inductive UsageFault where
  | noCommand
  | noSuchCommand (name : String)
  | noSpecification
  | noSuchOption (flag : String) (suggestions : List String)
  | needsArgument (flag : String)
  | takesNoValue (flag : String)
  /-- The value is given in written form. -/
  | notNumber (flags : List String) (value kind : String)
  | extraArguments (args : List String)
  deriving DecidableEq, Repr

private def suggestionText : List String → String
  | [] => ""
  | [one] => " Did you mean " ++ Text.quoted one ++ "?"
  | many => " (Did you mean one of: " ++ Text.join ", " (many.map Text.quoted) ++ "?)"

def UsageFault.message : UsageFault → String
  | noCommand => "Missing command."
  | noSuchCommand name => s!"No such command '{name}'."
  | noSpecification =>
    "No spec given. Pass SPEC, set SPECGEN_SPEC, or add \"spec\" to specgen.json"
  | noSuchOption flag suggestions =>
    "No such option " ++ Text.quoted flag ++ "." ++ suggestionText suggestions
  | needsArgument flag => "Option " ++ Text.quoted flag ++ " requires an argument."
  | takesNoValue flag => "Option " ++ Text.quoted flag ++ " does not take a value."
  | notNumber flags value kind =>
    "Invalid value for " ++ Text.join " / " (flags.map fun f => s!"'{f}'") ++ ": " ++ value ++
      s!" is not a valid {kind}."
  | extraArguments [arg] => s!"Got unexpected extra argument ({arg})"
  | extraArguments args => "Got unexpected extra arguments (" ++ Text.join " " args ++ ")"

/-- The first line of a report on violated rules. -/
def violationSummary (model : String) (violations : List Violation) : String :=
  let n := violations.length
  s!"{n} validation error" ++ (if n = 1 then "" else "s") ++ s!" for {model}"

/-- Why settings are refused. -/
inductive ConfigFault where
  | projectNotJson (path : String) (fault : JsonFault)
  | projectUnreadable (path reason : String)
  | projectInvalid (path : String) (violations : List Violation)
  | optionsInvalid (violations : List Violation)
  deriving DecidableEq, Repr

def ConfigFault.message : ConfigFault → String
  | projectNotJson path fault => s!"Invalid project config at {path}: " ++ fault.message
  | projectUnreadable path reason => s!"Invalid project config at {path}: {reason}"
  | projectInvalid path violations =>
    s!"Invalid project config at {path}: " ++ violationSummary "ProjectConfig" violations
  | optionsInvalid violations => "Invalid options: " ++ violationSummary "GenerateOptions" violations

/-- Everything that can go wrong. `raisedWith` is a failure with a text of its own: of an operation on
a value of the wrong form, of the surroundings, or one that a plugin makes up. It can ask for another exit
code than that of its kind. -/
inductive Fault where
  | reference (cause : ReferenceFault)
  | load (cause : LoadFault)
  | output (cause : OutputFault)
  | plugin (cause : PluginFault)
  | usage (cause : UsageFault)
  | config (cause : ConfigFault)
  | invalid (model : String) (violations : List Violation)
  | raisedWith (kind : FaultKind) (text : String) (exitCode : Option Int)
  deriving DecidableEq, Repr

namespace Fault

/-- A failure with a text of its own and the exit code of its kind. -/
def raised (kind : FaultKind) (text : String) : Fault := raisedWith kind text none

instance : Inhabited Fault := ⟨raised .general ""⟩

def kind : Fault → FaultKind
  | reference _ => .specification
  | load _ => .specification
  | output _ => .generation
  | plugin _ => .plugin
  | usage _ => .usage
  | config _ => .config
  | invalid _ _ => .validation
  | raisedWith kind _ _ => kind

def message : Fault → String
  | reference cause => cause.message
  | load cause => cause.message
  | output cause => cause.message
  | plugin cause => cause.message
  | usage cause => cause.message
  | config cause => cause.message
  | invalid model violations => violationSummary model violations
  | raisedWith _ text _ => text

def exitCode : Fault → Int
  | raisedWith kind _ exitCode => exitCode.getD kind.exitCode
  | fault => fault.kind.exitCode

/-- An operation on a value whose kind does not have it. -/
def wrongType : Fault := raised .wrongType ""

/-- A member that the kind of a value does not have. -/
def noMember : Fault := raised .noMember ""

/-- A value of the right kind with a content that cannot be used. -/
def badValue : Fault := raised .badValue ""

/-- A whole number with more digits than are written. -/
def tooManyDigits : Fault := raised .badValue
  ("Exceeds the limit (4300 digits) for integer string conversion; " ++
    "use sys.set_int_max_str_digits() to increase the limit")

/-- A number that is too large for what it is needed for. -/
def overflow : Fault := raised .overflow "int too large to convert to float"

/-- An access behind the end of a sequence. -/
def outOfRange : Fault := raised .outOfRange ""

/-- A mapping without the wanted key. -/
def noKey (key : String) : Fault := raised .noKey (Text.quoted key)

end Fault

/-- Why no value can be made of a text that is well formed. -/
inductive ValueFault where
  | wrongType
  | noMember
  | badValue
  | overflow
  | outOfRange
  | noKey (key : String)
  deriving DecidableEq, Repr

def ValueFault.toFault : ValueFault → Fault
  | wrongType => .wrongType
  | noMember => .noMember
  | badValue => .badValue
  | overflow => .overflow
  | outOfRange => .outOfRange
  | noKey key => .noKey key

end ClientGen
