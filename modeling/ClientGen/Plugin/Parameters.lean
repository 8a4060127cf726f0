import ClientGen.Flags
import ClientGen.Number.Text
import ClientGen.Settings.Records

/-!
The options of plugins on the command line: each becomes a flag whose value is converted to the kind
of the option.
-/

namespace ClientGen

/-- An option as part of a command line. -/
structure Parameter where
  flag : Flag
  kind : OptionKind
  default : Value
  help : String

namespace Parameter

/-- The spelling of a switch and that of its negative, which a slash separates. -/
def cutNegative (spelling : String) : String × Option String :=
  let cs := spelling.toList
  match cs.dropWhile (· ≠ '/') with
  | [] => (spelling, none)
  | _ :: negative =>
    (Text.stripEnd (String.ofList (cs.takeWhile (· ≠ '/'))),
      some (String.ofList (negative.dropWhile Text.isBlank)))

/-- A destination must be a name. -/
def isName (name : String) : Bool :=
  match name.toList with
  | [] => false
  | c :: rest => Text.isIdentifierStart c && rest.all Text.isIdentifierContinue

/-- How far a line is indented; blank lines do not count. -/
def indentOf (line : List Char) : Option Nat :=
  let rest := line.dropWhile Text.isBlank
  if rest.isEmpty then none else some (line.length - rest.length)

/-- A help text without the indentation that its lines have in common, and without empty lines around
it. -/
def cleanHelp (help : String) : String :=
  match Text.fields (· = '\n') (Text.expandTabs 0 help.toList) with
  | [] => ""
  | first :: others =>
    let margin := (others.filterMap indentOf).min?.getD 0
    let lines := first.dropWhile Text.isBlank :: others.map fun line => line.drop margin
    let kept := ((lines.dropWhile (·.isEmpty)).reverse.dropWhile (·.isEmpty)).reverse
    Text.join "\n" (kept.map String.ofList)

/-- The parameter of an option. A spelling with a negative makes sense for a switch only. -/
def ofSpec (o : OptionSpec) : Except Fault Parameter := do
  let cut := o.flags.map cutNegative
  if cut.any fun (spelling, negative) => negative = some spelling then throw Fault.badValue
  if !isName o.destination then throw Fault.wrongType
  let spellings := (cut.map (·.1)).filter fun s => !s.isEmpty
  let negatives := (cut.filterMap (·.2)).filter fun s => !s.isEmpty
  let isSwitch := o.kind = .boolean
  if !isSwitch && !negatives.isEmpty then throw Fault.wrongType
  return ⟨⟨o.destination, spellings, negatives, !isSwitch⟩, o.kind, o.default, cleanHelp o.help⟩

/-- The word for the kind of value that a parameter takes. -/
def kindLabel (p : Parameter) : String :=
  match p.kind with
  | .string => "text"
  | .boolean => "boolean"
  | .integer => "integer"
  | .number => "float"

/-- The complaint about a value that is no number. -/
def notNumber (p : Parameter) (written : String) : Fault :=
  .usage (.notNumber p.flag.spellings written p.kindLabel)

/-- The value that a text stands for. -/
def ofText (p : Parameter) (text : String) : Except Fault Value :=
  match p.kind with
  | .string => .ok (.text text)
  | .boolean => .ok (.text text)
  | .integer =>
    match Number.limitedWhole? text.toList with
    | some n => .ok (.int n)
    | none => .error (p.notNumber (Text.quoted text))
  | .number =>
    match Number.real? text.toList with
    | some x => .ok (.float x)
    | none => .error (p.notNumber (Text.quoted text))

/-- The value that an occurrence gives. -/
def ofGiven (p : Parameter) : Given → Except Fault Value
  | .value text => p.ofText text
  | .switch on => .ok (.bool on)

/-- The text that bytes are read as where a number is wanted: those beyond ASCII and the separators among
its control characters stand for none. -/
def numeral? (bytes : List UInt8) : Option String :=
  if bytes.all fun b => b < 0x1c || (0x20 ≤ b && b < 0x80) then
    some (String.ofList (bytes.map fun b => Char.ofNat b.toNat))
  else none

/-- Checks that a declared default can be converted to the kind of the parameter. -/
def checkDefault (p : Parameter) : Except Fault Unit :=
  match p.kind, p.default with
  | .string, v => if v.isWritable then .ok () else throw Fault.badValue
  | .boolean, _ => .ok ()
  | _, .null => .ok ()
  | _, .bool _ => .ok ()
  | _, .text s => do
    let _ ← p.ofText s
  | _, .atom (.bytes bytes) =>
    match (numeral? bytes).map p.ofText with
    | some (.ok _) => .ok ()
    | _ => .error (p.notNumber (Atom.bytes bytes).written)
  | .integer, .int _ => .ok ()
  | .integer, .float (.infinite _) => .error Fault.overflow
  | .integer, .float (.nan mark) => .error (p.notNumber (Atom.float (.nan mark)).written)
  | .integer, .float (.finite _ _ _) => .ok ()
  | .number, .int n =>
    match Binary64.ofInt n with
    | .infinite _ => .error Fault.overflow
    | _ => .ok ()
  | .number, .float _ => .ok ()
  | _, _ => .error Fault.wrongType

/-- The values that a command line gives, in the order of the first occurrences. -/
def readGiven (parameters : List Parameter) (line : CommandLine) :
    List String → Except Fault (List (String × Value))
  | [] => .ok []
  | destination :: rest => do
    match parameters.find? fun p => p.flag.destination = destination, line.last? destination with
    | some p, some given =>
      let v ← p.ofGiven given
      return (destination, v) :: (← readGiven parameters line rest)
    | _, _ => readGiven parameters line rest

/-- Reads a command line that consists of parameters only. What is given is converted first, then the
defaults of the other parameters are checked, and at last nothing may be left over. -/
def read (parameters : List Parameter) (args : List String) :
    Except Fault (List (String × Value)) := do
  let grammar : Grammar := { flags := parameters.map (·.flag) }
  if !grammar.isUsable then throw Fault.badValue
  let line ← match grammar.read args with
    | .ok line => pure line
    | .error fault => throw (.usage fault)
  let given := line.destinations
  let values ← readGiven parameters line given
  for p in parameters do
    if !given.contains p.flag.destination then p.checkDefault
  if !line.arguments.isEmpty then throw (.usage (.extraArguments line.arguments))
  return values

end Parameter

end ClientGen
