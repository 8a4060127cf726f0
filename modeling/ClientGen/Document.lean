import ClientGen.Json.Parser
import ClientGen.Log
import ClientGen.Yaml.Document

/-!
Documents as they are read from text: in JSON or in YAML. A document is a mapping and states the
version of the format that it follows.
-/

namespace ClientGen

/-- The format that a text is said to have. -/
inductive Format where
  | json
  | yaml
  | unknown
  deriving DecidableEq, Inhabited, Repr

/-- A document in a store of its own. -/
structure Document where
  root : Node
  store : Store
  deriving Inhabited

namespace Document

/-- A tree as a document. -/
def ofValue (v : Value) : Document :=
  let (root, store) := ({} : Store).insert v
  ⟨root, store⟩

/-- The whole tree of a document. -/
def toValue (d : Document) : Value := d.store.read d.root

/-- The source under which documents are reported. -/
def source : String := "specgen.parser.loader"

/-- A document must be a mapping. -/
def requireMapping (d : Document) : Except Fault Document :=
  let layer := d.store.shape d.root
  if layer.isMap then .ok d
  else .error (.load (.notMapping (if layer.isNull then "empty document" else layer.kindName)))

/-- Reads YAML, where what was wrong with the text as JSON is reported too. -/
def ofYaml (json : Option JsonFault) (text : String) : Except Fault Document :=
  match Yaml.load text with
  | .ok (root, store) => requireMapping ⟨root, store⟩
  | .error (.malformed reason) => .error (.load (.unparsable json reason))
  | .error (.unusable fault) => .error fault.toFault

/-- Reads a document. Text of unknown format is taken for JSON first, and for YAML if it is not. -/
def ofText (text : String) (format : Format) : Except Fault Document :=
  if format = .yaml then ofYaml none text
  else match Json.parse text with
    | .ok v => requireMapping (ofValue v)
    | .error (.malformed fault) =>
      if format = .json then .error (.load (.invalidJson fault)) else ofYaml (some fault) text
    | .error (.tooManyDigits count) => .error (.raised .badValue (Json.digitLimitText count))

/-- The version that a document states, which must be one of the third generation. Versions after 3.1
are accepted with a warning. -/
def version (document : Value) : Logged String := do
  let entries ← lift document.shape.entries?
  match Entries.field? entries "swagger", Entries.field? entries "openapi" with
  | some old, _ => throw (.load (.swagger (← lift old.shown)))
  | none, none => throw (.load .noVersion)
  | none, some .null => throw (.load .noVersion)
  | none, some stated =>
    let version ← lift stated.shown
    if !Text.startsWith version "3." then throw (.load (.badVersion version))
    if !(Text.startsWith version "3.0." || Text.startsWith version "3.1.") then
      note ⟨.warning, source, "OpenAPI " ++ version ++ " is newer than 3.1; generating anyway"⟩
    return version

end Document

end ClientGen
