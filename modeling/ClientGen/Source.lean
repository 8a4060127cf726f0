import ClientGen.Disk.Basic
import ClientGen.Document

/-!
Where documents come from: an address, a file, or the input.
-/

namespace ClientGen

/-- What comes back from an address. -/
inductive Reply where
  | response (status : Int) (contentType : Option String) (text : String)
  | unreachable (reason : String)
  deriving Inhabited, Repr

/-- What a document can be read from. -/
structure Surroundings where
  disk : Disk := {}
  input : String := ""
  fetch : String → Reply := fun _ => .unreachable ""

namespace Source

/-- Whether a text says nothing. -/
def isBlankText (text : String) : Bool := text.toList.all Text.isBlank

/-- The text of the input. -/
def readInput (input : String) : Except Fault (String × Format) :=
  if isBlankText input then .error (.load .noInput) else .ok (input, .unknown)

/-- The format that a content type names. -/
def formatOfType (contentType : String) : Format :=
  if Text.contains contentType "json" then .json
  else if Text.contains contentType "yaml" || Text.contains contentType "yml" then .yaml
  else .unknown

/-- Statuses of success. -/
def isSuccess (status : Int) : Bool := 200 ≤ status && status < 300

/-- The text that comes back from an address. -/
def readReply (url : String) : Reply → Except Fault (String × Format)
  | .unreachable reason => .error (.load (.unreachable url reason))
  | .response status contentType text =>
    if isSuccess status then .ok (text, formatOfType (contentType.getD ""))
    else .error (.load (.status status url))

/-- The format that the ending of a file name stands for. -/
def formatOfSuffix (suffix : String) : Format :=
  let lowered := String.ofList (suffix.toList.flatMap Text.lower)
  if lowered = ".json" then .json
  else if lowered = ".yaml" ∨ lowered = ".yml" then .yaml
  else .unknown

/-- The text of a file, which must be in UTF-8. -/
def decodeFile (bytes : List UInt8) : Except Fault String :=
  match Text.decode bytes with
  | .ok chars => .ok (String.ofList (Text.unifyLineBreaks chars))
  | .error fault => .error (.raised .badEncoding fault.message)

/-- The text of a file. -/
def readFile (disk : Disk) (name : String) : Except Fault (String × Format) := do
  let path := disk.parsePath name
  let place ← match disk.locate path with
    | .ok place => pure place
    | .error .nameTooLong => throw (DiskFault.toFault ⟨.nameTooLong, disk.pathText path, none⟩)
    | .error _ => throw (.load (.notFound name))
  match disk.at? place with
  | some (.file bytes) =>
    let text ← decodeFile bytes
    if isBlankText text then throw (.load (.empty name))
    return (text, formatOfSuffix path.suffix)
  | _ => throw (.load (.notFound name))

/-- Whether a source is an address. -/
def isAddress (source : String) : Bool :=
  Text.startsWith source "http://" || Text.startsWith source "https://"

/-- The text of a source, and its format as far as it is known. -/
def read (around : Surroundings) (source : String) : Except Fault (String × Format) :=
  if source = "-" then readInput around.input
  else if isAddress source then readReply source (around.fetch source)
  else readFile around.disk source

/-- Loads the document of a source. -/
def load (around : Surroundings) (source : String) : Logged Document := do
  let (text, format) ← lift (read around source)
  note ⟨.debug, Document.source, "Loaded " ++ toString text.length ++ " characters from " ++ source⟩
  lift (Document.ofText text format)

end Source

end ClientGen
