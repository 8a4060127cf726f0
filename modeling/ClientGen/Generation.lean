import ClientGen.Head
import ClientGen.Operation
import ClientGen.Plugin.Runner

/-!
A run of generation: from a document to a module. The module has the head, one statement for each
component schema in document order, and one function for each selected operation, by paths in document
order and methods in a fixed order. The run is written once for trees and for live documents; only
the latter call plugins.
-/

namespace ClientGen.Generation

/-- What a finished run has produced. -/
structure Outcome where
  file : String
  contents : String
  functions : List String
  types : List String
  deriving Inhabited, Repr

/-- How a run calls plugins and converts schemas. -/
structure Services (ν : Type) (m : Type → Type) where
  announce : Occasion ν → m Unit
  typeOf : Option String → ν → m Expr

/-- The methods of operations, in the order in which operations are visited. -/
def methods : List String := ["get", "put", "post", "delete", "options", "head", "patch", "trace"]

/-- What stands for a file name when the module goes to the output. -/
def outputName : String := "<stdout>"

/-- Whether two sets of values have a member in common. -/
def intersect (xs ys : List Value) : Bool := xs.any fun x => ys.any x.same

/-- The lines in front of a module, which name the document. They are comments as long as title and
version have no line breaks. -/
def banner (title version : String) : String :=
  Text.stripEnd ("# Generated by specgen from " ++ title ++ " " ++ version)

/-- The text of a file with a module. -/
def fileText (title version source : String) : String :=
  banner title version ++ "\n# Do not edit by hand.\n\n" ++ source ++ "\n"

section

variable {ν : Type} {m : Type → Type} [Monad m] [MonadExceptOf Fault m] [Reading ν m] [Logging m]
  [MonadLiftT Run m]

private def report (text : String) : m Unit :=
  note (LogRecord.mk .debug "specgen.generator.pipeline" text)

/-- A setting as it is at the moment. -/
def setting (name : String) : m Value := (Run.setting name : Run Value)

/-- Appends a statement to the module. -/
def place (s : Statement) : m Nat := (Run.addStatement s : Run Nat)

/-- The statement with an identity as it is at the moment. -/
def statementAt (id : Nat) : m Statement := (do return (← get).draft.get id : Run Statement)

/-- The entries of the component schemas. -/
def componentSchemas (document : ν) : m (List (Atom × ν)) := do
  match ← ifTrue (← fieldOf document "components") with
  | none => pure []
  | some components =>
    match ← ifTrue (← fieldOf components "schemas") with
    | none => pure []
    | some schemas => lift (← shape schemas).items?

/-- Adds a statement for each component schema; yields the names. -/
def addTypes (services : Services ν m) : List (Atom × ν) → m (List String)
  | [] => pure []
  | (key, schema) :: rest => do
    let name ← lift (Value.atom key).shown
    let identifier := Naming.typeName name
    let type ← services.typeOf (some name) schema
    let _ ← place (.assign identifier type)
    report ("Converted schema '" ++ name ++ "' to " ++ identifier)
    return identifier :: (← addTypes services rest)

/-- Whether the settings select an operation: by its tags, and by whether it is deprecated. -/
def selected (operation : ν) : m Bool := do
  let tags ← lift (Value.toSetOrEmpty? (← wholeOf (← fieldOf operation "tags")))
  let wanted : Value ← setting "include_tags"
  let unwanted ←
    if wanted.truthy then pure !(intersect tags (← lift wanted.toSet?)) else pure false
  if unwanted then return false
  let excluded ← lift (← setting "exclude_tags").toSet?
  if intersect tags excluded then return false
  if ← isTrue (← fieldOf operation "deprecated") then
    return (← setting "include_deprecated").truthy
  return true

/-- The functions made so far: the names that are taken, and the names as plugins left them. -/
structure Made where
  taken : List String := []
  names : List String := []

/-- Announces an operation and makes its function. -/
def functionOf (services : Services ν m) (document : ν) (method path : String) (operation : ν)
    (item : Option ν) (taken : Option (List String)) : m Function := do
  services.announce (.beforeOperation operation)
  let typeOf (schema : Option ν) : m Expr :=
    match schema with
    | some schema => services.typeOf none schema
    | none => pure .anything
  Operation.convert typeOf document method path operation item taken

/-- Makes the function of one operation and puts it into the module. -/
def addFunction (services : Services ν m) (document : ν) (method path : String) (operation item : ν)
    (made : Made) : m Made := do
  let function ← functionOf services document method path operation (some item) (some made.taken)
  let id ← place (.define function)
  services.announce (.afterOperation operation id)
  let name := ((← statementAt (m := m) id).functionName?).getD function.name
  report ("Converted " ++ String.ofList (method.toList.flatMap Text.upper) ++ " " ++ path ++ " to " ++
    name ++ "()")
  return ⟨made.taken ++ [function.name], made.names ++ [name]⟩

/-- Visits the operations of a path item by method. -/
def visitMethods (services : Services ν m) (document : ν) (path : Atom) (item : ν) :
    List String → Made → m Made
  | [], made => pure made
  | method :: rest, made => do
    match ← Operation.mapping? (← fieldOf item method) with
    | none => visitMethods services document path item rest made
    | some operation =>
      if ← selected operation then
        let shownPath ← lift (Value.atom path).shown
        let made ← addFunction services document method shownPath operation item made
        visitMethods services document path item rest made
      else visitMethods services document path item rest made

/-- Visits the operations of paths. -/
def visitPaths (services : Services ν m) (document : ν) : List (Atom × ν) → Made → m Made
  | [], made => pure made
  | (path, raw) :: rest, made => do
    match ← Operation.mapping? (some (← Reference.deref raw document)) with
    | none => visitPaths services document rest made
    | some item =>
      let made ← visitMethods services document path item methods made
      visitPaths services document rest made

/-- The entries of the paths of a document. -/
def pathItems (document : ν) : m (List (Atom × ν)) := do
  match ← ifTrue (← fieldOf document "paths") with
  | none => pure []
  | some paths => lift (← shape paths).items?

/-- A text of the description of a document. -/
def infoText (info : Option ν) (name default : String) : m String := do
  match info with
  | none => pure default
  | some info =>
    match ← fieldOf info name with
    | some node => lift (← whole node).shown
    | none => pure default

/-- The text of the module as it stands. -/
def render (document : ν) : m String := do
  let statements ← (do return (← get).draft.toList : Run (List Statement))
  let source ← match Statement.renderModule statements with
    | .ok source => pure source
    | .error fault => throw (.output (.unrenderable fault.message))
  let info ← ifTrue (← fieldOf document "info")
  return fileText (← infoText info "title" "API") (← infoText info "version" "") source

/-- Writes a file on the disk as a whole. A text that can be no path is a failure of its own. -/
def save (file contents : String) (failures : Disk.WriteFailures := Disk.noFailures) : Run Unit := do
  let disk := (← get).disk
  match Disk.atomicWrite failures (disk.parsePath file) contents disk with
  | (none, disk) => modify fun w => { w with disk }
  | (some fault, disk) =>
    modify fun w => { w with disk }
    throw (if fault.problem = .notPath then fault.toFault else .output (.unwritable file fault.message))

/-- Writes the module to where the settings say. Only text can name a file. -/
def write (file : Value) (contents : String) (failures : Disk.WriteFailures := Disk.noFailures) : Run Unit :=
  match file with
  | .text name =>
    if name = outputName then Run.print contents
    else do
      save name contents failures
      note (LogRecord.mk .info "specgen.generator.pipeline" ("Wrote " ++ name))
  | _ => throw .wrongType

/-- The output setting, or what stands for the output. -/
def fileOf (output : Value) : Value := if output.truthy then output else .text outputName

/-- A run of generation. Steps of writing the module may fail for reasons outside the program. -/
def run (services : Services ν m) (document : ν) (failures : Disk.WriteFailures := Disk.noFailures) :
    m Outcome := do
  services.announce .started
  let head ← Head.build document (← setting "base_url")
  let base ← (do return (← get).draft.statements.size : Run Nat)
  let _ ← (modify fun w => { w with draft := w.draft.appendAll head } : Run Unit)
  services.announce (.defaults (base + Head.defaultsPlace))
  services.announce (.servers (base + Head.serversPlace))
  let types ← addTypes services (← componentSchemas document)
  let made ← visitPaths services document (← pathItems document) {}
  services.announce .moduleBuilt
  let contents ← render document
  let file := fileOf (← setting "output")
  services.announce (.beforeWrite file contents)
  let _ ← (write file contents failures : Run Unit)
  services.announce (.afterWrite file contents)
  return ⟨file.displayed, contents, made.names, types⟩

end

/-- A run where no plugin takes part. -/
def plain (document : Value) : Run Outcome :=
  run ⟨fun _ => pure (), fun name schema => lift (SchemaType.ofSchema document name schema)⟩ document

/-- How a run calls plugins. -/
def liveServices : Services Node Live := ⟨Live.announce, SchemaType.ofLiveSchema⟩

/-- A run where the genuine plugins of a list take part. -/
def withPlugins (registry : Registry) (members : List Nat) (document : Node)
    (failures : Disk.WriteFailures := Disk.noFailures) : Run Outcome :=
  (run liveServices document failures : Live Outcome) ⟨registry, members, document⟩

end ClientGen.Generation
