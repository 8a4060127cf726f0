import ClientGen.Log
import ClientGen.SchemaType

/-!
Operations as functions. The parameters in the path are positional arguments, those in the query and
in headers are passed by name, and so is the request body. The function returns one call of the
request helper, which gets every argument under the name that the document gives it.
-/

namespace ClientGen.Operation

/-- Where a parameter is sent. -/
inductive Location where
  | path
  | query
  | header
  deriving DecidableEq, Repr

/-- The name of a location in documents. -/
def Location.label : Location → String
  | path => "path"
  | query => "query"
  | header => "header"

/-- The argument of the request helper that takes the parameters of a location. -/
def Location.group : Location → String
  | path => "path_params"
  | query => "query"
  | header => "headers"

/-- The locations of parameters that are sent, in the order of the helper's arguments. -/
def locations : List Location := [.path, .query, .header]

/-- A parameter with the name that the document gives it and the argument that carries it. -/
structure Sent where
  location : Location
  sentAs : String
  argument : String
  deriving Repr

/-- What has been gathered for a function so far. -/
structure Signature where
  positional : List Argument := []
  named : List NamedArgument := []
  sent : List Sent := []
  taken : List String := []
  deriving Repr

/-- A name that is not taken: the wanted one with the smallest number from `k` on. -/
def numberedName (taken : List String) (base : String) : Nat → Nat → String
  | 0, k => base ++ "_" ++ toString k
  | fuel + 1, k =>
    let candidate := base ++ "_" ++ toString k
    if taken.contains candidate then numberedName taken base fuel (k + 1) else candidate

/-- The name of a function in a module where some names are taken. -/
def freshName (taken : List String) (base : String) : String :=
  if taken.contains base then numberedName taken base taken.length 2 else base

/-- A name with as many low lines behind it as it takes to be free. -/
def spacedName (taken : List String) : Nat → String → String
  | 0, name => name
  | fuel + 1, name =>
    if taken.contains name then spacedName taken fuel (name ++ "_") else name

/-- The name of an argument: the wanted one, with the suffix where it is taken. -/
def argumentName (taken : List String) (name suffix : String) : String :=
  let first := if taken.contains name then name ++ "_" ++ suffix else name
  spacedName taken (taken.length + 1) first

/-- The arguments of the helper by which a request body can be sent, with the texts that a media
type shows which asks for them. -/
def bodyArguments : List (String × String) :=
  [("application/json", "json"), ("+json", "json"), ("application/x-www-form-urlencoded", "data"),
   ("multipart/form-data", "files")]

/-- The argument of the helper that sends a body of a media type. -/
def bodyArgument (mediaType : String) : String :=
  ((bodyArguments.find? fun entry => Text.contains mediaType entry.1).map (·.2)).getD "content"

/-- The type of an argument that may be left out admits null. -/
def namedArgument (name : String) (type : Expr) (required : Bool) : NamedArgument :=
  ⟨name, if required then type else .optional type, required⟩

/-- The parts of a description that are not left out, as paragraphs. -/
def paragraphs (parts : List String) : Option String :=
  let text := Text.join "\n\n" parts
  if text.isEmpty then none else some text

/-- A signature with one more parameter that is sent. Parameters in the path are positional. -/
def Signature.push (signature : Signature) (location : Location) (sentAs argument : String)
    (type : Expr) (required : Bool) : Signature :=
  let sent : Sent := ⟨location, sentAs, argument⟩
  let positional : Argument := ⟨argument, type⟩
  { positional := signature.positional ++ (if location = .path then [positional] else [])
    named := signature.named ++
      (if location = .path then [] else [namedArgument argument type required])
    sent := signature.sent ++ [sent]
    taken := signature.taken ++ [argument] }

/-- A signature with the argument for the request body. -/
def Signature.pushBody (signature : Signature) (argument : String) (type : Expr)
    (required : Bool) : Signature :=
  { signature with
    named := signature.named ++ [namedArgument argument type required]
    taken := signature.taken ++ [argument] }

/-- The call that a function returns. -/
def requestCall (method path : String) (signature : Signature) (body : Option (String × String)) :
    Expr :=
  let group (location : Location) : List (String × Expr) :=
    let entries := signature.sent.filter (·.location = location)
    if entries.isEmpty then []
    else [(location.group, .dict (entries.map fun s => (.text s.sentAs, .name s.argument)))]
  let sentBody := (body.map fun (keyword, argument) => (keyword, Expr.name argument)).toList
  .call "_request" [.text (String.ofList (method.toList.flatMap Text.upper)), .text path]
    (locations.flatMap group ++ sentBody)

section

variable {ν : Type} {m : Type → Type} [Monad m] [MonadExceptOf Fault m] [Reading ν m] [Logging m]

/-- The function name that an operation asks for. Only text can be an identifier. -/
def wantedName (method path : String) (operation : ν) : m String := do
  match ← ifTrue (← fieldOf operation "operationId") with
  | none => lift (Naming.functionName none method path)
  | some id =>
    match ← shape id with
    | .atom (.text s) => lift (Naming.functionName (some s) method path)
    | _ => throw .wrongType

/-- A parameter under the pair that identifies it. -/
structure Merged (ν : Type) where
  name : String
  location : String
  node : ν

/-- Adds parameters to those already merged: a pair that is present gets the new node in its old
place. What is no mapping, or has no name, is left out. -/
def mergeInto (document : ν) : List ν → List (Merged ν) → m (List (Merged ν))
  | [], merged => pure merged
  | raw :: rest, merged => do
    let node ← Reference.deref raw document
    match ← shape node with
    | .map entries =>
      match Entries.field? entries "name" with
      | none => mergeInto document rest merged
      | some name =>
        let name ← lift (← whole name).shown
        let location ← shownOf (Entries.field? entries "in")
        let isSame (p : Merged ν) : Bool := p.name = name && p.location = location
        if merged.any isSame then
          mergeInto document rest (merged.map fun p => if isSame p then { p with node } else p)
        else mergeInto document rest (merged ++ [⟨name, location, node⟩])
    | _ => mergeInto document rest merged

/-- The parameters listed by an operation or a path item. -/
def listedParameters (node : ν) : m (List ν) := do
  match ← ifTrue (← fieldOf node "parameters") with
  | none => pure []
  | some list => lift (← shape list).parts?

/-- The parameters of an operation: those of the path item, then its own, which win. -/
def parameters (document operation : ν) (pathItem : Option ν) : m (List ν) := do
  let shared ← match ← ifTrue pathItem with
    | none => pure []
    | some item => listedParameters item
  let merged ← mergeInto document shared []
  let own ← listedParameters operation
  return (← mergeInto document own merged).map (·.node)

/-- The name of a parameter, which is looked up anew. -/
def parameterName (parameter : ν) : m String := do
  match ← fieldOf parameter "name" with
  | some name => lift (← whole name).shown
  | none => throw (Fault.noKey "name")

/-- Where a parameter is sent, if it is sent at all. -/
def locationOf (parameter : ν) : m (Option Location) := do
  match ← fieldOf parameter "in" with
  | none => pure none
  | some node =>
    match ← shape node with
    | .atom (.text s) => pure (locations.find? fun location => location.label = s)
    | .atom _ => pure none
    | .tuple _ => pure none
    | _ => throw .wrongType

/-- Adds one parameter to a signature. -/
def addParameter (typeOf : Option ν → m Expr) (signature : Signature) (parameter : ν) :
    m Signature := do
  match ← locationOf parameter with
  | none =>
    let location ← shownOf (← fieldOf parameter "in")
    let name ← shownOf (← fieldOf parameter "name")
    note ⟨.debug, "specgen.generator.endpoints",
      "Skipping " ++ location ++ " parameter '" ++ name ++ "'"⟩
    pure signature
  | some location =>
    let wanted ← lift (Naming.snakeCase (← parameterName parameter) "param")
    let argument := argumentName signature.taken wanted location.label
    let type ← typeOf (← fieldOf parameter "schema")
    let required ← isTrue (← fieldOf parameter "required")
    let sentAs ← parameterName parameter
    pure (signature.push location sentAs argument type required)

/-- Adds parameters to a signature one by one. -/
def addParameters (typeOf : Option ν → m Expr) : Signature → List ν → m Signature
  | signature, [] => pure signature
  | signature, parameter :: rest => do
    addParameters typeOf (← addParameter typeOf signature parameter) rest

/-- Whether a media type names JSON; only text can be a media type. -/
def namesJson : Atom → Except Fault Bool
  | .text s => .ok (Text.contains s "json")
  | _ => .error .wrongType

/-- The first media type that names JSON, or else the first of all. -/
def pickFrom {α : Type} (first : Atom × α) : List (Atom × α) → Except Fault (Atom × α)
  | [] => .ok first
  | entry :: rest => do
    if ← namesJson entry.1 then .ok entry else pickFrom first rest

/-- The media type that is used of some content, with what is said about it. -/
def pickMedia (content : ν) : m (String × ν) := do
  match ← lift (← shape content).entries? with
  | [] => throw .wrongType
  | first :: rest =>
    let (key, media) ← lift (pickFrom first (first :: rest))
    pure (key.displayed, media)

/-- The schema of a media type; an empty description has none. -/
def mediaSchema (media : ν) : m (Option ν) := do
  match ← ifTrue (some media) with
  | none => pure none
  | some media => fieldOf media "schema"

/-- A node if it is a mapping. -/
def mapping? (node : Option ν) : m (Option ν) := do
  match node with
  | none => pure none
  | some n => if (← shape n).isMap then pure (some n) else pure none

/-- Adds the request body to a signature; yields by which arguments it is sent and passed. -/
def addBody (typeOf : Option ν → m Expr) (document operation : ν) (signature : Signature) :
    m (Signature × Option (String × String)) := do
  let body ← Reference.derefOf (← fieldOf operation "requestBody") document
  match ← mapping? body with
  | none => pure (signature, none)
  | some body =>
    match ← ifTrue (← fieldOf body "content") with
    | none => pure (signature, none)
    | some content =>
      let (mediaType, media) ← pickMedia content
      let argument := argumentName signature.taken "body" "request"
      let type ← typeOf (← mediaSchema media)
      let required ← isTrue (← fieldOf body "required")
      pure (signature.pushBody argument type required, some (bodyArgument mediaType, argument))

/-- The key that a status stands for when it is looked up as a number. -/
def numericKey (status : String) : Except Fault Atom :=
  let cs := status.toList
  if !cs.isEmpty && cs.all Text.isDigit then
    match Number.limitedWhole? cs with
    | some n => .ok (.int n)
    | none => .error .badValue
  else .ok (.text status)

/-- The response to a status, under its text or else under its number. -/
def responseAt (responses : ν) (status : String) : m (Option ν) := do
  let entries ← lift (← shape responses).entries?
  let numeric ← lift (numericKey status)
  return (Entries.field? entries status).or (Entries.get? entries numeric)

/-- The return type by the first response that settles it. -/
def returnTypeFrom (typeOf : Option ν → m Expr) (document responses : ν) :
    List String → m Expr
  | [] => pure .anything
  | status :: rest => do
    let response ← Reference.derefOf (← responseAt responses status) document
    match ← mapping? response with
    | none => returnTypeFrom typeOf document responses rest
    | some response =>
      match ← ifTrue (← fieldOf response "content") with
      | none => pure (.constant .null)
      | some content =>
        let (_, media) ← pickMedia content
        typeOf (← mediaSchema media)

/-- The statuses of success that are listed, in the order of their texts. -/
def successStatuses (responses : ν) : m (List String) := do
  let codes ← lift (← whole responses).members?
  let texts ← lift (codes.mapM Value.shown)
  return (texts.mergeSort fun a b => a ≤ b).filter fun status => status.toList.head? = some '2'

/-- The return type of an operation. -/
def returnType (typeOf : Option ν → m Expr) (document operation : ν) : m Expr := do
  match ← ifTrue (← fieldOf operation "responses") with
  | none => pure .anything
  | some responses =>
    returnTypeFrom typeOf document responses (← successStatuses responses)

/-- The text under a key, trimmed, if it says something. -/
def trimmedText (operation : ν) (key : String) : m (List String) := do
  match ← ifTrue (← fieldOf operation key) with
  | none => pure []
  | some node => return [Text.strip (← lift (← whole node).shown)]

/-- The description of an operation. -/
def description (operation : ν) : m (Option String) := do
  let summary ← trimmedText operation "summary"
  let long ← trimmedText operation "description"
  let deprecated ← isTrue (← fieldOf operation "deprecated")
  return paragraphs (summary ++ long ++ if deprecated then ["Deprecated."] else [])

/-- The function of an operation that has been announced. `taken` are the names of the functions
made before, if they matter. -/
def convert (typeOf : Option ν → m Expr) (document : ν) (method path : String) (operation : ν)
    (pathItem : Option ν) (taken : Option (List String)) : m Function := do
  let base ← wantedName method path operation
  let name := taken.elim base fun names => freshName names base
  let signature ← addParameters typeOf {} (← parameters document operation pathItem)
  let (signature, body) ← addBody typeOf document operation signature
  let returns ← returnType typeOf document operation
  let description ← description operation
  return {
    name
    positional := signature.positional
    named := signature.named
    returns := some returns
    description
    call := requestCall method path signature body }

end

/-- The type of a schema that may be missing, where no plugin takes part. -/
def typeOf (document : Value) : Option Value → Except Fault Expr
  | some schema => SchemaType.ofSchema document none schema
  | none => .ok .anything

/-- The function of an operation where no plugin takes part. -/
def toFunction (document : Value) (method path : String) (operation : Value)
    (pathItem : Option Value) (taken : Option (List String)) : Logged Function :=
  convert (fun schema => lift (typeOf document schema)) document method path operation pathItem taken

end ClientGen.Operation
