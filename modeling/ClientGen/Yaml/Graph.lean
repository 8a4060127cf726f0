import ClientGen.Yaml.Tag
import ClientGen.Yaml.Token

/-!
The nodes of a YAML document. An alias stands for the very node that has its anchor, so nodes have
identities and form a graph.
-/

namespace ClientGen.Yaml

/-- What a node consists of. Other nodes are given by their identity. -/
inductive Content where
  | scalar (text : List Char)
  | sequence (items : List Nat)
  | mapping (entries : List (Nat × Nat))
  deriving Inhabited, Repr

structure GraphNode where
  tag : Tag
  content : Content
  deriving Inhabited, Repr

/-- The nodes of a document by identity. -/
abbrev Graph := Array GraphNode

/-- The state of putting a document together. -/
structure Composer where
  stream : TokenStream
  /-- How many tokens have been taken. -/
  taken : Nat := 0
  handles : List (String × String)
  anchors : List (String × Nat) := []
  graph : Graph := #[]

namespace Composer

/-- Steps of putting a document together. -/
abbrev Compose := StateT Composer (Except Refusal)

private def refuse {α : Type} (reason : String) : Compose α := throw (.malformed reason)

/-- The next token. Where the text could not be read on, neither can the document. -/
def peek? : Compose (Option Token) := do
  let s ← get
  match s.stream.tokens, s.stream.failure with
  | t :: _, none => return some t
  | t :: _, some refusal => if s.stream.undecided.contains s.taken then throw refusal else return some t
  | [], some refusal => throw refusal
  | [], none => return none

def skip : Compose Unit := modify fun s =>
  { s with stream := { s.stream with tokens := s.stream.tokens.tail }, taken := s.taken + 1 }

/-- Takes the next token if it is the given one. -/
def take (t : Token) : Compose Bool := do
  if (← peek?) = some t then
    skip
    return true
  else return false

/-- Whether the next token is one of the given ones. -/
def comes (ts : List Token) : Compose Bool := do
  match ← peek? with
  | some t => return ts.contains t
  | none => return false

/-- Adds a node. -/
def add (tag : Tag) (content : Content) : Compose Nat := do
  let id := (← get).graph.size
  modify fun s => { s with graph := s.graph.push ⟨tag, content⟩ }
  return id

def setContent (id : Nat) (content : Content) : Compose Unit :=
  modify fun s => { s with graph := s.graph.modify id fun n => { n with content } }

/-- An empty plain scalar, which stands where a node is left out. -/
def addEmpty : Compose Nat := add .null (.scalar [])

/-- The properties in front of a node. -/
structure Properties where
  anchor : Option String := none
  tag : Option String := none

/-- The full tag of a written one. -/
def fullTag (t : WrittenTag) : Compose String := do
  match t.handle with
  | none => return t.rest
  | some handle =>
    match (← get).handles.find? (·.1 = handle) with
    | some (_, start) => return start ++ t.rest
    | none => refuse "found undefined tag handle"

/-- Takes an anchor if one comes. -/
def anchor? : Compose (Option String) := do
  match ← peek? with
  | some (.anchor name) =>
    skip
    return some name
  | _ => return none

/-- Takes a tag if one comes. -/
def tag? : Compose (Option WrittenTag) := do
  match ← peek? with
  | some (.tag t) =>
    skip
    return some t
  | _ => return none

/-- Takes an anchor and a tag, in either order. -/
def properties : Compose Properties := do
  let (anchor, tag) ← match ← anchor? with
    | some name => pure (some name, ← tag?)
    | none =>
      match ← tag? with
      | some t => pure (← anchor?, some t)
      | none => pure (none, none)
  match tag with
  | none => return { anchor }
  | some t => return { anchor, tag := some (← fullTag t) }

/-- The kind of a node with properties, if they settle it. A lone exclamation mark settles nothing. -/
def Properties.kind? (p : Properties) : Option Tag :=
  match p.tag with
  | none => none
  | some "!" => none
  | some t => some (Tag.ofText t)

/-- Gives a node an anchor, which no other node of the document may have. -/
def bind (anchor : Option String) (id : Nat) : Compose Nat := do
  match anchor with
  | none => return id
  | some name =>
    if (← get).anchors.any (·.1 = name) then refuse "found duplicate anchor"
    modify fun s => { s with anchors := (name, id) :: s.anchors }
    return id

/-- Adds a scalar with properties. -/
def addScalar (p : Properties) (text : List Char) (isPlain : Bool) : Compose Nat := do
  let looks := isPlain || p.tag = some "!"
  let tag := p.kind?.getD (if looks then Tag.ofLooks text else .text)
  bind p.anchor (← add tag (.scalar text))

mutual

/-- Puts a node together. Blocks are only admitted outside brackets, and a sequence that is not
indented only behind a key. -/
def node (inBlock indentless : Bool) : Nat → Compose Nat
  | 0 => refuse "too deep"
  | fuel + 1 => do
    match ← peek? with
    | some (.alias name) =>
      skip
      match (← get).anchors.find? (·.1 = name) with
      | some (_, id) => return id
      | none => refuse "found undefined alias"
    | _ =>
      let p ← properties
      match ← peek? with
      | some (.scalar text isPlain) =>
        skip
        addScalar p text.toList (isPlain && p.tag.isNone)
      | some .flowSequenceStart =>
        skip
        let id ← bind p.anchor (← add (p.kind?.getD .sequence) (.sequence []))
        let items ← flowItems fuel true
        setContent id (.sequence items)
        return id
      | some .flowMappingStart =>
        skip
        let id ← bind p.anchor (← add (p.kind?.getD .mapping) (.mapping []))
        let entries ← flowEntries fuel true
        setContent id (.mapping entries)
        return id
      | other =>
        if other = some .blockEntry ∧ indentless then
          let id ← bind p.anchor (← add (p.kind?.getD .sequence) (.sequence []))
          let items ← openItems fuel
          setContent id (.sequence items)
          return id
        else if other = some .blockSequenceStart ∧ inBlock then
          skip
          let id ← bind p.anchor (← add (p.kind?.getD .sequence) (.sequence []))
          let items ← blockItems fuel
          setContent id (.sequence items)
          return id
        else if other = some .blockMappingStart ∧ inBlock then
          skip
          let id ← bind p.anchor (← add (p.kind?.getD .mapping) (.mapping []))
          let entries ← blockEntries fuel
          setContent id (.mapping entries)
          return id
        else if p.anchor.isSome ∨ p.tag.isSome then addScalar p [] p.kind?.isNone
        else refuse "expected the node content"

/-- A node, or an empty one where one of the given tokens comes first. -/
def nodeUnless (stops : List Token) (inBlock indentless : Bool) : Nat → Compose Nat
  | 0 => refuse "too deep"
  | fuel + 1 => do
    if ← comes stops then addEmpty else node inBlock indentless fuel

/-- The items of a block sequence up to its end. -/
def blockItems : Nat → Compose (List Nat)
  | 0 => refuse "too deep"
  | fuel + 1 => do
    if ← take .blockEntry then
      let item ← nodeUnless [.blockEntry, .blockEnd] true false fuel
      return item :: (← blockItems fuel)
    else if ← take .blockEnd then return []
    else refuse "expected <block end>"

/-- The items of a sequence that is not indented. -/
def openItems : Nat → Compose (List Nat)
  | 0 => refuse "too deep"
  | fuel + 1 => do
    if ← take .blockEntry then
      let item ← nodeUnless [.blockEntry, .key, .value, .blockEnd] true false fuel
      return item :: (← openItems fuel)
    else return []

/-- The entries of a block mapping up to its end. -/
def blockEntries : Nat → Compose (List (Nat × Nat))
  | 0 => refuse "too deep"
  | fuel + 1 => do
    let stops := [Token.key, .value, .blockEnd]
    if ← take .key then
      let key ← nodeUnless stops true true fuel
      let value ← if ← take .value then nodeUnless stops true true fuel else addEmpty
      return (key, value) :: (← blockEntries fuel)
    else if ← take .blockEnd then return []
    else refuse "expected <block end>"

/-- The items of a flow sequence up to its end. A key in it makes a mapping of one entry. -/
def flowItems : Nat → Bool → Compose (List Nat)
  | 0, _ => refuse "too deep"
  | fuel + 1, first => do
    if ← take .flowSequenceEnd then return []
    if !first then
      if !(← take .flowEntry) then refuse "expected ',' or ']'"
    let ends := [Token.flowEntry, .flowSequenceEnd]
    if ← take .key then
      let id ← add .mapping (.mapping [])
      let key ← nodeUnless (.value :: ends) false false fuel
      let value ← if ← take .value then nodeUnless ends false false fuel else addEmpty
      setContent id (.mapping [(key, value)])
      return id :: (← flowItems fuel false)
    else if ← take .flowSequenceEnd then return []
    else
      let item ← node false false fuel
      return item :: (← flowItems fuel false)

/-- The entries of a flow mapping up to its end. -/
def flowEntries : Nat → Bool → Compose (List (Nat × Nat))
  | 0, _ => refuse "too deep"
  | fuel + 1, first => do
    if ← take .flowMappingEnd then return []
    if !first then
      if !(← take .flowEntry) then refuse "expected ',' or closing brace"
    let ends := [Token.flowEntry, .flowMappingEnd]
    if ← take .key then
      let key ← nodeUnless (.value :: ends) false false fuel
      let value ← if ← take .value then nodeUnless ends false false fuel else addEmpty
      return (key, value) :: (← flowEntries fuel false)
    else if ← take .flowMappingEnd then return []
    else
      let key ← node false false fuel
      let value ← addEmpty
      return (key, value) :: (← flowEntries fuel false)

end

/-- The handles that are known without a directive. -/
def commonHandles : List (String × String) := [("!", "!"), ("!!", Tag.commonSpace)]

/-- Takes the directives in front of a document. -/
def directives : Nat → Bool → List (String × String) → Compose (List (String × String))
  | 0, _, handles => return handles
  | fuel + 1, versioned, handles => do
    match ← peek? with
    | some (.directive d) =>
      skip
      match d with
      | .version major _ =>
        if versioned then refuse "found duplicate YAML directive"
        if major ≠ 1 then refuse "found incompatible YAML document (version 1.* is required)"
        directives fuel true handles
      | .handle name start =>
        if handles.any (·.1 = name) then refuse "duplicate tag handle"
        directives fuel versioned ((name, start) :: handles)
      | .other => directives fuel versioned handles
    | _ => return handles

/-- Skips the ends of documents. -/
def skipEnds : Nat → Compose Unit
  | 0 => return ()
  | fuel + 1 => do
    if ← take .documentEnd then skipEnds fuel

/-- The root of the only document of a text, if there is any. -/
def document (fuel : Nat) : Compose (Option Nat) := do
  let begun ← match ← peek? with
    | none => pure false
    | some (.directive _) => pure true
    | some .documentStart => pure true
    | some _ => pure false
  let root ←
    if begun then do
      let handles ← directives fuel false []
      if !(← take .documentStart) then refuse "expected <document start>"
      modify fun s => { s with handles := handles ++ commonHandles }
      match ← peek? with
      | some (.directive _) => some <$> addEmpty
      | none => some <$> addEmpty
      | _ => some <$> nodeUnless [.documentStart, .documentEnd] true false fuel
    else if (← peek?).isNone then pure none
    else some <$> node true false fuel
  skipEnds fuel
  if (← peek?).isSome then refuse "expected a single document in the stream"
  return root

end Composer

/-- The nodes of the only document of a text, with its root if there is any. -/
def Graph.ofText (text : String) : Except Refusal (Option Nat × Graph) := do
  let stream := TokenStream.ofText text
  let start : Composer := { stream, handles := Composer.commonHandles }
  let (root, composer) ← (Composer.document (4 * stream.tokens.length + 8)).run start
  return (root, composer.graph)

end ClientGen.Yaml
