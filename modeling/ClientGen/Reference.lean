import ClientGen.Number.Text
import ClientGen.Reading

/-!
References inside a document: `#/` and the keys and indices on the way from the root, separated by
`/`. In a key `~1` stands for `/` and `~0` for `~`. A mapping with the key `$ref` stands for what its
reference leads to.
-/

namespace ClientGen.Reference

/-- A segment with its escapes resolved. -/
def unescape : List Char → List Char
  | '~' :: '1' :: rest => '/' :: unescape rest
  | '~' :: '0' :: rest => '~' :: unescape rest
  | c :: rest => c :: unescape rest
  | [] => []

/-- The inverse of `unescape`. -/
def escape : List Char → List Char
  | [] => []
  | c :: rest =>
    if c = '~' then '~' :: '0' :: escape rest
    else if c = '/' then '~' :: '1' :: escape rest
    else c :: escape rest

/-- The item at an index; negative indices count from the end. -/
def itemAt? {α : Type} (items : List α) (index : Int) : Option α :=
  if 0 ≤ index then items[index.toNat]?
  else if -(items.length : Int) ≤ index then items[(items.length + index).toNat]?
  else none

/-- The segments of a reference inside the document. -/
def segments? (ref : String) : Option (List (List Char)) :=
  match ref.toList with
  | '#' :: '/' :: rest => some ((Text.fields (· = '/') rest).map unescape)
  | _ => none

/-- Where the component schemas of a document are. -/
def schemaPlace : String := "#/components/schemas/"

/-- The key of the component schema that a reference names, if it names one. -/
def componentName? (ref : String) : Option String :=
  (Text.dropLeading? schemaPlace.toList ref.toList).map fun rest => String.ofList (unescape rest)

section

variable {ν : Type} {m : Type → Type} [Monad m] [MonadExceptOf Fault m] [Reading ν m]

/-- One step of a reference: from a node by a segment. -/
def step (ref : String) (segment : List Char) (node : ν) : m ν := do
  let key := String.ofList segment
  match ← shape node with
  | .map entries =>
    match Entries.field? entries key with
    | some next => pure next
    | none => throw (.reference (.missing ref key))
  | .list items =>
    match Number.limitedWhole? segment >>= itemAt? items with
    | some next => pure next
    | none => throw (.reference (.badIndex ref key))
  | other => throw (.reference (.notNavigable ref other.kindName))

/-- The node at the end of a way. -/
def walk (ref : String) : List (List Char) → ν → m ν
  | [], node => pure node
  | segment :: rest, node => do walk ref rest (← step ref segment node)

/-- The node that a reference leads to. -/
def resolve (ref : String) (document : ν) : m ν :=
  match segments? ref with
  | some segments => walk ref segments document
  | none => throw (.reference (.external ref))

/-- The text of a reference; any other value in its place has no use as one. -/
def refText : Shape ν → Except Fault String
  | .atom (.text ref) => .ok ref
  | .atom (.bytes _) => .error .wrongType
  | .atom _ => .error .noMember
  | .tuple _ => .error .noMember
  | _ => .error .wrongType

/-- Follows references from a node to the first node that is none. The references already followed
are kept, and a repeated one is refused. -/
def chase (document : ν) : Nat → List String → ν → m ν
  | 0, _, _ => throw (.reference (.circular ""))
  | fuel + 1, seen, node => do
    match (← shape node).field? "$ref" with
    | none => pure node
    | some target =>
      let ref ← lift (refText (← shape target))
      if seen.contains ref then throw (.reference (.circular ref))
      chase document fuel (ref :: seen) (← resolve ref document)

/-- The node that a node stands for. A chain without repetition is no longer than the document is
large. -/
def deref (node document : ν) : m ν := do
  chase document ((← extent document) + (← extent node) + 1) [] node

/-- The value that an optional node stands for. -/
def derefOf (node : Option ν) (document : ν) : m (Option ν) :=
  match node with
  | some n => some <$> deref n document
  | none => pure none

end

end ClientGen.Reference
