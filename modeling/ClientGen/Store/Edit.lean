import ClientGen.Fault
import ClientGen.Reference
import ClientGen.Store.Basic

/-!
Edits of live documents: access to the parts of a container by key or index, along a path, with the
complaints that arise where a part is missing or a value has no parts.
-/

namespace ClientGen.Store

private def complaint (kind : FaultKind) (text : String) : Fault := .raised kind text

/-- The index that an atom stands for in a sequence. -/
def index? : Atom → Option Int
  | .int n => some n
  | .bool b => some (if b then 1 else 0)
  | _ => none

/-- The position that an index stands for in a sequence; negative ones count from the end. -/
def position? (length : Nat) (index : Int) : Option Nat :=
  if 0 ≤ index then if index.toNat < length then some index.toNat else none
  else if -(length : Int) ≤ index then some (length + index).toNat
  else none

private def notByKey (kind key : String) : Fault :=
  complaint .wrongType (kind ++ " indices must be integers or slices, not " ++ key)

/-- The part of a node under a key. -/
def part (store : Store) (node : Node) (key : Atom) : Except Fault Node :=
  match store.shape node with
  | .map entries =>
    match Entries.get? entries key with
    | some next => .ok next
    | none => .error (complaint .noKey key.written)
  | .list items => sequence "list" items
  | .tuple items => sequence "tuple" items
  | .atom (.text s) =>
    match index? key with
    | some index =>
      match Reference.itemAt? s.toList index with
      | some c => .ok (.atom (.text c.toString))
      | none => .error (complaint .outOfRange "string index out of range")
    | none =>
      .error (complaint .wrongType ("string indices must be integers, not '" ++ key.kindName ++ "'"))
  | other => .error (complaint .wrongType ("'" ++ other.kindName ++ "' object is not subscriptable"))
where
  /-- The item of a sequence. -/
  sequence (kind : String) (items : List Node) : Except Fault Node :=
    match index? key with
    | some index =>
      match Reference.itemAt? items index with
      | some item => .ok item
      | none => .error (complaint .outOfRange (kind ++ " index out of range"))
    | none => .error (notByKey kind key.kindName)

/-- The node at the end of a path. -/
def follow (store : Store) : Node → List Atom → Except Fault Node
  | node, [] => .ok node
  | node, key :: rest => do store.follow (← store.part node key) rest

/-- The cell of a node with its container. -/
def container? (store : Store) : Node → Option (Nat × Shape Node)
  | .cell id => some (id, store.shape (.cell id))
  | .atom _ => none

/-- Sets the part of a node under a key. -/
def assign (store : Store) (node : Node) (key : Atom) (value : Node) : Except Fault Store :=
  match store.container? node with
  | some (id, .map entries) => .ok (store.update id (.map (Entries.put entries key value)))
  | some (id, .list items) =>
    match index? key with
    | none => .error (notByKey "list" key.kindName)
    | some index =>
      match position? items.length index with
      | some place => .ok (store.update id (.list (items.set place value)))
      | none => .error (complaint .outOfRange "list assignment index out of range")
  | _ =>
    .error (complaint .wrongType
      ("'" ++ (store.shape node).kindName ++ "' object does not support item assignment"))

/-- Removes the part of a node under a key. -/
def delete (store : Store) (node : Node) (key : Atom) : Except Fault Store :=
  match store.container? node with
  | some (id, .map entries) =>
    if (Entries.get? entries key).isSome then .ok (store.update id (.map (Entries.erase entries key)))
    else .error (complaint .noKey key.written)
  | some (id, .list items) =>
    match index? key with
    | none => .error (notByKey "list" key.kindName)
    | some index =>
      match position? items.length index with
      | some place => .ok (store.update id (.list (items.eraseIdx place)))
      | none => .error (complaint .outOfRange "list assignment index out of range")
  | _ =>
    .error (complaint .wrongType
      ("'" ++ (store.shape node).kindName ++ "' object doesn't support item deletion"))

/-- Appends to the list of a node. -/
def push (store : Store) (node : Node) (value : Node) : Except Fault Store :=
  match store.container? node with
  | some (id, .list items) => .ok (store.update id (.list (items ++ [value])))
  | _ =>
    .error (complaint .noMember
      ("'" ++ (store.shape node).kindName ++ "' object has no attribute 'append'"))

/-- The list under a key of a node; where the key is absent a new list is put there. -/
def listUnder (store : Store) (node : Node) (key : Atom) : Except Fault (Node × Store) :=
  match store.shape node with
  | .map entries =>
    match Entries.get? entries key with
    | some list => .ok (list, store)
    | none => do
      let (list, store) := store.add (.list [])
      return (list, ← store.assign node key list)
  | _ => do return (← store.part node key, store)

end ClientGen.Store
